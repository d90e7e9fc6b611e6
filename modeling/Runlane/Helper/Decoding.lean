import Runlane.Helper.Replay

/-!
What the decoders of the helper leave out.

Three fields are optional: the nonces that were seen, the arguments of the request,
and the entries of the allowlist. Each is looked up in the one form it can have, and
a field in any other form counts as absent. A required field of the wrong form is an
error instead.
-/

namespace Runlane.Helper

open Fallible Yaml

section Optional

variable {α β : Type} {field : Option Value} {read : Value → Option (List α)}
  {kept : α → β → Prop} {decoded : List β}

/-- The field is absent, or has the form and all its items are kept. -/
def Taken (field : Option Value) (read : Value → Option (List α)) (kept : α → β → Prop)
    (decoded : List β) : Prop :=
  ∀ value, field = some value → ∃ items, read value = some items ∧ List.Forall₂ kept items decoded

def AbsentOrOf (field : Option Value) (read : Value → Option (List α)) : Prop :=
  ∀ value, field = some value → (read value).isSome = true

theorem taken_iff (whole : ∀ items, field.bind read = some items →
    List.Forall₂ kept items decoded) : Taken field read kept decoded ↔ AbsentOrOf field read := by
  constructor
  · intro taken value present
    obtain ⟨items, formed, -⟩ := taken value present
    rw [formed, Option.isSome_some]
  · intro formed value present
    obtain ⟨items, hitems⟩ := Option.isSome_iff_exists.mp (formed value present)
    have found : field.bind read = some items := by rw [present, Option.bind_some, hitems]
    exact ⟨items, hitems, whole items found⟩

end Optional

theorem parseSeenNonces_whole {value : Value} {nonces : List String}
    (parsed : parseSeenNonces value = .ok nonces) (values : List Value)
    (found : (value.get "seen_nonces").bind Value.asSequence = some values) :
    List.Forall₂ (fun value nonce => value.asStr = some nonce) values nonces := by
  rw [parseSeenNonces, found, mapM_eq_ok] at parsed
  refine parsed.imp ?_
  intro value nonce each
  unfold parseSeenNonce at each
  cases text : value.asStr with
  | none => simp [text] at each
  | some text' => simpa [text] using each

theorem parseArgument_eq_ok {entry : Value × Value} {argument : HelperArgument}
    (parsed : parseArgument entry = .ok argument) :
    entry.1.asStr = some argument.name ∧ entry.2.asStr = some argument.value := by
  unfold parseArgument at parsed
  cases name : entry.1.asStr with
  | none => simp [name] at parsed
  | some name' =>
      cases value : entry.2.asStr with
      | none => simp [name, value] at parsed
      | some value' =>
          simp only [name, value] at parsed
          cases parsed
          exact ⟨rfl, rfl⟩

theorem parseRequest_whole {value : Value} {request : HelperActionRequest}
    (parsed : parseRequest value = .ok request) (entries : List (Value × Value))
    (found : (value.get "arguments").bind Value.asMapping = some entries) :
    List.Forall₂ (fun entry argument => entry.1.asStr = some argument.name ∧
      entry.2.asStr = some argument.value) entries request.arguments := by
  simp only [parseRequest, found, bind_eq_ok, pure_eq_ok] at parsed
  obtain ⟨arguments, each, _, -, _, -, _, -, _, -, _, -, rfl⟩ := parsed
  exact (mapM_eq_ok.mp each).imp fun entry argument => parseArgument_eq_ok

theorem parseAllowlist_whole {value : Value} {allowlist : HelperAllowlist}
    (parsed : parseAllowlist value = .ok allowlist) (values : List Value)
    (found : (value.get "entries").bind Value.asSequence = some values) :
    List.Forall₂ (fun value entry => parseAllowlistEntry value = .ok entry) values
      allowlist.entries := by
  simp only [parseAllowlist, found, bind_eq_ok, pure_eq_ok] at parsed
  obtain ⟨entries, each, rfl⟩ := parsed
  exact mapM_eq_ok.mp each

/-- No optional field that is present was passed over: what it lists is among the
nonces validated against, in the request, or in the allowlist. -/
structure NothingDiscarded (leaseYaml requestYaml allowlistYaml : Value)
    (options : ExecuteOptions) (loaded : LoadedHelperInput) : Prop where
  seenNonces : Taken (leaseYaml.get "seen_nonces") Value.asSequence
    (fun value nonce => value.asStr = some nonce) (validationContext options loaded).seenNonces
  arguments : Taken (requestYaml.get "arguments") Value.asMapping
    (fun entry argument => entry.1.asStr = some argument.name ∧
      entry.2.asStr = some argument.value) loaded.request.arguments
  entries : Taken (allowlistYaml.get "entries") Value.asSequence
    (fun value entry => parseAllowlistEntry value = .ok entry)
    (validationContext options loaded).allowlist.entries

/-- When the decoders succeed, they have left out the optional fields that are present
in another form than the one looked for, and nothing else. -/
theorem nothing_discarded_iff {leaseYaml requestYaml allowlistYaml : Value}
    {loaded : LoadedHelperInput} (options : ExecuteOptions)
    (decoded : Decoded leaseYaml requestYaml allowlistYaml loaded) :
    NothingDiscarded leaseYaml requestYaml allowlistYaml options loaded ↔
      AbsentOrOf (leaseYaml.get "seen_nonces") Value.asSequence ∧
        AbsentOrOf (requestYaml.get "arguments") Value.asMapping ∧
        AbsentOrOf (allowlistYaml.get "entries") Value.asSequence := by
  have nonces := taken_iff (parseSeenNonces_whole decoded.seenNonces)
  have arguments := taken_iff (parseRequest_whole decoded.request)
  have entries := taken_iff (parseAllowlist_whole decoded.allowlist)
  constructor
  · intro kept
    exact ⟨nonces.mp kept.seenNonces, arguments.mp kept.arguments, entries.mp kept.entries⟩
  · intro formed
    obtain ⟨noncesFormed, argumentsFormed, entriesFormed⟩ := formed
    exact ⟨nonces.mpr noncesFormed, arguments.mpr argumentsFormed, entries.mpr entriesFormed⟩

namespace Smoke

theorem decoded : Decoded leaseYaml requestYaml allowlistYaml loaded :=
  ⟨rfl, rfl, rfl, rfl, rfl⟩

/-- The lease file with another value for the nonces that were seen. -/
def leaseSeeing (seen : Value) : Value :=
  .mapping ((leaseYaml.asMapping.getD []).map fun entry =>
    if entry.1.isKey "seen_nonces" then (entry.1, seen) else entry)

end Smoke

theorem nothing_discarded_smoke :
    Decoded Smoke.leaseYaml Smoke.requestYaml Smoke.allowlistYaml Smoke.loaded ∧
      NothingDiscarded Smoke.leaseYaml Smoke.requestYaml Smoke.allowlistYaml Smoke.options
        Smoke.loaded := by
  refine ⟨Smoke.decoded, (nothing_discarded_iff Smoke.options Smoke.decoded).mpr ⟨?_, ?_, ?_⟩⟩
  · intro value present
    cases present
    rfl
  · intro value present
    cases present
    rfl
  · intro value present
    cases present
    rfl

/-- A used nonce that is listed alone, not in a sequence, is forgotten. -/
theorem lone_nonce_discarded :
    ¬ ∀ leaseYaml requestYaml allowlistYaml loaded options,
      Decoded leaseYaml requestYaml allowlistYaml loaded →
        NothingDiscarded leaseYaml requestYaml allowlistYaml options loaded := by
  intro h
  have decoded : Decoded (Smoke.leaseSeeing (.string "nonce-helper-smoke")) Smoke.requestYaml
      Smoke.allowlistYaml Smoke.loaded := ⟨rfl, rfl, rfl, rfl, rfl⟩
  obtain ⟨items, formed, -⟩ := (h _ _ _ _ Smoke.options decoded).seenNonces _ rfl
  cases formed

end Runlane.Helper
