import Runlane.Fleet.Repository

/-!
Which fields of runtime truth the search of a fleet document finds.

The search descends into the items of sequences and into the values of mappings. It
leaves out an entry whose key is not a string, together with all that is below it,
and looks neither into keys nor under tags. A forbidden key that occurs there only
goes unnoticed.
-/

namespace Runlane

namespace Fleet

open Fallible Yaml Relation

/-- The values below a value that the search descends into. -/
inductive Searched : Value → Value → Prop
  | item {values : List Value} {value : Value} (member : value ∈ values) :
      Searched value (.sequence values)
  | value {entries : List (Value × Value)} {entry : Value × Value} {key : String}
      (member : entry ∈ entries) (named : entry.1.asStr = some key) :
      Searched entry.2 (.mapping entries)

theorem Searched.below {child value : Value} (h : Searched child value) : child.Below value := by
  cases h with
  | item member => exact .item member
  | value member => exact .value member

/-- The key is one that the search comes across. -/
def Exposed (key : String) (value : Value) : Prop :=
  ∃ part, ReflTransGen Searched part value ∧ part.HasKey key

theorem Exposed.occurs {key : String} {value : Value} (h : Exposed key value) :
    value.Occurs key := by
  obtain ⟨part, searched, has⟩ := h
  exact ⟨part, ReflTransGen.mono (fun _ _ => Searched.below) _ _ searched, has⟩

def runtimeKeyOf (entry : Value × Value) : Option String :=
  entry.1.asStr.bind fun key =>
    if forbiddenKeys.contains key then some key else findRuntimeKey entry.2

theorem findRuntimeKeyInMapping_eq (entries : List (Value × Value)) :
    findRuntimeKeyInMapping entries = entries.findSome? runtimeKeyOf := by
  induction entries with
  | nil => rfl
  | cons entry entries ih =>
      obtain ⟨key, value⟩ := entry
      rw [findRuntimeKeyInMapping, List.findSome?_cons, runtimeKeyOf, ih]
      cases key.asStr with
      | none => rfl
      | some key =>
          simp only [Option.bind_some]
          cases forbiddenKeys.contains key with
          | true => rfl
          | false =>
              cases findRuntimeKey value with
              | none => rfl
              | some found => rfl

theorem findRuntimeKeyInSequence_eq (values : List Value) :
    findRuntimeKeyInSequence values = values.findSome? findRuntimeKey := by
  induction values with
  | nil => rfl
  | cons value values ih =>
      rw [findRuntimeKeyInSequence, List.findSome?_cons, ih]
      cases findRuntimeKey value with
      | none => rfl
      | some found => rfl

/-- What the search finds is a key of the value itself, or found one level below. -/
theorem findRuntimeKey_cases {value : Value} {key : String}
    (found : findRuntimeKey value = some key) :
    (key ∈ forbiddenKeys ∧ value.HasKey key) ∨
      ∃ child, Searched child value ∧ findRuntimeKey child = some key := by
  cases value with
  | mapping entries =>
      rw [findRuntimeKey, findRuntimeKeyInMapping_eq] at found
      obtain ⟨entry, member, here⟩ := List.exists_of_findSome?_eq_some found
      obtain ⟨name, named, here⟩ := Option.bind_eq_some_iff.mp here
      by_cases forbidden : forbiddenKeys.contains name = true
      · rw [if_pos forbidden] at here
        cases here
        exact .inl ⟨List.contains_iff_mem.mp forbidden, entries, rfl, entry, member, named⟩
      · rw [if_neg forbidden] at here
        exact .inr ⟨entry.2, .value member named, here⟩
  | sequence values =>
      rw [findRuntimeKey, findRuntimeKeyInSequence_eq] at found
      obtain ⟨child, member, here⟩ := List.exists_of_findSome?_eq_some found
      exact .inr ⟨child, .item member, here⟩
  | null | bool | number | string | tagged => cases found

theorem findRuntimeKey_of_hasKey {value : Value} {key : String} (forbidden : key ∈ forbiddenKeys)
    (has : value.HasKey key) : (findRuntimeKey value).isSome = true := by
  obtain ⟨entries, rfl, entry, member, named⟩ := has
  rw [findRuntimeKey, findRuntimeKeyInMapping_eq, List.findSome?_isSome_iff]
  refine ⟨entry, member, ?_⟩
  rw [runtimeKeyOf, named, Option.bind_some, if_pos (List.contains_iff_mem.mpr forbidden)]
  rfl

theorem findRuntimeKey_of_searched {child value : Value} (searched : Searched child value)
    (found : (findRuntimeKey child).isSome = true) : (findRuntimeKey value).isSome = true := by
  cases searched with
  | item member =>
      rw [findRuntimeKey, findRuntimeKeyInSequence_eq, List.findSome?_isSome_iff]
      exact ⟨child, member, found⟩
  | @value entries entry key member named =>
      rw [findRuntimeKey, findRuntimeKeyInMapping_eq, List.findSome?_isSome_iff]
      refine ⟨entry, member, ?_⟩
      rw [runtimeKeyOf, named, Option.bind_some]
      split
      · rfl
      · exact found

/-- What is found is forbidden, and the search came across it. -/
theorem findRuntimeKey_exposed (value : Value) :
    ∀ key, findRuntimeKey value = some key → key ∈ forbiddenKeys ∧ Exposed key value := by
  induction value using Value.below_induction with
  | step value ih =>
      intro key found
      cases findRuntimeKey_cases found with
      | inl here => exact ⟨here.1, value, .refl, here.2⟩
      | inr deeper =>
          obtain ⟨child, searched, found⟩ := deeper
          obtain ⟨forbidden, part, inside, has⟩ := ih child searched.below key found
          exact ⟨forbidden, part, inside.tail searched, has⟩

theorem findRuntimeKey_isSome_iff {value : Value} :
    (findRuntimeKey value).isSome = true ↔ ∃ key ∈ forbiddenKeys, Exposed key value := by
  constructor
  · intro found
    obtain ⟨key, found⟩ := Option.isSome_iff_exists.mp found
    exact ⟨key, findRuntimeKey_exposed value key found⟩
  · intro exposed
    obtain ⟨key, forbidden, part, inside, has⟩ := exposed
    induction inside with
    | refl => exact findRuntimeKey_of_hasKey forbidden has
    | tail _ searched found => exact findRuntimeKey_of_searched searched found

theorem rejectRuntimeTruth_eq_ok {yaml : FleetYaml} {path body : String} {value : Value}
    (parsed : yaml.value body = .ok value) :
    rejectRuntimeTruth yaml path body = .ok () ↔ findRuntimeKey value = none := by
  have read : parseYaml path body yaml.value = .ok value := mapError_eq_ok.mpr parsed
  simp only [rejectRuntimeTruth, read, bind, Except.bind]
  cases findRuntimeKey value with
  | none => exact iff_of_true rfl rfl
  | some key => simp [invalid]

/-- The search finds a forbidden key whenever one occurs anywhere in the value, what it
finds is one that occurs, and no document with one passes. -/
structure TruthRejected (value : Value) : Prop where
  found : (findRuntimeKey value).isSome = true ↔ ∃ key ∈ forbiddenKeys, value.Occurs key
  named : ∀ key, findRuntimeKey value = some key → key ∈ forbiddenKeys ∧ value.Occurs key
  rejected : ∀ yaml path body, yaml.value body = .ok value →
    rejectRuntimeTruth yaml path body = .ok () → ∀ key ∈ forbiddenKeys, ¬ value.Occurs key

/-- Runtime truth is rejected unless all of it is where the search does not look. -/
theorem runtime_truth_rejected_iff (value : Value) :
    TruthRejected value ↔
      ((∃ key ∈ forbiddenKeys, value.Occurs key) → ∃ key ∈ forbiddenKeys, Exposed key value) := by
  constructor
  · intro rejected occurs
    exact findRuntimeKey_isSome_iff.mp (rejected.found.mpr occurs)
  · intro exposed
    have found : (findRuntimeKey value).isSome = true ↔
        ∃ key ∈ forbiddenKeys, value.Occurs key := by
      rw [findRuntimeKey_isSome_iff]
      refine ⟨?_, exposed⟩
      intro ⟨key, forbidden, here⟩
      exact ⟨key, forbidden, here.occurs⟩
    refine ⟨found, ?_, ?_⟩
    · intro key here
      obtain ⟨forbidden, here⟩ := findRuntimeKey_exposed value key here
      exact ⟨forbidden, here.occurs⟩
    · intro yaml path body parsed passed key forbidden occurs
      have some := found.mpr ⟨key, forbidden, occurs⟩
      rw [(rejectRuntimeTruth_eq_ok parsed).mp passed] at some
      cases some

/-- The `select` section of a runbook, with a number for a key. -/
def numberKeyed : List (Value × Value) :=
  [(.number (.posInt 1), .mapping [(.string "evidence", .string "sshd failed")])]

def hiddenEvidence : Value :=
  .mapping [(.string "select", .mapping numberKeyed)]

theorem hidden_runtime_truth_passes : ¬ ∀ value, TruthRejected value := by
  intro h
  have occurs : hiddenEvidence.Occurs "evidence" := by
    have outer : (Value.mapping numberKeyed).Below hiddenEvidence :=
      .value (List.mem_singleton_self (Value.string "select", Value.mapping numberKeyed))
    have inner : Value.Below _ (.mapping numberKeyed) := .value (List.mem_singleton_self _)
    exact ⟨_, .tail (.single inner) outer, _, rfl, _, List.mem_cons_self, rfl⟩
  have found := (h hiddenEvidence).found.mpr ⟨"evidence", by decide, occurs⟩
  exact absurd found (by decide)

end Fleet

end Runlane
