import Runlane.Helper.Commands

/-!
What the option parsers of the helper accept.

A line is accepted when it consists of known options whose values decode and
every required option is among them. Of an option given more than once the last
value counts, but the values before it have to decode as well.
-/

namespace Runlane.Helper

open Fallible Yaml CommandLine

def ValueOption.spelling : ValueOption → String
  | .leaseFile => "--lease-file"
  | .requestFile => "--request-file"
  | .allowlistFile => "--allowlist-file"
  | .nodeId => "--node-id"
  | .now => "--now"

theorem named_eq_some {option : String} {named : ValueOption} :
    ValueOption.named option = some named ↔ option = named.spelling := by
  constructor
  · intro known
    unfold ValueOption.named at known
    split at known <;> cases known <;> rfl
  · rintro rfl
    cases named <;> rfl

theorem spelling_injective : Function.Injective ValueOption.spelling := by
  intro named named' same
  have known := named_eq_some.mpr (rfl : named.spelling = named.spelling)
  rw [same, named_eq_some.mpr rfl] at known
  exact (Option.some.inj known).symm

section Owned

variable {α : Type} {field : OptionValues → Option α} {decode : String → Option α}

/-- An option owns a field when its own decoding sets the field and no other changes it. -/
theorem executeSyntax_owns (named : ValueOption)
    (own : ∀ value set, named.decode value = .ok set →
      ∃ a, decode value = some a ∧ ∀ values, field (set values) = some a)
    (other : ∀ named', named' ≠ named → ∀ value set, named'.decode value = .ok set →
      ∀ values, field (set values) = field values)
    (dry : ∀ values, field { values with dryRun := true } = field values) :
    executeSyntax.Owns named.spelling field decode where
  lone flag set known := by
    simp only [executeSyntax, Option.ite_none_right_eq_some, Option.some.injEq] at known
    obtain ⟨rfl, rfl⟩ := known
    exact dry
  own read value set known decoded := by
    simp only [executeSyntax, Option.map_eq_some_iff, named_eq_some] at known
    obtain ⟨named', same, rfl⟩ := known
    obtain rfl := spelling_injective same
    exact own value set decoded
  other option read value set differs known decoded := by
    simp only [executeSyntax, Option.map_eq_some_iff, named_eq_some] at known
    obtain ⟨named', rfl, rfl⟩ := known
    exact other named' (fun same => differs (same ▸ rfl)) value set decoded

end Owned

theorem decode_now {value : String} {set : OptionValues → OptionValues}
    (decoded : ValueOption.now.decode value = .ok set) :
    ∃ seconds, parseU64 value = some seconds ∧
      set = fun values => { values with nowUnixSeconds := some seconds } := by
  simp only [ValueOption.decode] at decoded
  cases read : parseU64 value with
  | none =>
      rw [read] at decoded
      cases decoded
  | some seconds =>
      rw [read] at decoded
      cases decoded
      exact ⟨seconds, rfl, rfl⟩

/-- Decoding an option changes the field of that option and nothing else. -/
theorem decode_frame {named : ValueOption} {value : String} {set : OptionValues → OptionValues}
    (decoded : named.decode value = .ok set) (values : OptionValues) :
    (named ≠ .leaseFile → (set values).leaseFile = values.leaseFile) ∧
      (named ≠ .requestFile → (set values).requestFile = values.requestFile) ∧
      (named ≠ .allowlistFile → (set values).allowlistFile = values.allowlistFile) ∧
      (named ≠ .nodeId → (set values).nodeId = values.nodeId) ∧
      (named ≠ .now → (set values).nowUnixSeconds = values.nowUnixSeconds) ∧
      (set values).dryRun = values.dryRun := by
  cases named with
  | leaseFile | requestFile | allowlistFile | nodeId =>
      cases decoded
      simp
  | now =>
      obtain ⟨seconds, -, rfl⟩ := decode_now decoded
      simp

theorem owns_leaseFile : executeSyntax.Owns "--lease-file" OptionValues.leaseFile some :=
  executeSyntax_owns .leaseFile
    (fun value _ decoded => ⟨value, rfl, fun _ => by cases decoded; rfl⟩)
    (fun _ differs _ _ decoded values => (decode_frame decoded values).1 differs) fun _ => rfl

theorem owns_requestFile : executeSyntax.Owns "--request-file" OptionValues.requestFile some :=
  executeSyntax_owns .requestFile
    (fun value _ decoded => ⟨value, rfl, fun _ => by cases decoded; rfl⟩)
    (fun _ differs _ _ decoded values => (decode_frame decoded values).2.1 differs) fun _ => rfl

theorem owns_allowlistFile :
    executeSyntax.Owns "--allowlist-file" OptionValues.allowlistFile some :=
  executeSyntax_owns .allowlistFile
    (fun value _ decoded => ⟨value, rfl, fun _ => by cases decoded; rfl⟩)
    (fun _ differs _ _ decoded values => (decode_frame decoded values).2.2.1 differs) fun _ => rfl

theorem owns_nodeId : executeSyntax.Owns "--node-id" OptionValues.nodeId some :=
  executeSyntax_owns .nodeId
    (fun value _ decoded => ⟨value, rfl, fun _ => by cases decoded; rfl⟩)
    (fun _ differs _ _ decoded values => (decode_frame decoded values).2.2.2.1 differs) fun _ => rfl

theorem owns_now : executeSyntax.Owns "--now" OptionValues.nowUnixSeconds parseU64 :=
  executeSyntax_owns .now
    (fun _ _ decoded => by
      obtain ⟨seconds, read, rfl⟩ := decode_now decoded
      exact ⟨seconds, read, fun _ => rfl⟩)
    (fun _ differs _ _ decoded values => (decode_frame decoded values).2.2.2.2.1 differs)
    fun _ => rfl

theorem owns_dryRun : executeSyntax.OwnsFlag "--dry-run" OptionValues.dryRun where
  own set known values := by
    rw [lone_dry_run, Option.some.injEq] at known
    subst known
    rfl
  lone flag set differs known := by
    rw [lone_eq_none differs] at known
    cases known
  valued option read value set known decoded values := by
    simp only [executeSyntax, Option.map_eq_some_iff] at known
    obtain ⟨named, -, rfl⟩ := known
    exact (decode_frame decoded values).2.2.2.2.2

theorem required_eq_ok {α : Type} {value : Option α} {option : String} {a : α} :
    required value option = .ok a ↔ value = some a := by
  cases value <;> simp [required]

/-- The options that a line of `execute` spells: the last value of each, and a dry
run where the flag is given. -/
structure ExecuteOptions.Spelled (given : List Given) (options : ExecuteOptions) : Prop where
  accepted : ∀ one ∈ given, executeSyntax.Accepts one
  leaseFile : lastValue "--lease-file" given = some options.leaseFile
  requestFile : lastValue "--request-file" given = some options.requestFile
  allowlistFile : lastValue "--allowlist-file" given = some options.allowlistFile
  nodeId : lastValue "--node-id" given = some options.nodeId
  now : (lastValue "--now" given).bind parseU64 = some options.nowUnixSeconds
  dryRun : options.dryRun = true ↔ .lone "--dry-run" ∈ given

def OptionValues.initial : OptionValues :=
  ⟨none, none, none, none, none, false⟩

/-- What the options have met is what the line says last of each. -/
theorem fields_of_reads {given : List Given} {change : OptionValues → OptionValues}
    (reads : executeSyntax.Reads given change) :
    change .initial = {
      leaseFile := lastValue "--lease-file" given
      requestFile := lastValue "--request-file" given
      allowlistFile := lastValue "--allowlist-file" given
      nodeId := lastValue "--node-id" given
      nowUnixSeconds := (lastValue "--now" given).bind parseU64
      dryRun := decide (.lone "--dry-run" ∈ given) } := by
  have leaseFile := reads.field_eq owns_leaseFile .initial
  have requestFile := reads.field_eq owns_requestFile .initial
  have allowlistFile := reads.field_eq owns_allowlistFile .initial
  have nodeId := reads.field_eq owns_nodeId .initial
  have now := reads.field_eq owns_now .initial
  have dryRun := reads.flag_eq owns_dryRun .initial
  generalize change .initial = values at *
  cases values with
  | mk =>
      simp only [OptionValues.initial, Option.or_none, Option.bind_fun_some, Bool.false_eq_true,
        or_false] at *
      subst leaseFile requestFile allowlistFile nodeId now
      congr 1
      exact Bool.eq_iff_iff.mpr (dryRun.trans decide_eq_true_iff.symm)

theorem ExecuteOptions.parse_eq_ok {args : List String} {options : ExecuteOptions} :
    ExecuteOptions.parse args = .ok options ↔
      ∃ given, args = words given ∧ options.Spelled given := by
  simp only [ExecuteOptions.parse, bind_eq_ok, pure_eq_ok, parse_eq_scan, Syntax.scan_eq_ok,
    required_eq_ok]
  constructor
  · intro parsed
    obtain ⟨_, ⟨given, change, rfl, reads, rfl⟩, leaseFile, isLease, requestFile, isRequest,
      allowlistFile, isAllowlist, nodeId, isNode, seconds, isNow, rfl⟩ := parsed
    have fields := fields_of_reads reads
    rw [OptionValues.initial] at fields
    rw [fields] at isLease isRequest isAllowlist isNode isNow
    rw [fields]
    exact ⟨given, rfl, Syntax.exists_reads.mp ⟨change, reads⟩, isLease, isRequest, isAllowlist,
      isNode, isNow, decide_eq_true_iff⟩
  · intro spelled
    obtain ⟨given, rfl, spelled⟩ := spelled
    obtain ⟨change, reads⟩ := Syntax.exists_reads.mpr spelled.accepted
    refine ⟨_, ⟨given, change, rfl, reads, fields_of_reads reads⟩, _, spelled.leaseFile, _,
      spelled.requestFile, _, spelled.allowlistFile, _, spelled.nodeId, _, spelled.now, ?_⟩
    have dryRun : decide (.lone "--dry-run" ∈ given) = options.dryRun :=
      Bool.eq_iff_iff.mpr (decide_eq_true_iff.trans spelled.dryRun.symm)
    rw [dryRun]

/-- The four options of a preflight, and what each makes of its value. -/
inductive PreflightOptions.Decodes (debug : String → String) (value : String) :
    String → (PreflightValues → PreflightValues) → Prop
  | helperBinary :
      Decodes debug value "--helper-binary" fun values => { values with helperBinary := some value }
  | allowlistFile :
      Decodes debug value "--allowlist-file" fun values =>
        { values with allowlistFile := some value }
  | ownerUid {uid : Nat} (read : parseOwnerUid value = .ok uid) :
      Decodes debug value "--expected-owner-uid" fun values =>
        { values with expectedOwnerUid := some uid }
  | mode {mode : Nat} (read : parseOctalMode debug value = .ok mode) :
      Decodes debug value "--expected-mode" fun values => { values with expectedMode := some mode }

theorem preflight_decodes {debug : String → String} {option value : String}
    {set : PreflightValues → PreflightValues} :
    (∃ read, (preflightSyntax debug).valued option = some read ∧ read value = .ok set) ↔
      PreflightOptions.Decodes debug value option set := by
  constructor
  · intro decoded
    obtain ⟨read, known, decoded⟩ := decoded
    simp only [preflightSyntax, PreflightOptions.valued] at known
    split at known
    · cases known
      cases decoded
      exact .helperBinary
    · cases known
      cases decoded
      exact .allowlistFile
    · cases known
      obtain ⟨uid, read, built⟩ := bind_eq_ok.mp decoded
      cases built
      exact .ownerUid read
    · cases known
      obtain ⟨mode, read, built⟩ := bind_eq_ok.mp decoded
      cases built
      exact .mode read
    · cases known
  · intro decodes
    cases decodes with
    | helperBinary => exact ⟨_, rfl, rfl⟩
    | allowlistFile => exact ⟨_, rfl, rfl⟩
    | ownerUid read => exact ⟨_, rfl, bind_eq_ok.mpr ⟨_, read, rfl⟩⟩
    | mode read => exact ⟨_, rfl, bind_eq_ok.mpr ⟨_, read, rfl⟩⟩

section Owned

variable {α : Type} {debug : String → String} {field : PreflightValues → Option α}
  {decode : String → Option α}

theorem preflightSyntax_owns {option : String}
    (own : ∀ option' value set, option' = option →
      PreflightOptions.Decodes debug value option' set →
      ∃ a, decode value = some a ∧ ∀ values, field (set values) = some a)
    (other : ∀ option' value set, option' ≠ option →
      PreflightOptions.Decodes debug value option' set →
      ∀ values, field (set values) = field values) :
    (preflightSyntax debug).Owns option field decode where
  lone _ _ known := nomatch known
  own read value set known decoded :=
    own option value set rfl (preflight_decodes.mp ⟨read, known, decoded⟩)
  other option' read value set differs known decoded :=
    other option' value set differs (preflight_decodes.mp ⟨read, known, decoded⟩)

end Owned

variable {debug : String → String}

theorem owns_helperBinary :
    (preflightSyntax debug).Owns "--helper-binary" PreflightValues.helperBinary some :=
  preflightSyntax_owns
    (fun option' value set same decodes => by cases decodes <;> simp at same ⊢)
    (fun option' value set differs decodes values => by cases decodes <;> simp at differs ⊢)

theorem owns_preflightAllowlist :
    (preflightSyntax debug).Owns "--allowlist-file" PreflightValues.allowlistFile some :=
  preflightSyntax_owns
    (fun option' value set same decodes => by cases decodes <;> simp at same ⊢)
    (fun option' value set differs decodes values => by cases decodes <;> simp at differs ⊢)

theorem owns_ownerUid :
    (preflightSyntax debug).Owns "--expected-owner-uid" PreflightValues.expectedOwnerUid
      fun value => (parseOwnerUid value).toOption :=
  preflightSyntax_owns
    (fun option' value set same decodes => by
      cases decodes with
      | helperBinary | allowlistFile | mode => simp at same
      | ownerUid read => exact ⟨_, by rw [read]; rfl, fun _ => rfl⟩)
    (fun option' value set differs decodes values => by cases decodes <;> simp at differs ⊢)

theorem owns_mode :
    (preflightSyntax debug).Owns "--expected-mode" PreflightValues.expectedMode
      fun value => (parseOctalMode debug value).toOption :=
  preflightSyntax_owns
    (fun option' value set same decodes => by
      cases decodes with
      | helperBinary | allowlistFile | ownerUid => simp at same
      | mode read => exact ⟨_, by rw [read]; rfl, fun _ => rfl⟩)
    (fun option' value set differs decodes values => by cases decodes <;> simp at differs ⊢)

/-- The options that a line of `preflight` spells: the last value of each. -/
structure PreflightOptions.Spelled (debug : String → String) (given : List Given)
    (options : PreflightOptions) : Prop where
  accepted : ∀ one ∈ given, (preflightSyntax debug).Accepts one
  helperBinary : lastValue "--helper-binary" given = some options.helperBinary
  allowlistFile : lastValue "--allowlist-file" given = some options.allowlistFile
  ownerUid : ((lastValue "--expected-owner-uid" given).bind fun value =>
    (parseOwnerUid value).toOption) = some options.expectedOwnerUid
  mode : ((lastValue "--expected-mode" given).bind fun value =>
    (parseOctalMode debug value).toOption) = some options.expectedMode

theorem preflight_fields_of_reads {given : List Given} {change : PreflightValues → PreflightValues}
    (reads : (preflightSyntax debug).Reads given change) :
    change ⟨none, none, none, none⟩ = {
      helperBinary := lastValue "--helper-binary" given
      allowlistFile := lastValue "--allowlist-file" given
      expectedOwnerUid := (lastValue "--expected-owner-uid" given).bind fun value =>
        (parseOwnerUid value).toOption
      expectedMode := (lastValue "--expected-mode" given).bind fun value =>
        (parseOctalMode debug value).toOption } := by
  have helperBinary := reads.field_eq owns_helperBinary ⟨none, none, none, none⟩
  have allowlistFile := reads.field_eq owns_preflightAllowlist ⟨none, none, none, none⟩
  have ownerUid := reads.field_eq owns_ownerUid ⟨none, none, none, none⟩
  have mode := reads.field_eq owns_mode ⟨none, none, none, none⟩
  generalize change ⟨none, none, none, none⟩ = values at *
  cases values with
  | mk =>
      simp only [Option.or_none, Option.bind_fun_some] at *
      subst helperBinary allowlistFile ownerUid mode
      rfl

theorem PreflightOptions.parse_eq_ok {args : List String} {options : PreflightOptions} :
    PreflightOptions.parse debug args = .ok options ↔
      ∃ given, args = words given ∧ options.Spelled debug given := by
  simp only [PreflightOptions.parse, bind_eq_ok, pure_eq_ok, Syntax.scan_eq_ok, required_eq_ok]
  constructor
  · intro parsed
    obtain ⟨_, ⟨given, change, rfl, reads, rfl⟩, helperBinary, isBinary, allowlistFile,
      isAllowlist, ownerUid, isOwner, mode, isMode, rfl⟩ := parsed
    rw [preflight_fields_of_reads reads] at isBinary isAllowlist isOwner isMode
    exact ⟨given, rfl, Syntax.exists_reads.mp ⟨change, reads⟩, isBinary, isAllowlist, isOwner,
      isMode⟩
  · intro spelled
    obtain ⟨given, rfl, spelled⟩ := spelled
    obtain ⟨change, reads⟩ := Syntax.exists_reads.mpr spelled.accepted
    exact ⟨_, ⟨given, change, rfl, reads, preflight_fields_of_reads reads⟩, _,
      spelled.helperBinary, _, spelled.allowlistFile, _, spelled.ownerUid, _, spelled.mode, rfl⟩

end Runlane.Helper
