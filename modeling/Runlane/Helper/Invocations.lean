import Runlane.Helper.Options

/-!
When the helper succeeds, and what it prints then.

A preflight holds for one owner and one mode of a binary, so what it prints can
be given to it again.
-/

namespace Runlane.Helper

open Fallible Yaml CommandLine

variable {debug : String → String}

/-- The binary is a regular file of the expected owner and mode, which lets someone
execute it and neither group nor world write it, and the allowlist loads. -/
structure Passes (host : PreflightHost) (options : PreflightOptions) : Prop where
  binary : ∃ metadata, host.metadata options.helperBinary = .ok metadata ∧
    metadata.isFile = true ∧ metadata.uid = options.expectedOwnerUid ∧
    metadata.mode &&& 0o7777 = options.expectedMode
  executable : options.expectedMode &&& 0o111 ≠ 0
  guarded : options.expectedMode &&& 0o022 = 0
  allowlist : ∃ yaml allowlist, readYaml host.toHost options.allowlistFile = .ok yaml ∧
    parseAllowlist yaml = .ok allowlist

def PreflightOptions.report (options : PreflightOptions) : HelperPreflightReport where
  helperBinary := options.helperBinary
  ownerUid := options.expectedOwnerUid
  mode := options.expectedMode
  allowlistFile := options.allowlistFile

theorem checkOwnerAndMode_eq_ok {options : PreflightOptions} {ownerUid mode : Nat} {done : Unit} :
    checkOwnerAndMode options ownerUid mode = .ok done ↔
      ownerUid = options.expectedOwnerUid ∧ mode = options.expectedMode ∧
        mode &&& 0o111 ≠ 0 ∧ mode &&& 0o022 = 0 := by
  simp only [checkOwnerAndMode, ite_error_eq_ok, ne_eq, not_not, and_true]

theorem check_eq_ok {host : PreflightHost} {options : PreflightOptions}
    {report : HelperPreflightReport} :
    HelperPreflightReport.check host options = .ok report ↔
      Passes host options ∧ options.report = report := by
  simp only [HelperPreflightReport.check, bind_eq_ok, mapError_eq_ok, checkBinary,
    ite_error_eq_ok, Bool.not_eq_true', Bool.not_eq_false, checkOwnerAndMode_eq_ok, pure_eq_ok]
  constructor
  · intro checked
    obtain ⟨metadata, found, -, ⟨regular, owner, mode, executable, guarded⟩, yaml, read, allowlist,
      parsed, rfl⟩ := checked
    rw [mode] at executable guarded
    refine ⟨⟨⟨metadata, found, regular, owner, mode⟩, executable, guarded, yaml, allowlist, read,
      parsed⟩, ?_⟩
    simp only [PreflightOptions.report, owner, mode]
  · intro passes
    obtain ⟨⟨⟨metadata, found, regular, owner, mode⟩, executable, guarded, yaml, allowlist, read,
      parsed⟩, rfl⟩ := passes
    refine ⟨metadata, found, (), ⟨regular, owner, mode, ?_, ?_⟩, yaml, read, allowlist, parsed, ?_⟩
    · exact fun none => executable (mode ▸ none)
    · exact (congrArg (· &&& 0o022) mode).trans guarded
    · simp only [PreflightOptions.report, unixOwnerAndMode, owner, mode]

/-- The files of a command line load, the request passes every check of the helper
under a nonce that its lease file does not list, and the report is this. -/
def Validates (host : Host) (options : ExecuteOptions) (text : String) : Prop :=
  ∃ loaded, LoadedHelperInput.load host options = .ok loaded ∧
    HelperChecks loaded.request loaded.lease (validationContext options loaded) ∧
    loaded.lease.claims.nonce ∉ loaded.seenNonces ∧
    report loaded.lease.claims.invocation = .ok text

theorem execute_eq_ok {host : Host} {args : List String} {text : String} :
    execute host args = .ok text ↔
      ∃ given options, args = words given ∧ options.Spelled given ∧ options.dryRun = true ∧
        Validates host options text := by
  simp only [execute, bind_eq_ok, ExecuteOptions.parse_eq_ok]
  constructor
  · intro executed
    obtain ⟨options, ⟨given, rfl, spelled⟩, done⟩ := executed
    cases dry : options.dryRun with
    | false => simp [dry] at done
    | true =>
        rw [dry, if_pos rfl] at done
        obtain ⟨loaded, load, done⟩ := bind_eq_ok.mp done
        obtain ⟨accepted, valid, reported⟩ := bind_eq_ok.mp done
        obtain ⟨checks, unseen, rfl⟩ := validateHelperRequest_eq_ok.mp (mapError_eq_ok.mp valid)
        exact ⟨given, options, rfl, spelled, dry, loaded, load, checks, unseen, reported⟩
  · intro valid
    obtain ⟨given, options, rfl, spelled, dry, loaded, load, checks, unseen, reported⟩ := valid
    refine ⟨options, ⟨given, rfl, spelled⟩, ?_⟩
    rw [dry, if_pos rfl]
    have accepted := validateHelperRequest_eq_ok.mpr ⟨checks, unseen, rfl⟩
    exact bind_eq_ok.mpr ⟨loaded, load, bind_eq_ok.mpr ⟨_, mapError_eq_ok.mpr accepted, reported⟩⟩

/-- The flag stands alone, or the word is not taken as the value of an option. -/
def FlagNotSwallowed (given : List Given) : Prop :=
  .lone "--dry-run" ∈ given ∨ ∀ option, .valued option "--dry-run" ∉ given

theorem word_of_lone {flag : String} {given : List Given} (member : .lone flag ∈ given) :
    flag ∈ words given :=
  mem_words.mpr ⟨_, member, List.mem_singleton_self flag⟩

/-- A dry run put behind arguments that do not hold the flag was not asked for by them. -/
theorem spelled_of_appended {args : List String} {given : List Given} {options : ExecuteOptions}
    (absent : "--dry-run" ∉ args) (same : args ++ ["--dry-run"] = words given)
    (spelled : options.Spelled given) (dry : options.dryRun = true) :
    ∃ front, args = words front ∧
      ExecuteOptions.Spelled front { options with dryRun := false } := by
  obtain ⟨front, back, rfl⟩ := List.append_of_mem (spelled.dryRun.mp dry)
  rw [words_append, words_lone, List.append_cons_inj_of_notMem absent List.not_mem_nil] at same
  obtain ⟨rfl, -, nothing⟩ := same
  obtain rfl := words_eq_nil.mp nothing.symm
  refine ⟨front, rfl, ?_, ?_, ?_, ?_, ?_, ?_, ?_⟩
  · exact fun one member => spelled.accepted one (List.mem_append_left _ member)
  · exact lastValue_lone _ _ front ▸ spelled.leaseFile
  · exact lastValue_lone _ _ front ▸ spelled.requestFile
  · exact lastValue_lone _ _ front ▸ spelled.allowlistFile
  · exact lastValue_lone _ _ front ▸ spelled.nodeId
  · exact lastValue_lone _ _ front ▸ spelled.now
  · have alone : .lone "--dry-run" ∉ front := fun member => absent (word_of_lone member)
    simp [alone]

theorem spelled_append {given : List Given} {options : ExecuteOptions}
    (spelled : options.Spelled given) :
    ExecuteOptions.Spelled (given ++ [.lone "--dry-run"]) { options with dryRun := true } where
  accepted := by
    intro one member
    cases List.mem_append.mp member with
    | inl earlier => exact spelled.accepted one earlier
    | inr last =>
        obtain rfl := List.mem_singleton.mp last
        exact ⟨_, lone_dry_run⟩
  leaseFile := (lastValue_lone _ _ given).trans spelled.leaseFile
  requestFile := (lastValue_lone _ _ given).trans spelled.requestFile
  allowlistFile := (lastValue_lone _ _ given).trans spelled.allowlistFile
  nodeId := (lastValue_lone _ _ given).trans spelled.nodeId
  now := by
    rw [lastValue_lone]
    exact spelled.now
  dryRun := by simp

theorem dryRunSmoke_eq_ok {host : Host} {args : List String} {text : String} :
    dryRunSmoke host args = .ok text ↔
      ∃ given options, args = words given ∧ options.Spelled given ∧ FlagNotSwallowed given ∧
        Validates host options text := by
  unfold dryRunSmoke
  by_cases present : "--dry-run" ∈ args
  · rw [if_pos present, execute_eq_ok]
    constructor
    · intro executed
      obtain ⟨given, options, same, spelled, dry, valid⟩ := executed
      exact ⟨given, options, same, spelled, .inl (spelled.dryRun.mp dry), valid⟩
    · intro smoked
      obtain ⟨given, options, rfl, spelled, free, valid⟩ := smoked
      have flag : .lone "--dry-run" ∈ given := by
        obtain ⟨one, member, inside⟩ := mem_words.mp present
        cases free with
        | inl flag => exact flag
        | inr unswallowed =>
            cases one with
            | lone flag =>
                obtain rfl := List.mem_singleton.mp inside
                exact member
            | valued option value =>
                cases List.mem_cons.mp inside with
                | inl own =>
                    subst own
                    have unknown := (spelled.accepted _ member).1
                    rw [lone_dry_run] at unknown
                    cases unknown
                | inr swallowed =>
                    obtain rfl := List.mem_singleton.mp swallowed
                    exact (unswallowed option member).elim
      exact ⟨given, options, rfl, spelled, spelled.dryRun.mpr flag, valid⟩
  · rw [if_neg present, execute_eq_ok]
    constructor
    · intro executed
      obtain ⟨given, options, same, spelled, dry, valid⟩ := executed
      obtain ⟨front, rfl, spelled'⟩ := spelled_of_appended present same spelled dry
      refine ⟨front, _, rfl, spelled', .inr fun option member => present ?_, valid⟩
      exact mem_words.mpr ⟨_, member, by simp [Given.words]⟩
    · intro smoked
      obtain ⟨given, options, rfl, spelled, -, valid⟩ := smoked
      have appended : words given ++ ["--dry-run"] = words (given ++ [.lone "--dry-run"]) := by
        rw [words_append]
        rfl
      exact ⟨_, { options with dryRun := true }, appended, spelled_append spelled, rfl, valid⟩

theorem preflight_eq_ok {host : PreflightHost} {args : List String} {text : String} :
    preflight debug host args = .ok text ↔
      ∃ given options, args = words given ∧ options.Spelled debug given ∧ Passes host options ∧
        options.report.render = text := by
  simp only [preflight, bind_eq_ok, PreflightOptions.parse_eq_ok, check_eq_ok, pure_eq_ok]
  constructor
  · intro passed
    obtain ⟨options, ⟨given, rfl, spelled⟩, _, ⟨passes, rfl⟩, rendered⟩ := passed
    exact ⟨given, options, rfl, spelled, passes, rendered⟩
  · intro passed
    obtain ⟨given, options, rfl, spelled, passes, rendered⟩ := passed
    exact ⟨options, ⟨given, rfl, spelled⟩, _, ⟨passes, rfl⟩, rendered⟩

/-- The invocations of the helper that succeed, and what each prints. -/
inductive Succeeds (debug : String → String) (host : PreflightHost) : List String → String → Prop
  | skeleton : Succeeds debug host [] skeleton
  | help {flag : String} (rest : List String) (asks : flag = "--help" ∨ flag = "-h") :
      Succeeds debug host (flag :: rest) help
  | preflight {given : List Given} {options : PreflightOptions}
      (spelled : options.Spelled debug given) (passes : Passes host options) :
      Succeeds debug host ("preflight" :: words given) options.report.render
  | execute {given : List Given} {options : ExecuteOptions} {text : String}
      (spelled : options.Spelled given) (dry : .lone "--dry-run" ∈ given)
      (valid : Validates host.toHost options text) :
      Succeeds debug host ("execute" :: words given) text
  | smoke {given : List Given} {options : ExecuteOptions} {text : String}
      (spelled : options.Spelled given) (free : FlagNotSwallowed given)
      (valid : Validates host.toHost options text) :
      Succeeds debug host ("dry-run-smoke" :: words given) text

/-- The helper succeeds in these cases and no others. -/
theorem helper_succeeds_iff (debug : String → String) (host : PreflightHost) (args : List String)
    (text : String) : run debug host args = .ok text ↔ Succeeds debug host args text := by
  constructor
  · intro succeeded
    unfold run at succeeded
    split at succeeded
    · cases succeeded
      exact .skeleton
    · obtain ⟨given, options, rfl, spelled, dry, valid⟩ := execute_eq_ok.mp succeeded
      exact .execute spelled (spelled.dryRun.mp dry) valid
    · obtain ⟨given, options, rfl, spelled, free, valid⟩ := dryRunSmoke_eq_ok.mp succeeded
      exact .smoke spelled free valid
    · obtain ⟨given, options, rfl, spelled, passes, rfl⟩ := preflight_eq_ok.mp succeeded
      exact .preflight spelled passes
    · cases succeeded
      exact .help _ (.inl rfl)
    · cases succeeded
      exact .help _ (.inr rfl)
    · cases succeeded
  · intro succeeds
    cases succeeds with
    | skeleton => rfl
    | help rest asks =>
        obtain rfl | rfl := asks
        · rfl
        · rfl
    | preflight spelled passes => exact preflight_eq_ok.mpr ⟨_, _, rfl, spelled, passes, rfl⟩
    | execute spelled dry valid =>
        exact execute_eq_ok.mpr ⟨_, _, rfl, spelled, spelled.dryRun.mpr dry, valid⟩
    | smoke spelled free valid =>
        exact dryRunSmoke_eq_ok.mpr ⟨_, _, rfl, spelled, free, valid⟩

/-- The options that a report names, with its numbers as it prints them. -/
def HelperPreflightReport.given (report : HelperPreflightReport) : List Given :=
  [.valued "--helper-binary" report.helperBinary, .valued "--allowlist-file" report.allowlistFile,
    .valued "--expected-owner-uid" report.ownerUid.repr,
    .valued "--expected-mode" (octal report.mode)]

theorem withoutOctalPrefix_octal (mode : Nat) : withoutOctalPrefix (octal mode) = octal mode := by
  unfold withoutOctalPrefix
  split
  · next digits marked =>
      have digit : Numeral.isDigitOf 8 'o' = true :=
        Numeral.isDigitOf_padded (by decide) (by decide) 4 mode 'o'
          (by rw [← octal, marked]; simp)
      exact absurd digit (by decide)
  · rfl

theorem parseOctalMode_octal {mode : Nat} (fits : mode < UInt32.size) :
    parseOctalMode debug (octal mode) = .ok mode := by
  have read : Numeral.fromStrRadix 8 UInt32.size (octal mode) = some mode :=
    Numeral.fromStrRadix_padded (by decide) (by decide) 4 fits
  rw [parseOctalMode, withoutOctalPrefix_octal, read]

theorem parseOwnerUid_repr {uid : Nat} (fits : uid < UInt32.size) :
    parseOwnerUid uid.repr = .ok uid := by
  rw [parseOwnerUid, Numeral.fromStrRadix_repr fits]

theorem spelled_fits {given : List Given} {options : PreflightOptions}
    (spelled : options.Spelled debug given) :
    options.expectedOwnerUid < UInt32.size ∧ options.expectedMode < UInt32.size := by
  constructor
  · obtain ⟨value, -, read⟩ := Option.bind_eq_some_iff.mp spelled.ownerUid
    rw [parseOwnerUid] at read
    cases number : Numeral.fromStrRadix 10 UInt32.size value with
    | none =>
        rw [number] at read
        cases read
    | some uid =>
        rw [number] at read
        cases read
        exact Numeral.fromStrRadix_lt number
  · obtain ⟨value, -, read⟩ := Option.bind_eq_some_iff.mp spelled.mode
    rw [parseOctalMode] at read
    cases number : Numeral.fromStrRadix 8 UInt32.size (withoutOctalPrefix value) with
    | none =>
        rw [number] at read
        cases read
    | some mode =>
        rw [number] at read
        cases read
        exact Numeral.fromStrRadix_lt number

/-- The options that a report names spell what was expected, in any order. -/
theorem spelled_report {options : PreflightOptions} {given : List Given}
    (owner : options.expectedOwnerUid < UInt32.size) (mode : options.expectedMode < UInt32.size)
    (order : given.Perm options.report.given) : options.Spelled debug given := by
  have mem : ∀ one, one ∈ given ↔ one ∈ options.report.given := fun one => order.mem_iff
  have last : ∀ {option : String} (value : String), .valued option value ∈ options.report.given →
      (∀ value', .valued option value' ∈ options.report.given → value' = value) →
      lastValue option given = some value := fun value member unique =>
    lastValue_of_unique ((mem _).mpr member) fun value' found => unique value' ((mem _).mp found)
  have parsedOwner := parseOwnerUid_repr owner
  have parsedMode : parseOctalMode debug (octal options.expectedMode) = .ok options.expectedMode :=
    parseOctalMode_octal mode
  constructor
  · intro one member
    have named := (mem one).mp member
    simp only [HelperPreflightReport.given, List.mem_cons, List.not_mem_nil, or_false] at named
    obtain rfl | rfl | rfl | rfl := named
    · exact ⟨rfl, _, _, rfl, rfl⟩
    · exact ⟨rfl, _, _, rfl, rfl⟩
    · exact ⟨rfl, _, _, rfl, bind_eq_ok.mpr ⟨_, parsedOwner, rfl⟩⟩
    · exact ⟨rfl, _, _, rfl, bind_eq_ok.mpr ⟨_, parsedMode, rfl⟩⟩
  · exact last options.helperBinary
      (by simp [HelperPreflightReport.given, PreflightOptions.report])
      (by simp [HelperPreflightReport.given, PreflightOptions.report])
  · exact last options.allowlistFile
      (by simp [HelperPreflightReport.given, PreflightOptions.report])
      (by simp [HelperPreflightReport.given, PreflightOptions.report])
  · rw [last options.expectedOwnerUid.repr
      (by simp [HelperPreflightReport.given, PreflightOptions.report])
      (by simp [HelperPreflightReport.given, PreflightOptions.report]), Option.bind_some,
      parsedOwner]
    rfl
  · rw [last (octal options.expectedMode)
      (by simp [HelperPreflightReport.given, PreflightOptions.report])
      (by simp [HelperPreflightReport.given, PreflightOptions.report]), Option.bind_some,
      parsedMode]
    rfl

/-- What a preflight makes of a line is decided by the options that the line spells. -/
theorem preflight_of_spelled {host : PreflightHost} {given : List Given}
    {options : PreflightOptions} {text : String} (spelled : options.Spelled debug given) :
    preflight debug host (words given) = .ok text ↔
      Passes host options ∧ options.report.render = text := by
  have parsed := PreflightOptions.parse_eq_ok.mpr ⟨given, rfl, spelled⟩
  simp only [preflight, parsed, bind_eq_ok, Except.ok.injEq, check_eq_ok, pure_eq_ok]
  constructor
  · intro passed
    obtain ⟨_, rfl, _, ⟨passes, rfl⟩, rendered⟩ := passed
    exact ⟨passes, rendered⟩
  · intro passed
    exact ⟨options, rfl, _, ⟨passed.1, rfl⟩, passed.2⟩

/-- A binary has one owner and one mode. -/
theorem passes_determined {host : PreflightHost} {options options' : PreflightOptions}
    (passes : Passes host options) (passes' : Passes host options')
    (same : options'.helperBinary = options.helperBinary) :
    options'.expectedOwnerUid = options.expectedOwnerUid ∧
      options'.expectedMode = options.expectedMode := by
  obtain ⟨metadata, found, -, owner, mode⟩ := passes.binary
  obtain ⟨metadata', found', -, owner', mode'⟩ := passes'.binary
  rw [same, found, Except.ok.injEq] at found'
  subst found'
  exact ⟨owner'.symm.trans owner, mode'.symm.trans mode⟩

/-- What a preflight prints can be given to it again, in any order, and of the
expectations of one binary and one allowlist it is the only one to pass at all. -/
theorem preflight_replays {debug : String → String} {host : PreflightHost} {args : List String}
    {text : String} (passed : run debug host ("preflight" :: args) = .ok text) :
    ∃ report : HelperPreflightReport, report.render = text ∧
      (∀ given, given.Perm report.given →
        run debug host ("preflight" :: words given) = .ok text) ∧
      ∀ given options, PreflightOptions.Spelled debug given options →
        options.helperBinary = report.helperBinary →
        options.allowlistFile = report.allowlistFile →
        ((∃ text', run debug host ("preflight" :: words given) = .ok text') ↔
          options.expectedOwnerUid = report.ownerUid ∧ options.expectedMode = report.mode) ∧
        (options.expectedOwnerUid = report.ownerUid ∧ options.expectedMode = report.mode →
          run debug host ("preflight" :: words given) = .ok text) := by
  obtain ⟨given, options, rfl, spelled, passes, rfl⟩ := preflight_eq_ok.mp passed
  obtain ⟨owner, mode⟩ := spelled_fits spelled
  refine ⟨options.report, rfl, ?_, ?_⟩
  · intro given' order
    exact (preflight_of_spelled (spelled_report owner mode order)).mpr ⟨passes, rfl⟩
  · intro given' options' spelled' binary allowlist
    have again : options'.expectedOwnerUid = options.expectedOwnerUid ∧
        options'.expectedMode = options.expectedMode →
        run debug host ("preflight" :: words given') = .ok options.report.render := by
      intro same
      have equal : options' = options := by
        cases options'
        cases options
        simp only [PreflightOptions.report] at binary allowlist same
        rw [binary, allowlist, same.1, same.2]
      exact (preflight_of_spelled spelled').mpr ⟨equal ▸ passes, by rw [equal]⟩
    refine ⟨⟨?_, fun same => ⟨_, again same⟩⟩, again⟩
    intro succeeds
    obtain ⟨text', succeeds⟩ := succeeds
    exact passes_determined passes ((preflight_of_spelled spelled').mp succeeds).1 binary

/-- A host with one binary of the helper and one allowlist without entries. -/
def preflightHost : PreflightHost where
  readToString path :=
    if path = "allowlist.yaml" then .ok "entries: []\n"
    else .error "No such file or directory (os error 2)"
  fromStr body :=
    if body = "entries: []\n" then .ok (.mapping [(.string "entries", .sequence [])])
    else .error "did not find expected node content"
  metadata path :=
    if path = "runlane-helper" then .ok ⟨true, 0, 0o100755⟩
    else .error "No such file or directory (os error 2)"

def preflightReport : String :=
  "status: succeeded\nhelper_binary: runlane-helper\nowner_uid: 0\nmode: 0755\n" ++
    "allowlist_file: allowlist.yaml\ndry_run_support: present\n" ++
    "message: helper preflight passed without mutating host"

theorem preflight_replays_octal :
    ∃ report : HelperPreflightReport, report.render = preflightReport ∧
      (∀ given, given.Perm report.given →
        run id preflightHost ("preflight" :: words given) = .ok preflightReport) ∧
      ∀ given options, PreflightOptions.Spelled id given options →
        options.helperBinary = report.helperBinary →
        options.allowlistFile = report.allowlistFile →
        ((∃ text', run id preflightHost ("preflight" :: words given) = .ok text') ↔
          options.expectedOwnerUid = report.ownerUid ∧ options.expectedMode = report.mode) ∧
        (options.expectedOwnerUid = report.ownerUid ∧ options.expectedMode = report.mode →
          run id preflightHost ("preflight" :: words given) = .ok preflightReport) :=
  @preflight_replays id preflightHost ["--expected-mode", "0o755", "--helper-binary",
    "runlane-helper", "--expected-owner-uid", "+0", "--allowlist-file", "allowlist.yaml"]
    preflightReport (by decide +kernel)

end Runlane.Helper
