import Runlane.Agent.Platform
import Runlane.Agent.Provisioning
import Runlane.Helper.Input

/-!
The command line of the agent.

A parser takes the flags that it asks for out of the arguments, one after the
other, each with the argument behind it, and in the end nothing may be left. So it
does not depend on the order in which the options were given.
-/

namespace Runlane.Agent

open Frame

inductive CliError where
  | config (error : AgentConfigError)
  | collector (error : CollectorExecutionError)
  | dogfood (message : String)
  | usage
deriving DecidableEq

/-- A parser of the arguments that no flag has taken yet. -/
abbrev FlagParser := EStateM CliError (List String)

namespace FlagParser

/-- The first occurrence of a flag goes, and then what stands at its place. -/
def optional (flag : String) : FlagParser (Option String) := do
  let args ← get
  match args.findIdx? fun arg => arg == flag with
  | none => return none
  | some index =>
      let rest := args.eraseIdx index
      match rest[index]? with
      | none => throw .usage
      | some value =>
          if value.startsWith "--" then throw .usage
          else
            set (rest.eraseIdx index)
            return some value

def required (flag : String) : FlagParser String := do
  match ← optional flag with
  | some value => return value
  | none => throw .usage

def unsigned (debug : String → String) (flag value : String) : Except CliError Nat :=
  match Helper.parseU64 value with
  | some n => .ok n
  | none => .error (.config (.invalidField flag s!"expected unsigned integer, got {debug value}"))

def requiredU64 (debug : String → String) (flag : String) : FlagParser Nat := do
  ofExcept (unsigned debug flag (← required flag))

def optionalU64 (debug : String → String) (flag : String) : FlagParser (Option Nat) := do
  match ← optional flag with
  | some value => return some (← ofExcept (unsigned debug flag value))
  | none => return none

def present (flag : String) : FlagParser Bool := do
  let args ← get
  match args.findIdx? fun arg => arg == flag with
  | none => return false
  | some index =>
      set (args.eraseIdx index)
      return true

def finish : FlagParser Unit := do
  if !(← get).isEmpty then throw .usage

/-- What a parser makes of the arguments of a command. -/
def parse {α : Type} (parser : FlagParser α) (args : List String) : Except CliError α :=
  match parser.run args with
  | .ok a _ => .ok a
  | .error error _ => .error error

end FlagParser

open FlagParser

structure DogfoodOptions where
  serviceName : String
  stateDir : String
  nodeId : String
deriving DecidableEq

def DogfoodOptions.parser : FlagParser DogfoodOptions := do
  let serviceName ← required "--service"
  let stateDir ← required "--state-dir"
  let nodeId := (← optional "--node-id").getD "prod-web-01"
  finish
  return { serviceName, stateDir, nodeId }

def currentSupportedPlatform (native : NativeBackend) : Except CliError OperatingSystem :=
  if native.backend.os = .unknown then
    .error (.config (.invalidField "platform_family" ("detected platform is unsupported; " ++
      "pass a first-class v0.1 platform explicitly")))
  else .ok native.backend.os

def configInitParser (native : NativeBackend) (debug : String → String) :
    FlagParser InitConfigOptions := do
  let configPath ← required "--config"
  let nodeId ← required "--node-id"
  let serverUrl ← required "--server-url"
  let serverTrustRootPath ← required "--trust-root-path"
  let identityPath ← required "--identity-path"
  let certificatePath ← required "--certificate-path"
  let privateKeyPath ← required "--private-key-path"
  let spoolDir ← required "--spool-dir"
  let family ← optional "--platform-family"
  let platformFamily ← ofExcept (match family with
    | some value => (parseOperatingSystem debug value).mapError .config
    | none => currentSupportedPlatform native)
  let force ← present "--force"
  finish
  return {
    configPath
    config := {
      nodeId
      serverUrl
      serverTrustRootPath
      identityPath
      certificatePath
      privateKeyPath
      spoolDir
      platformFamily }
    force }

def identityInstallParser (debug : String → String) : FlagParser InstallIdentityOptions := do
  let configPath ← required "--config"
  let certificateFingerprint ← required "--certificate-fingerprint"
  let enrolledAtUnixSeconds ← requiredU64 debug "--enrolled-at"
  let expiresAtUnixSeconds ← optionalU64 debug "--expires-at"
  let force ← present "--force"
  finish
  return {
    configPath
    certificateFingerprint
    enrolledAtUnixSeconds
    expiresAtUnixSeconds
    force }

/-- A command with one required option. -/
def singleParser (flag : String) : FlagParser String := do
  let value ← required flag
  finish
  return value

inductive Command where
  | platformProbe
  | demoEnrollPull
  | configInit (options : InitConfigOptions)
  | configShow (configPath : String)
  | configValidate (configPath : String)
  | identityInstall (options : InstallIdentityOptions)
  | collectSmoke (serviceName : String)
  | dogfoodServiceUnhealthy (options : DogfoodOptions)
  | run (configPath : String)
deriving DecidableEq

namespace Command

/-- What a command line is read as before anything is done. -/
def parse (native : NativeBackend) (debug : String → String) : List String →
    Except CliError Command
  | [] => .ok .platformProbe
  | ["demo-enroll-pull"] => .ok .demoEnrollPull
  | "config" :: "init" :: args => .configInit <$> (configInitParser native debug).parse args
  | "config" :: "show" :: args => .configShow <$> (singleParser "--config").parse args
  | "config" :: "validate" :: args => .configValidate <$> (singleParser "--config").parse args
  | "identity" :: "install" :: args =>
      .identityInstall <$> (identityInstallParser debug).parse args
  | "collect-smoke" :: args => .collectSmoke <$> (singleParser "--service").parse args
  | "dogfood-service-unhealthy" :: args =>
      .dogfoodServiceUnhealthy <$> DogfoodOptions.parser.parse args
  | "run" :: args => .run <$> (singleParser "--config").parse args
  | _ => .error .usage

end Command

/-- One option as it is given. -/
inductive Setting where
  | valued (flag value : String)
  | lone (flag : String)

namespace Setting

def flag : Setting → String
  | valued flag _ | lone flag => flag

def words : Setting → List String
  | valued flag value => [flag, value]
  | lone flag => [flag]

/-- No value of the option reads as a flag. -/
def Readable : Setting → Prop
  | valued _ value => value.startsWith "--" = false
  | lone _ => True

/-- What asking for the value of the option comes to. -/
def taken (args rest : List String) :
    Setting → EStateM.Result CliError (List String) (Option String)
  | valued _ value => .ok (some value) rest
  | lone _ => .error .usage args

end Setting

def words (settings : List Setting) : List String :=
  settings.flatMap Setting.words

/-- No flag is given twice, and no value reads as a flag. -/
structure Plain (settings : List Setting) : Prop where
  distinct : (settings.map Setting.flag).Nodup
  dashed : ∀ setting ∈ settings, setting.flag.startsWith "--" = true
  values : ∀ flag value, .valued flag value ∈ settings →
    value.startsWith "--" = false ∧ flag ≠ "--force"

/-- The same plain options in another order. -/
structure Reordered (args args' : List String) : Prop where
  options : ∃ settings settings' : List Setting, settings.Perm settings' ∧ Plain settings ∧
    args = words settings ∧ args' = words settings'

theorem Plain.perm {settings settings' : List Setting} (plain : Plain settings)
    (same : settings.Perm settings') : Plain settings' where
  distinct := (same.map Setting.flag).nodup_iff.mp plain.distinct
  dashed setting member := plain.dashed setting (same.mem_iff.mpr member)
  values flag value member := plain.values flag value (same.mem_iff.mpr member)

theorem Plain.sublist {settings settings' : List Setting} (plain : Plain settings)
    (part : settings'.Sublist settings) : Plain settings' where
  distinct := plain.distinct.sublist (part.map Setting.flag)
  dashed setting member := plain.dashed setting (part.subset member)
  values flag value member := plain.values flag value (part.subset member)

/-- A flag is a word of the options only as the flag of one of them. -/
theorem Plain.flag_mem_words {settings : List Setting} (plain : Plain settings) {flag : String}
    (dashed : flag.startsWith "--" = true) :
    flag ∈ words settings ↔ ∃ setting ∈ settings, setting.flag = flag := by
  rw [words, List.mem_flatMap]
  refine exists_congr fun setting => and_congr_right fun member => ?_
  cases setting with
  | lone other => simp [Setting.words, Setting.flag, eq_comm]
  | valued other value =>
      have plainValue := (plain.values other value member).1
      have differs : flag ≠ value := by
        rintro rfl
        rw [dashed] at plainValue
        cases plainValue
      simp [Setting.words, Setting.flag, differs, eq_comm]

theorem words_split (front back : List Setting) (setting : Setting) :
    words (front ++ setting :: back) = words front ++ (setting.words ++ words back) := by
  rw [words, List.flatMap_append, List.flatMap_cons]
  rfl

theorem words_append (front back : List Setting) :
    words (front ++ back) = words front ++ words back :=
  List.flatMap_append

/-- Options of which one has a given flag. -/
structure Named (settings : List Setting) (flag : String) (front : List Setting)
    (setting : Setting) (back : List Setting) : Prop where
  split : settings = front ++ setting :: back
  named : setting.flag = flag
  plain : Plain settings

theorem exists_named {settings : List Setting} {setting : Setting} (plain : Plain settings)
    (member : setting ∈ settings) :
    ∃ front back, Named settings setting.flag front setting back := by
  obtain ⟨front, back, split⟩ := List.append_of_mem member
  exact ⟨front, back, split, rfl, plain⟩

namespace Named

variable {settings front back : List Setting} {setting : Setting} {flag : String}

theorem rest (named : Named settings flag front setting back) : Plain (front ++ back) := by
  refine named.plain.sublist ?_
  rw [named.split]
  exact (List.Sublist.refl front).append (List.sublist_cons_self setting back)

theorem dashed (named : Named settings flag front setting back) :
    flag.startsWith "--" = true := by
  rw [← named.named]
  exact named.plain.dashed setting (by simp [named.split])

/-- The flag stands in front of everything else that the option has. -/
theorem first (named : Named settings flag front setting back) : flag ∉ words front := by
  have distinct := named.plain.distinct
  have front_plain : Plain front := by
    refine named.plain.sublist ?_
    rw [named.split]
    exact List.sublist_append_left _ _
  rw [front_plain.flag_mem_words named.dashed]
  intro other
  obtain ⟨other, member, same⟩ := other
  rw [named.split, List.map_append, List.nodup_append] at distinct
  refine distinct.2.2 _ (List.mem_map_of_mem member) _ (List.mem_map_of_mem List.mem_cons_self) ?_
  rw [same, named.named]

end Named

namespace FlagParser

variable {before rest : List String} {flag : String}

theorem findIdx?_first (absent : flag ∉ before) :
    (before ++ flag :: rest).findIdx? (fun arg => arg == flag) = some before.length := by
  have none : before.findIdx? (fun arg => arg == flag) = none := by
    rw [List.findIdx?_eq_none_iff]
    intro arg member
    rw [beq_eq_false_iff_ne]
    rintro rfl
    exact absent member
  rw [List.findIdx?_append, none, List.findIdx?_cons, if_pos (beq_self_eq_true flag)]
  simp

theorem findIdx?_absent (absent : flag ∉ rest) :
    rest.findIdx? (fun arg => arg == flag) = none := by
  rw [List.findIdx?_eq_none_iff]
  intro arg member
  rw [beq_eq_false_iff_ne]
  rintro rfl
  exact absent member

theorem run_optional_absent (absent : flag ∉ rest) :
    (optional flag).run rest = .ok none rest := by
  rw [optional, EStateM.run_bind, EStateM.run_get]
  simp only [findIdx?_absent absent]
  rfl

theorem run_optional_value (absent : flag ∉ before) {value : String}
    (plain : value.startsWith "--" = false) :
    (optional flag).run (before ++ flag :: value :: rest) = .ok (some value) (before ++ rest) := by
  rw [optional, EStateM.run_bind, EStateM.run_get]
  simp only [findIdx?_first absent, List.eraseIdx_append_of_length_le le_rfl, Nat.sub_self,
    List.eraseIdx_cons_zero, List.getElem?_append_right le_rfl, List.getElem?_cons_zero, plain]
  rfl

theorem run_optional_missing (absent : flag ∉ before)
    (missing : ∀ value after, rest = value :: after → value.startsWith "--" = true) :
    (optional flag).run (before ++ flag :: rest) = .error .usage (before ++ flag :: rest) := by
  rw [optional, EStateM.run_bind, EStateM.run_get]
  simp only [findIdx?_first absent, List.eraseIdx_append_of_length_le le_rfl, Nat.sub_self,
    List.eraseIdx_cons_zero, List.getElem?_append_right le_rfl]
  cases rest with
  | nil => rfl
  | cons value after =>
      simp only [List.getElem?_cons_zero, missing value after rfl]
      rfl

theorem run_present_absent (absent : flag ∉ rest) :
    (present flag).run rest = .ok false rest := by
  rw [present, EStateM.run_bind, EStateM.run_get]
  simp only [findIdx?_absent absent]
  rfl

theorem run_present_first (absent : flag ∉ before) :
    (present flag).run (before ++ flag :: rest) = .ok true (before ++ rest) := by
  rw [present, EStateM.run_bind, EStateM.run_get]
  simp only [findIdx?_first absent, List.eraseIdx_append_of_length_le le_rfl, Nat.sub_self,
    List.eraseIdx_cons_zero]
  rfl

/-- What asking for the value of a flag comes to where an option has the flag. -/
theorem run_optional_named {settings front back : List Setting} {setting : Setting}
    (named : Named settings flag front setting back) :
    (optional flag).run (words settings) =
      setting.taken (words settings) (words (front ++ back)) := by
  have same := named.named
  have split := named.split
  rw [split, words_split]
  cases setting with
  | valued other value =>
      obtain rfl : other = flag := same
      have plain := (named.plain.values other value (by simp [split])).1
      rw [words_append]
      exact run_optional_value named.first plain
  | lone other =>
      obtain rfl : other = flag := same
      refine run_optional_missing named.first ?_
      intro value after behind
      cases back with
      | nil => cases behind
      | cons next back =>
          have dashed := named.plain.dashed next (by simp [split])
          cases next with
          | valued =>
              cases behind
              exact dashed
          | lone =>
              cases behind
              exact dashed

theorem run_present_named {settings front back : List Setting} {setting : Setting}
    (named : Named settings "--force" front setting back) :
    (present "--force").run (words settings) = .ok true (words (front ++ back)) := by
  have same := named.named
  have split := named.split
  cases setting with
  | valued other value =>
      exact absurd same (named.plain.values other value (by simp [split])).2
  | lone other =>
      obtain rfl : other = "--force" := same
      rw [split, words_split, words_append]
      exact run_present_first named.first

/-- Options with a flag, in two orders: the same one has it, and the others are in
two orders. -/
theorem reordered_cases {args args' : List String} (reordered : Reordered args args')
    {flag : String} (dashed : flag.startsWith "--" = true) :
    (flag ∉ args ∧ flag ∉ args') ∨
      ∃ settings settings' front back front' back' setting,
        args = words settings ∧ args' = words settings' ∧
        Named settings flag front setting back ∧ Named settings' flag front' setting back' ∧
        Reordered (words (front ++ back)) (words (front' ++ back')) := by
  obtain ⟨settings, settings', same, plain, rfl, rfl⟩ := reordered.options
  have plain' := plain.perm same
  by_cases given : ∃ setting ∈ settings, setting.flag = flag
  · obtain ⟨setting, member, rfl⟩ := given
    obtain ⟨front, back, named⟩ := exists_named plain member
    obtain ⟨front', back', named'⟩ := exists_named plain' (same.mem_iff.mp member)
    refine .inr ⟨settings, settings', front, back, front', back', setting, rfl, rfl, named, named',
      ⟨front ++ back, front' ++ back', ?_, named.rest, rfl, rfl⟩⟩
    rw [named.split, named'.split] at same
    exact (List.perm_cons setting).mp
      (List.perm_middle.symm.trans (same.trans List.perm_middle))
  · refine .inl ⟨mt (plain.flag_mem_words dashed).mp given, ?_⟩
    rw [plain'.flag_mem_words dashed]
    intro given'
    obtain ⟨setting, member, named⟩ := given'
    exact given ⟨setting, same.mem_iff.mpr member, named⟩

theorem blind_optional (dashed : flag.startsWith "--" = true) :
    Blind Reordered (optional flag) := by
  intro args args' reordered
  cases reordered_cases reordered dashed with
  | inl absent =>
      rw [run_optional_absent absent.1, run_optional_absent absent.2]
      exact .ok none reordered
  | inr given =>
      obtain ⟨_, _, _, _, _, _, setting, rfl, rfl, named, named', rest⟩ := given
      rw [run_optional_named named, run_optional_named named']
      cases setting with
      | valued other value => exact .ok (some value) rest
      | lone other => exact .error _ _ _

theorem blind_present : Blind Reordered (present "--force") := by
  intro args args' reordered
  have dashed : "--force".startsWith "--" = true := by decide +kernel
  cases reordered_cases reordered dashed with
  | inl absent =>
      rw [run_present_absent absent.1, run_present_absent absent.2]
      exact .ok false reordered
  | inr given =>
      obtain ⟨_, _, _, _, _, _, setting, rfl, rfl, named, named', rest⟩ := given
      rw [run_present_named named, run_present_named named']
      exact .ok true rest

theorem words_eq_nil {settings : List Setting} : words settings = [] ↔ settings = [] := by
  cases settings with
  | nil => exact Iff.intro (fun _ => rfl) fun _ => rfl
  | cons setting settings =>
      refine ⟨fun empty => ?_, nofun⟩
      cases setting <;> cases empty

theorem blind_finish : Blind Reordered finish := by
  intro args args' reordered
  obtain ⟨settings, settings', same, plain, rfl, rfl⟩ := reordered.options
  have none : words settings = [] ↔ words settings' = [] := by
    rw [words_eq_nil, words_eq_nil]
    exact ⟨fun empty => (empty ▸ same).nil_eq.symm, fun empty => (empty ▸ same).eq_nil⟩
  simp only [finish, EStateM.run_bind, EStateM.run_get, Bool.not_eq_true',
    List.isEmpty_eq_false_iff]
  by_cases empty : words settings = []
  · rw [if_neg (not_not.mpr empty), if_neg (not_not.mpr (none.mp empty))]
    exact .ok () reordered
  · rw [if_pos empty, if_pos (mt none.mpr empty)]
    exact .error _ _ _

theorem blind_required (dashed : flag.startsWith "--" = true) :
    Blind Reordered (required flag) := by
  refine (blind_optional dashed).bind fun found => ?_
  cases found with
  | some value => exact blind_pure value
  | none => exact blind_throw _

theorem blind_single (dashed : flag.startsWith "--" = true) :
    Blind Reordered (singleParser flag) :=
  (blind_required dashed).bind fun value => blind_finish.bind fun _ => blind_pure value

theorem parse_reordered {α : Type} {parser : FlagParser α} (blind : Blind Reordered parser)
    {args args' : List String} (reordered : Reordered args args') :
    parser.parse args = parser.parse args' := by
  have same := blind args args' reordered
  unfold parse
  generalize parser.run args = one at same ⊢
  generalize parser.run args' = other at same ⊢
  cases same with
  | ok a => rfl
  | error e => rfl

end FlagParser

open FlagParser

theorem blind_dogfood : Blind Reordered DogfoodOptions.parser := by
  refine (blind_required (by decide +kernel)).bind fun _ => ?_
  refine (blind_required (by decide +kernel)).bind fun _ => ?_
  refine (blind_optional (by decide +kernel)).bind fun _ => ?_
  exact blind_finish.bind fun _ => blind_pure _

theorem blind_configInit (native : NativeBackend) (debug : String → String) :
    Blind Reordered (configInitParser native debug) := by
  refine (blind_required (by decide +kernel)).bind fun _ => ?_
  refine (blind_required (by decide +kernel)).bind fun _ => ?_
  refine (blind_required (by decide +kernel)).bind fun _ => ?_
  refine (blind_required (by decide +kernel)).bind fun _ => ?_
  refine (blind_required (by decide +kernel)).bind fun _ => ?_
  refine (blind_required (by decide +kernel)).bind fun _ => ?_
  refine (blind_required (by decide +kernel)).bind fun _ => ?_
  refine (blind_required (by decide +kernel)).bind fun _ => ?_
  refine (blind_optional (by decide +kernel)).bind fun _ => ?_
  refine (blind_ofExcept _).bind fun _ => ?_
  refine blind_present.bind fun _ => ?_
  exact blind_finish.bind fun _ => blind_pure _

theorem blind_identityInstall (debug : String → String) :
    Blind Reordered (identityInstallParser debug) := by
  refine (blind_required (by decide +kernel)).bind fun _ => ?_
  refine (blind_required (by decide +kernel)).bind fun _ => ?_
  have enrolled : Blind Reordered (requiredU64 debug "--enrolled-at") :=
    (blind_required (by decide +kernel)).bind fun _ => blind_ofExcept _
  have expires : Blind Reordered (optionalU64 debug "--expires-at") := by
    refine (blind_optional (by decide +kernel)).bind fun found => ?_
    cases found with
    | some value => exact (blind_ofExcept _).bind fun _ => blind_pure _
    | none => exact blind_pure none
  refine enrolled.bind fun _ => expires.bind fun _ => ?_
  refine blind_present.bind fun _ => ?_
  exact blind_finish.bind fun _ => blind_pure _

namespace Command

def head : Command → List String
  | platformProbe => []
  | demoEnrollPull => ["demo-enroll-pull"]
  | configInit _ => ["config", "init"]
  | configShow _ => ["config", "show"]
  | configValidate _ => ["config", "validate"]
  | identityInstall _ => ["identity", "install"]
  | collectSmoke _ => ["collect-smoke"]
  | dogfoodServiceUnhealthy _ => ["dogfood-service-unhealthy"]
  | run _ => ["run"]

def forced (force : Bool) : List Setting :=
  if force then [.lone "--force"] else []

/-- An option with a default is written, or left out where its value is the default. -/
inductive Optionally (setting : Setting) (default : Prop) : List Setting → Prop where
  | written : Optionally setting default [setting]
  | omitted (same : default) : Optionally setting default []

/-- The options that a command may be given with, in the order in which they are taken.
A host of an unsupported platform has no default for the platform family. -/
inductive Spelled (native : NativeBackend) : Command → List Setting → Prop where
  | platformProbe : Spelled native .platformProbe []
  | demoEnrollPull : Spelled native .demoEnrollPull []
  | configInit (options : InitConfigOptions) {family : List Setting}
      (default : Optionally
        (.valued "--platform-family" (formatOperatingSystem options.config.platformFamily))
        (options.config.platformFamily = native.backend.os ∧ native.backend.os ≠ .unknown) family) :
      Spelled native (.configInit options)
        ([.valued "--config" options.configPath,
          .valued "--node-id" options.config.nodeId,
          .valued "--server-url" options.config.serverUrl,
          .valued "--trust-root-path" options.config.serverTrustRootPath,
          .valued "--identity-path" options.config.identityPath,
          .valued "--certificate-path" options.config.certificatePath,
          .valued "--private-key-path" options.config.privateKeyPath,
          .valued "--spool-dir" options.config.spoolDir] ++ family ++ forced options.force)
  | configShow (configPath : String) :
      Spelled native (.configShow configPath) [.valued "--config" configPath]
  | configValidate (configPath : String) :
      Spelled native (.configValidate configPath) [.valued "--config" configPath]
  | identityInstall (options : InstallIdentityOptions) :
      Spelled native (.identityInstall options)
        ([.valued "--config" options.configPath,
          .valued "--certificate-fingerprint" options.certificateFingerprint,
          .valued "--enrolled-at" options.enrolledAtUnixSeconds.repr] ++
        (options.expiresAtUnixSeconds.map fun expires =>
          .valued "--expires-at" expires.repr).toList ++
        forced options.force)
  | collectSmoke (serviceName : String) :
      Spelled native (.collectSmoke serviceName) [.valued "--service" serviceName]
  | dogfoodServiceUnhealthy (options : DogfoodOptions) {node : List Setting}
      (default : Optionally (.valued "--node-id" options.nodeId)
        (options.nodeId = "prod-web-01") node) :
      Spelled native (.dogfoodServiceUnhealthy options)
        ([.valued "--service" options.serviceName,
          .valued "--state-dir" options.stateDir] ++ node)
  | run (configPath : String) : Spelled native (.run configPath) [.valued "--config" configPath]

/-- A command that can be written: no text of it reads as a flag, and its numbers are `u64`. -/
structure Writable (command : Command) (settings : List Setting) : Prop where
  readable : ∀ setting ∈ settings, setting.Readable
  bounded : ∀ options, command = .identityInstall options →
    options.enrolledAtUnixSeconds < UInt64.size ∧
      ∀ expires ∈ options.expiresAtUnixSeconds, expires < UInt64.size

theorem parseU64_repr {n : Nat} (bounded : n < UInt64.size) : Helper.parseU64 n.repr = some n := by
  have digits : ∀ c ∈ Nat.toDigits 10 n, c.isDigit = true := fun c member =>
    Nat.isDigit_of_mem_toDigits (by decide) (by decide) member
  have unsigned : (Nat.toDigits 10 n).head? ≠ some '+' := by
    intro plus
    have digit := digits _ (List.mem_of_mem_head? plus)
    revert digit
    decide
  have value := Nat.ofDigitChars_ten_toDigits (n := n)
  rw [Nat.ofDigitChars_eq_foldl] at value
  simp only [Helper.parseU64, Nat.toList_repr, if_neg unsigned, value]
  rw [if_pos]
  exact ⟨Nat.toDigits_ne_nil, List.all_eq_true.mpr digits, bounded⟩

theorem run_optional_head {flag value : String} {rest : List String}
    (plain : value.startsWith "--" = false) :
    (optional flag).run (flag :: value :: rest) = .ok (some value) rest :=
  @run_optional_value [] rest flag List.not_mem_nil value plain

theorem run_required_head {flag value : String} {rest : List String}
    (plain : value.startsWith "--" = false) :
    (required flag).run (flag :: value :: rest) = .ok value rest := by
  rw [required, EStateM.run_bind, run_optional_head plain]
  rfl

theorem run_requiredU64_head {debug : String → String} {flag : String} {n : Nat}
    {rest : List String} (plain : n.repr.startsWith "--" = false) (bounded : n < UInt64.size) :
    (requiredU64 debug flag).run (flag :: n.repr :: rest) = .ok n rest := by
  rw [requiredU64, EStateM.run_bind, run_required_head plain]
  simp only [unsigned, parseU64_repr bounded]
  rfl

/-- The end of a command that can be forced. -/
theorem run_present_forced (force : Bool) :
    (present "--force").run (words (forced force)) = .ok force [] := by
  cases force with
  | true => rfl
  | false => rfl

variable {native : NativeBackend} {debug : String → String}

/-- The platform family that a host has by default. -/
theorem currentSupportedPlatform_eq_ok {os : OperatingSystem}
    (default : os = native.backend.os ∧ native.backend.os ≠ .unknown) :
    currentSupportedPlatform native = .ok os := by
  rw [currentSupportedPlatform, if_neg default.2, default.1]

theorem run_configInit {options : InitConfigOptions} {settings : List Setting}
    (spelled : Spelled native (.configInit options) settings)
    (readable : ∀ setting ∈ settings, setting.Readable) :
    (configInitParser native debug).run (words settings) = .ok options [] := by
  cases spelled with
  | configInit _ default =>
      simp only [List.forall_mem_append, List.forall_mem_cons, Setting.Readable] at readable
      obtain ⟨⟨⟨config, node, url, root, identity, certificate, key, spool, -⟩, family⟩, -⟩ :=
        readable
      have eight (rest : List Setting) : words
          ([.valued "--config" options.configPath, .valued "--node-id" options.config.nodeId,
            .valued "--server-url" options.config.serverUrl,
            .valued "--trust-root-path" options.config.serverTrustRootPath,
            .valued "--identity-path" options.config.identityPath,
            .valued "--certificate-path" options.config.certificatePath,
            .valued "--private-key-path" options.config.privateKeyPath,
            .valued "--spool-dir" options.config.spoolDir] ++ rest) =
          "--config" :: options.configPath :: "--node-id" :: options.config.nodeId ::
          "--server-url" :: options.config.serverUrl ::
          "--trust-root-path" :: options.config.serverTrustRootPath ::
          "--identity-path" :: options.config.identityPath ::
          "--certificate-path" :: options.config.certificatePath ::
          "--private-key-path" :: options.config.privateKeyPath ::
          "--spool-dir" :: options.config.spoolDir :: words rest := rfl
      rw [List.append_assoc, eight]
      simp only [configInitParser, EStateM.run_bind, run_required_head config,
        run_required_head node, run_required_head url, run_required_head root,
        run_required_head identity, run_required_head certificate, run_required_head key,
        run_required_head spool]
      cases default with
      | written =>
          have plain := family _ List.mem_cons_self
          have platform : (parseOperatingSystem debug
              (formatOperatingSystem options.config.platformFamily)).mapError CliError.config =
                .ok options.config.platformFamily :=
            Fallible.mapError_eq_ok.mpr (parseOperatingSystem_eq_ok.mpr rfl)
          have written : words ([.valued "--platform-family"
              (formatOperatingSystem options.config.platformFamily)] ++ forced options.force) =
              "--platform-family" :: formatOperatingSystem options.config.platformFamily ::
                words (forced options.force) := rfl
          simp only [written, run_optional_head plain, platform, Calls.run_ofExcept_ok,
            run_present_forced]
          rfl
      | omitted same =>
          have unset : (optional "--platform-family").run (words ([] ++ forced options.force)) =
              .ok none (words (forced options.force)) := by
            cases options.force <;> rfl
          simp only [unset, currentSupportedPlatform_eq_ok same, Calls.run_ofExcept_ok,
            run_present_forced]
          rfl

theorem run_identityInstall {options : InstallIdentityOptions} {settings : List Setting}
    (spelled : Spelled native (.identityInstall options) settings)
    (writable : (Command.identityInstall options).Writable settings) :
    (identityInstallParser debug).run (words settings) = .ok options [] := by
  obtain ⟨enrolled, expires⟩ := writable.bounded options rfl
  have readable := writable.readable
  cases spelled
  obtain ⟨configPath, fingerprint, enrolledAt, expiresAt, force⟩ := options
  cases expiresAt with
  | none =>
      simp only [List.forall_mem_append, List.forall_mem_cons, Setting.Readable] at readable
      obtain ⟨⟨⟨config, certificate, enrolledText, -⟩, -⟩, -⟩ := readable
      have written : words ([.valued "--config" configPath,
          .valued "--certificate-fingerprint" fingerprint,
          .valued "--enrolled-at" enrolledAt.repr] ++ [] ++ forced force) =
          "--config" :: configPath :: "--certificate-fingerprint" :: fingerprint ::
          "--enrolled-at" :: enrolledAt.repr :: words (forced force) := rfl
      have unset : (optionalU64 debug "--expires-at").run (words (forced force)) =
          .ok none (words (forced force)) := by
        cases force <;> rfl
      simp only [identityInstallParser, Option.map_none, Option.toList_none, written,
        EStateM.run_bind, run_required_head config, run_required_head certificate,
        run_requiredU64_head enrolledText enrolled, unset, run_present_forced]
      rfl
  | some expiresAt =>
      simp only [List.forall_mem_append, List.forall_mem_cons, Setting.Readable,
        Option.map_some, Option.toList_some] at readable
      obtain ⟨⟨⟨config, certificate, enrolledText, -⟩, expiresText, -⟩, -⟩ := readable
      have written : words ([.valued "--config" configPath,
          .valued "--certificate-fingerprint" fingerprint,
          .valued "--enrolled-at" enrolledAt.repr] ++ [.valued "--expires-at" expiresAt.repr] ++
          forced force) =
          "--config" :: configPath :: "--certificate-fingerprint" :: fingerprint ::
          "--enrolled-at" :: enrolledAt.repr :: "--expires-at" :: expiresAt.repr ::
          words (forced force) := rfl
      have set : (optionalU64 debug "--expires-at").run
          ("--expires-at" :: expiresAt.repr :: words (forced force)) =
          .ok (some expiresAt) (words (forced force)) := by
        rw [optionalU64, EStateM.run_bind, run_optional_head expiresText]
        simp only [unsigned, parseU64_repr (expires expiresAt rfl)]
        rfl
      simp only [identityInstallParser, Option.map_some, Option.toList_some, written,
        EStateM.run_bind, run_required_head config, run_required_head certificate,
        run_requiredU64_head enrolledText enrolled, set, run_present_forced]
      rfl

theorem run_dogfood {options : DogfoodOptions} {settings : List Setting}
    (spelled : Spelled native (.dogfoodServiceUnhealthy options) settings)
    (readable : ∀ setting ∈ settings, setting.Readable) :
    DogfoodOptions.parser.run (words settings) = .ok options [] := by
  cases spelled with
  | dogfoodServiceUnhealthy _ default =>
      simp only [List.forall_mem_append, List.forall_mem_cons, Setting.Readable] at readable
      obtain ⟨⟨service, stateDir, -⟩, node⟩ := readable
      have two (rest : List Setting) : words ([.valued "--service" options.serviceName,
          .valued "--state-dir" options.stateDir] ++ rest) =
          "--service" :: options.serviceName :: "--state-dir" :: options.stateDir ::
            words rest := rfl
      simp only [DogfoodOptions.parser, two, EStateM.run_bind, run_required_head service,
        run_required_head stateDir]
      cases default with
      | written =>
          have plain := node _ List.mem_cons_self
          have written : words [.valued "--node-id" options.nodeId] =
              ["--node-id", options.nodeId] := rfl
          simp only [written, run_optional_head plain]
          rfl
      | omitted same =>
          obtain ⟨serviceName, stateDirectory, nodeId⟩ := options
          obtain rfl : nodeId = "prod-web-01" := same
          rfl

theorem run_single {flag value : String} (plain : value.startsWith "--" = false) :
    (singleParser flag).run (words [.valued flag value]) = .ok value [] := by
  have written : words [.valued flag value] = [flag, value] := rfl
  simp only [singleParser, written, EStateM.run_bind, run_required_head plain]
  rfl

/-- The flags of a command, of which `--force` stands alone. -/
structure Flagged (settings : List Setting) (flags : List String) (force : Bool) : Prop where
  same : settings.map Setting.flag = flags ++ if force then ["--force"] else []
  distinct : (flags ++ ["--force"]).Nodup
  dashed : ∀ flag ∈ flags, flag.startsWith "--" = true
  alone : ∀ value, .valued "--force" value ∉ settings

theorem Flagged.plain {settings : List Setting} {flags : List String} {force : Bool}
    (flagged : Flagged settings flags force)
    (readable : ∀ setting ∈ settings, setting.Readable) : Plain settings where
  distinct := by
    rw [flagged.same]
    refine flagged.distinct.sublist ((List.Sublist.refl flags).append ?_)
    cases force with
    | true => exact List.Sublist.refl _
    | false => exact List.nil_sublist _
  dashed setting member := by
    have listed := List.mem_map_of_mem (f := Setting.flag) member
    rw [flagged.same, List.mem_append] at listed
    cases listed with
    | inl valued => exact flagged.dashed _ valued
    | inr lone =>
        cases force with
        | false => cases lone
        | true =>
            rw [List.mem_singleton.mp lone]
            decide +kernel
  values flag value member := by
    refine ⟨readable _ member, ?_⟩
    rintro rfl
    exact flagged.alone value member

theorem Spelled.flagged {command : Command} {settings : List Setting}
    (spelled : Spelled native command settings) :
    ∃ flags force, Flagged settings flags force := by
  cases spelled with
  | platformProbe => exact ⟨[], false, rfl, by decide, by decide, by simp⟩
  | demoEnrollPull => exact ⟨[], false, rfl, by decide, by decide, by simp⟩
  | configInit options default =>
      cases default with
      | written =>
          refine ⟨["--config", "--node-id", "--server-url", "--trust-root-path",
            "--identity-path", "--certificate-path", "--private-key-path", "--spool-dir",
            "--platform-family"], options.force, ?_, by decide, by decide +kernel,
            by simp [forced]⟩
          cases forcing : options.force <;> simp [forced, Setting.flag]
      | omitted =>
          refine ⟨["--config", "--node-id", "--server-url", "--trust-root-path",
            "--identity-path", "--certificate-path", "--private-key-path", "--spool-dir"],
            options.force, ?_, by decide, by decide +kernel, by simp [forced]⟩
          cases forcing : options.force <;> simp [forced, Setting.flag]
  | configShow => exact ⟨["--config"], false, rfl, by decide, by decide +kernel, by simp⟩
  | configValidate => exact ⟨["--config"], false, rfl, by decide, by decide +kernel, by simp⟩
  | identityInstall options =>
      cases expires : options.expiresAtUnixSeconds with
      | none =>
          refine ⟨["--config", "--certificate-fingerprint", "--enrolled-at"], options.force, ?_,
            by decide, by decide +kernel, by simp [forced]⟩
          cases forcing : options.force <;> simp [forced, Setting.flag]
      | some expiresAt =>
          refine ⟨["--config", "--certificate-fingerprint", "--enrolled-at", "--expires-at"],
            options.force, ?_, by decide, by decide +kernel, by simp [forced]⟩
          cases forcing : options.force <;> simp [forced, Setting.flag]
  | collectSmoke => exact ⟨["--service"], false, rfl, by decide, by decide +kernel, by simp⟩
  | dogfoodServiceUnhealthy options default =>
      cases default with
      | written =>
          exact ⟨["--service", "--state-dir", "--node-id"], false, rfl, by decide,
            by decide +kernel, by simp⟩
      | omitted =>
          exact ⟨["--service", "--state-dir"], false, rfl, by decide, by decide +kernel, by simp⟩
  | run => exact ⟨["--config"], false, rfl, by decide, by decide +kernel, by simp⟩

theorem parse_of_run {α : Type} {parser : FlagParser α} (blind : Blind Reordered parser)
    {written given : List Setting} (same : written.Perm given) (plain : Plain written) {a : α}
    (read : parser.run (words written) = .ok a []) : parser.parse (words given) = .ok a := by
  rw [← parse_reordered blind ⟨written, given, same, plain, rfl, rfl⟩, FlagParser.parse, read]

/-- A command is read as the same command whatever the order of its options, also where
an option with a default is left out. -/
theorem command_in_any_order (native : NativeBackend) (debug : String → String)
    (command : Command) (settings : List Setting) (spelled : Spelled native command settings)
    (writable : command.Writable settings) (given : List Setting) (same : settings.Perm given) :
    parse native debug (command.head ++ words given) = .ok command := by
  obtain ⟨flags, force, flagged⟩ := spelled.flagged
  have plain := flagged.plain writable.readable
  have single (flag : String) (dashed : flag.startsWith "--" = true) (value : String)
      (only : settings = [.valued flag value]) :
      (singleParser flag).parse (words given) = .ok value := by
    refine parse_of_run (blind_single dashed) same plain ?_
    rw [only]
    exact run_single (writable.readable (.valued flag value) (by simp [only]))
  cases command with
  | platformProbe =>
      cases spelled
      obtain rfl := same.nil_eq
      rfl
  | demoEnrollPull =>
      cases spelled
      obtain rfl := same.nil_eq
      rfl
  | configInit options =>
      change configInit <$> (configInitParser native debug).parse (words given) = _
      rw [parse_of_run (blind_configInit native debug) same plain
        (run_configInit spelled writable.readable)]
      rfl
  | configShow configPath =>
      cases spelled
      change configShow <$> (singleParser "--config").parse (words given) = _
      rw [single "--config" (by decide +kernel) configPath rfl]
      rfl
  | configValidate configPath =>
      cases spelled
      change configValidate <$> (singleParser "--config").parse (words given) = _
      rw [single "--config" (by decide +kernel) configPath rfl]
      rfl
  | identityInstall options =>
      change identityInstall <$> (identityInstallParser debug).parse (words given) = _
      rw [parse_of_run (blind_identityInstall debug) same plain
        (run_identityInstall spelled writable)]
      rfl
  | collectSmoke serviceName =>
      cases spelled
      change collectSmoke <$> (singleParser "--service").parse (words given) = _
      rw [single "--service" (by decide +kernel) serviceName rfl]
      rfl
  | dogfoodServiceUnhealthy options =>
      change dogfoodServiceUnhealthy <$> DogfoodOptions.parser.parse (words given) = _
      rw [parse_of_run blind_dogfood same plain (run_dogfood spelled writable.readable)]
      rfl
  | run configPath =>
      cases spelled
      change Command.run <$> (singleParser "--config").parse (words given) = _
      rw [single "--config" (by decide +kernel) configPath rfl]
      rfl

/-- A rehearsal without a node id is one on the default node. -/
theorem command_in_any_order_dogfood :
    parse .linux id ["dogfood-service-unhealthy", "--state-dir", "/state", "--service", "sshd"] =
      .ok (.dogfoodServiceUnhealthy ⟨"sshd", "/state", "prod-web-01"⟩) := by
  let service : Setting := .valued "--service" "sshd"
  let stateDir : Setting := .valued "--state-dir" "/state"
  have spelled : Spelled .linux (dogfoodServiceUnhealthy ⟨"sshd", "/state", "prod-web-01"⟩)
      [service, stateDir] :=
    .dogfoodServiceUnhealthy _ (.omitted rfl)
  have writable : (dogfoodServiceUnhealthy ⟨"sshd", "/state", "prod-web-01"⟩).Writable
      [service, stateDir] := by
    refine ⟨?_, fun _ other => Command.noConfusion other⟩
    simp only [List.forall_mem_cons, Setting.Readable, service, stateDir]
    exact ⟨by decide +kernel, by decide +kernel, List.forall_mem_nil _⟩
  exact command_in_any_order .linux id _ _ spelled writable [stateDir, service]
    (List.Perm.swap stateDir service [])

end Command

end Runlane.Agent
