import Runlane.Lib.CommandLine
import Runlane.Lib.Numeral
import Runlane.Helper.Execute

/-!
The commands of the helper and what each of them asks for.

Both option parsers read their arguments from left to right, an option taking
the next word as its value whatever it looks like. `preflight` checks the helper
binary and one allowlist without acting; `dry-run-smoke` is `execute` with
`--dry-run` put behind its arguments, unless that word is already among them.
-/

namespace Runlane.Helper

open Fallible Yaml CommandLine

/-- The preflight options met so far on the command line. -/
structure PreflightValues where
  helperBinary : Option String
  allowlistFile : Option String
  expectedOwnerUid : Option Nat
  expectedMode : Option Nat

structure PreflightOptions where
  helperBinary : String
  allowlistFile : String
  expectedOwnerUid : Nat
  expectedMode : Nat
deriving DecidableEq

def withoutOctalPrefix (value : String) : String :=
  match value.toList with
  | '0' :: 'o' :: digits => String.ofList digits
  | _ => value

def parseOctalMode (debug : String → String) (value : String) : Except String Nat :=
  match Numeral.fromStrRadix 8 UInt32.size (withoutOctalPrefix value) with
  | some mode => .ok mode
  | none => .error s!"--expected-mode must be an octal mode, got {debug value}"

def parseOwnerUid (value : String) : Except String Nat :=
  match Numeral.fromStrRadix 10 UInt32.size value with
  | some uid => .ok uid
  | none => .error "--expected-owner-uid must be an unsigned integer"

def PreflightOptions.valued (debug : String → String) :
    String → Option (String → Except String (PreflightValues → PreflightValues))
  | "--helper-binary" =>
      some fun value => .ok fun values => { values with helperBinary := some value }
  | "--allowlist-file" =>
      some fun value => .ok fun values => { values with allowlistFile := some value }
  | "--expected-owner-uid" => some fun value => do
      let uid ← parseOwnerUid value
      return fun values => { values with expectedOwnerUid := some uid }
  | "--expected-mode" => some fun value => do
      let mode ← parseOctalMode debug value
      return fun values => { values with expectedMode := some mode }
  | _ => none

def preflightSyntax (debug : String → String) : Syntax String PreflightValues where
  lone _ := none
  valued := PreflightOptions.valued debug
  unsupported option := s!"unsupported preflight option: {option}"
  missing option := s!"{option} requires a value"

def PreflightOptions.parse (debug : String → String) (args : List String) :
    Except String PreflightOptions := do
  let values ← (preflightSyntax debug).scan ⟨none, none, none, none⟩ args
  let helperBinary ← required values.helperBinary "--helper-binary"
  let allowlistFile ← required values.allowlistFile "--allowlist-file"
  let expectedOwnerUid ← required values.expectedOwnerUid "--expected-owner-uid"
  let expectedMode ← required values.expectedMode "--expected-mode"
  return { helperBinary, allowlistFile, expectedOwnerUid, expectedMode }

structure HelperMetadata where
  isFile : Bool
  uid : Nat
  mode : Nat

/-- What a preflight looks at besides the files it reads. -/
structure PreflightHost extends Host where
  metadata : String → Except String HelperMetadata

structure HelperPreflightReport where
  helperBinary : String
  ownerUid : Nat
  mode : Nat
  allowlistFile : String

def unixOwnerAndMode (metadata : HelperMetadata) : Nat × Nat :=
  (metadata.uid, metadata.mode &&& 0o7777)

def octal (mode : Nat) : String :=
  Numeral.padded 8 4 mode

def checkOwnerAndMode (options : PreflightOptions) (ownerUid mode : Nat) : Except String Unit :=
  let path := options.helperBinary
  if ownerUid ≠ options.expectedOwnerUid then
    .error (s!"helper binary {path} owner uid {ownerUid} does not match expected " ++
      s!"{options.expectedOwnerUid}")
  else if mode ≠ options.expectedMode then
    .error (s!"helper binary {path} mode {octal mode} does not match expected " ++
      s!"{octal options.expectedMode}")
  else if mode &&& 0o111 = 0 then .error s!"helper binary {path} is not executable"
  else if mode &&& 0o022 ≠ 0 then
    .error s!"helper binary {path} must not be group- or world-writable"
  else .ok ()

def checkBinary (metadata : HelperMetadata) (options : PreflightOptions) : Except String Unit :=
  if !metadata.isFile then
    .error s!"helper binary {options.helperBinary} is not a regular file"
  else
    let ownerAndMode := unixOwnerAndMode metadata
    checkOwnerAndMode options ownerAndMode.1 ownerAndMode.2

def HelperPreflightReport.check (host : PreflightHost) (options : PreflightOptions) :
    Except String HelperPreflightReport := do
  let path := options.helperBinary
  let metadata ← (host.metadata path).mapError fun error => s!"helper binary {path}: {error}"
  checkBinary metadata options
  let allowlistYaml ← readYaml host.toHost options.allowlistFile
  let _ ← parseAllowlist allowlistYaml
  let ownerAndMode := unixOwnerAndMode metadata
  return {
    helperBinary := path
    ownerUid := ownerAndMode.1
    mode := ownerAndMode.2
    allowlistFile := options.allowlistFile }

def HelperPreflightReport.render (report : HelperPreflightReport) : String :=
  s!"status: succeeded\nhelper_binary: {report.helperBinary}\nowner_uid: {report.ownerUid}\n" ++
    s!"mode: {octal report.mode}\nallowlist_file: {report.allowlistFile}\n" ++
    "dry_run_support: present\nmessage: helper preflight passed without mutating host"

def preflight (debug : String → String) (host : PreflightHost) (args : List String) :
    Except String String := do
  let options ← PreflightOptions.parse debug args
  let report ← HelperPreflightReport.check host options
  return report.render

def dryRunSmoke (host : Host) (args : List String) : Except String String :=
  execute host (if "--dry-run" ∈ args then args else args ++ ["--dry-run"])

def skeleton : String :=
  "runlane-helper skeleton; privileged_action_surface=[ServiceRestart, ServiceReload]"

def help : String :=
  "runlane-helper preflight --helper-binary <path> --allowlist-file <path> " ++
    "--expected-owner-uid <uid> --expected-mode <octal>\n" ++
    "runlane-helper dry-run-smoke --lease-file <path> --request-file <path> " ++
    "--allowlist-file <path> --node-id <id> --now <unix>\n" ++
    "runlane-helper execute --lease-file <path> --request-file <path> " ++
    "--allowlist-file <path> --node-id <id> --now <unix> --dry-run"

/-- What a command prints, or the error with which the helper exits. -/
def run (debug : String → String) (host : PreflightHost) : List String → Except String String
  | [] => .ok skeleton
  | "execute" :: args => execute host.toHost args
  | "dry-run-smoke" :: args => dryRunSmoke host.toHost args
  | "preflight" :: args => preflight debug host args
  | "--help" :: _ | "-h" :: _ => .ok help
  | args => .error ("unsupported runlane-helper command: " ++ " ".intercalate args)

def ValueOption.decode (value : String) :
    ValueOption → Except String (OptionValues → OptionValues)
  | .leaseFile => .ok fun values => { values with leaseFile := some value }
  | .requestFile => .ok fun values => { values with requestFile := some value }
  | .allowlistFile => .ok fun values => { values with allowlistFile := some value }
  | .nodeId => .ok fun values => { values with nodeId := some value }
  | .now =>
      match parseU64 value with
      | some seconds => .ok fun values => { values with nowUnixSeconds := some seconds }
      | none => .error "--now must be an unsigned integer"

def executeSyntax : Syntax String OptionValues where
  lone flag :=
    if flag = "--dry-run" then some fun values => { values with dryRun := true } else none
  valued option := (ValueOption.named option).map fun named value => named.decode value
  unsupported option := s!"unsupported execute option: {option}"
  missing option := s!"{option} requires a value"

theorem set_eq_decode (values : OptionValues) (value : String) (named : ValueOption) :
    values.set value named = named.decode value >>= fun set => pure (set values) := by
  cases named with
  | leaseFile | requestFile | allowlistFile | nodeId => rfl
  | now =>
      simp only [OptionValues.set, ValueOption.decode]
      cases parseU64 value <;> rfl

theorem lone_dry_run :
    executeSyntax.lone "--dry-run" = some fun values => { values with dryRun := true } := by
  simp [executeSyntax]

theorem lone_eq_none {flag : String} (other : flag ≠ "--dry-run") :
    executeSyntax.lone flag = none :=
  if_neg other

theorem valued_named {option : String} {named : ValueOption}
    (known : ValueOption.named option = some named) :
    executeSyntax.valued option = some fun value => named.decode value := by
  simp only [executeSyntax, known, Option.map_some]

/-- The parser of `execute` reads its arguments by the rules of its options. -/
theorem parse_eq_scan (values : OptionValues) (args : List String) :
    OptionValues.parse values args = executeSyntax.scan values args := by
  fun_induction OptionValues.parse values args with
  | case1 values => rw [Syntax.scan]
  | case2 values rest ih => rw [ih, Syntax.scan_lone lone_dry_run]
  | case3 values option rest other unknown =>
      rw [Syntax.scan_unsupported (lone_eq_none other) (by simp [executeSyntax, unknown])]
      rfl
  | case4 values option other named known =>
      rw [Syntax.scan_missing (lone_eq_none other) (valued_named known)]
      rfl
  | case5 values option other named value rest known ih =>
      rw [Syntax.scan_valued (lone_eq_none other) (valued_named known), set_eq_decode]
      cases named.decode value with
      | error e => rfl
      | ok set => exact ih (set values)

end Runlane.Helper
