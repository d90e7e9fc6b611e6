import Runlane.Lib.Fallible
import Runlane.Lib.Yaml
import Runlane.Core.HelperContract

/-!
What one invocation of the helper is given: its command line, and the three YAML
files that it names. Fields are read in the order of the program, so an error
names the first field that is missing.

Reading a file and parsing its text are the operating system's and the YAML
library's part, and are parameters here.
-/

namespace Runlane.Helper

open Fallible Yaml

def parseU64 (text : String) : Option Nat :=
  let digits := if text.toList.head? = some '+' then text.toList.tail else text.toList
  let n := digits.foldl (fun n c => 10 * n + (c.toNat - '0'.toNat)) 0
  if digits ≠ [] ∧ digits.all Char.isDigit ∧ n < UInt64.size then some n else none

inductive ValueOption where
  | leaseFile
  | requestFile
  | allowlistFile
  | nodeId
  | now

def ValueOption.named : String → Option ValueOption
  | "--lease-file" => some leaseFile
  | "--request-file" => some requestFile
  | "--allowlist-file" => some allowlistFile
  | "--node-id" => some nodeId
  | "--now" => some now
  | _ => none

/-- The options met so far on the command line. -/
structure OptionValues where
  leaseFile : Option String
  requestFile : Option String
  allowlistFile : Option String
  nodeId : Option String
  nowUnixSeconds : Option Nat
  dryRun : Bool

def OptionValues.set (values : OptionValues) (value : String) :
    ValueOption → Except String OptionValues
  | .leaseFile => .ok { values with leaseFile := some value }
  | .requestFile => .ok { values with requestFile := some value }
  | .allowlistFile => .ok { values with allowlistFile := some value }
  | .nodeId => .ok { values with nodeId := some value }
  | .now =>
      match parseU64 value with
      | some now => .ok { values with nowUnixSeconds := some now }
      | none => .error "--now must be an unsigned integer"

def OptionValues.parse (values : OptionValues) : List String → Except String OptionValues
  | [] => .ok values
  | "--dry-run" :: rest => parse { values with dryRun := true } rest
  | option :: rest =>
      match ValueOption.named option, rest with
      | none, _ => .error s!"unsupported execute option: {option}"
      | some _, [] => .error s!"{option} requires a value"
      | some named, value :: rest => do
          let values ← values.set value named
          parse values rest

structure ExecuteOptions where
  leaseFile : String
  requestFile : String
  allowlistFile : String
  nodeId : String
  nowUnixSeconds : Nat
  dryRun : Bool
deriving DecidableEq

def required {α : Type} (value : Option α) (option : String) : Except String α :=
  match value with
  | some value => .ok value
  | none => .error s!"{option} is required"

def ExecuteOptions.parse (args : List String) : Except String ExecuteOptions := do
  let values ← OptionValues.parse ⟨none, none, none, none, none, false⟩ args
  let leaseFile ← required values.leaseFile "--lease-file"
  let requestFile ← required values.requestFile "--request-file"
  let allowlistFile ← required values.allowlistFile "--allowlist-file"
  let nodeId ← required values.nodeId "--node-id"
  let nowUnixSeconds ← required values.nowUnixSeconds "--now"
  return ⟨leaseFile, requestFile, allowlistFile, nodeId, nowUnixSeconds, values.dryRun⟩

def mapping (value : Value) (key : String) : Except String Value :=
  match value.get key with
  | some found => .ok found
  | none => .error s!"missing required field `{key}`"

def string (value : Value) (key : String) : Except String String :=
  match (value.get key).bind Value.asStr with
  | some text => .ok text
  | none => .error s!"missing string field `{key}`"

def unsigned (value : Value) (key : String) : Except String Nat :=
  match (value.get key).bind Value.asU64 with
  | some n => .ok n
  | none => .error s!"missing unsigned integer field `{key}`"

def parseAction : String → Except String ActionKind
  | "service.restart" => .ok .serviceRestart
  | "service.reload" => .ok .serviceReload
  | "file.remove_from_allowlist" => .ok .removeAllowlistedFile
  | action => .error s!"unsupported helper action: {action}"

def parseLease (value : Value) : Except String SignedCapabilityLease := do
  let claims ← mapping value "claims"
  let leaseId ← string claims "lease_id"
  let runId ← string claims "run_id"
  let approvalId ← string claims "approval_id"
  let nodeId ← string claims "node_id"
  let action ← parseAction (← string claims "action")
  let targetResourceId ← string claims "target_resource_id"
  let targetSubject ← string claims "target_subject"
  let allowlistEntryId ← string claims "allowlist_entry_id"
  let expiresAtUnixSeconds ← unsigned claims "expires_at_unix_seconds"
  let nonce ← string claims "nonce"
  let keyId ← string value "key_id"
  let signature ← string value "signature"
  return {
    claims := {
      leaseId
      runId
      approvalId
      nodeId
      action
      target := ⟨targetResourceId, targetSubject⟩
      allowlistEntryId
      expiresAtUnixSeconds
      nonce }
    keyId
    signature }

def parseArgument (entry : Value × Value) : Except String HelperArgument :=
  match entry.1.asStr, entry.2.asStr with
  | none, _ => .error "argument names must be strings"
  | some _, none => .error "argument values must be strings"
  | some name, some value => .ok ⟨name, value⟩

def parseRequest (value : Value) : Except String HelperActionRequest := do
  let arguments ← match (value.get "arguments").bind Value.asMapping with
    | some entries => entries.mapM parseArgument
    | none => .ok []
  let leaseId ← string value "lease_id"
  let action ← parseAction (← string value "action")
  let targetResourceId ← string value "target_resource_id"
  let targetSubject ← string value "target_subject"
  return { leaseId, action, target := ⟨targetResourceId, targetSubject⟩, arguments }

def parseAllowlistEntry (value : Value) : Except String HelperAllowlistEntry := do
  let id ← string value "id"
  let action ← parseAction (← string value "action")
  let targetResourceId ← string value "target_resource_id"
  return { id, action, targetResourceId }

def parseAllowlist (value : Value) : Except String HelperAllowlist :=
  match (value.get "entries").bind Value.asSequence with
  | some entries => do
      let entries ← entries.mapM parseAllowlistEntry
      return ⟨entries⟩
  | none => do
      let entry ← parseAllowlistEntry value
      return ⟨[entry]⟩

def parseSignatureStatus (value : Value) : Except String LeaseSignatureStatus := do
  match ← string value "signature_status" with
  | "valid" => .ok .valid
  | "invalid" => .ok .invalid
  | _ => .error "signature_status must be valid or invalid"

def parseSeenNonce (value : Value) : Except String String :=
  match value.asStr with
  | some nonce => .ok nonce
  | none => .error "seen_nonces entries must be strings"

def parseSeenNonces (value : Value) : Except String (List String) :=
  match (value.get "seen_nonces").bind Value.asSequence with
  | some values => values.mapM parseSeenNonce
  | none => .ok []

/-- What the helper takes from outside. A file has its text or the reason why it
cannot be read, a text its document or the reason why it is not YAML. -/
structure Host where
  readToString : String → Except String String
  fromStr : String → Except String Value

def readYaml (host : Host) (path : String) : Except String Value := do
  let body ← (host.readToString path).mapError fun error => s!"{path}: {error}"
  (host.fromStr body).mapError fun error => s!"{path}: invalid yaml: {error}"

theorem readYaml_eq_ok {host : Host} {path body : String} {value : Value}
    (read : host.readToString path = .ok body) (parsed : host.fromStr body = .ok value) :
    readYaml host path = .ok value :=
  bind_eq_ok.mpr ⟨body, mapError_eq_ok.mpr read, mapError_eq_ok.mpr parsed⟩

structure LoadedHelperInput where
  lease : SignedCapabilityLease
  request : HelperActionRequest
  allowlist : HelperAllowlist
  signatureStatus : LeaseSignatureStatus
  seenNonces : List String
deriving DecidableEq

def LoadedHelperInput.load (host : Host) (options : ExecuteOptions) :
    Except String LoadedHelperInput := do
  let leaseYaml ← readYaml host options.leaseFile
  let requestYaml ← readYaml host options.requestFile
  let allowlistYaml ← readYaml host options.allowlistFile
  let lease ← parseLease leaseYaml
  let request ← parseRequest requestYaml
  let allowlist ← parseAllowlist allowlistYaml
  let signatureStatus ← parseSignatureStatus leaseYaml
  let seenNonces ← parseSeenNonces leaseYaml
  return { lease, request, allowlist, signatureStatus, seenNonces }

/-- The input is what the decoders make of the three documents. -/
structure Decoded (leaseYaml requestYaml allowlistYaml : Value) (loaded : LoadedHelperInput) :
    Prop where
  lease : parseLease leaseYaml = .ok loaded.lease
  request : parseRequest requestYaml = .ok loaded.request
  allowlist : parseAllowlist allowlistYaml = .ok loaded.allowlist
  signatureStatus : parseSignatureStatus leaseYaml = .ok loaded.signatureStatus
  seenNonces : parseSeenNonces leaseYaml = .ok loaded.seenNonces

theorem load_eq_ok {host : Host} {options : ExecuteOptions} {loaded : LoadedHelperInput} :
    LoadedHelperInput.load host options = .ok loaded ↔
      ∃ leaseYaml requestYaml allowlistYaml, readYaml host options.leaseFile = .ok leaseYaml ∧
        readYaml host options.requestFile = .ok requestYaml ∧
        readYaml host options.allowlistFile = .ok allowlistYaml ∧
        Decoded leaseYaml requestYaml allowlistYaml loaded := by
  simp only [LoadedHelperInput.load, bind_eq_ok, pure_eq_ok]
  constructor
  · intro load
    obtain ⟨leaseYaml, leaseRead, requestYaml, requestRead, allowlistYaml, allowlistRead,
      lease, leaseParsed, request, requestParsed, allowlist, allowlistParsed, status, statusParsed,
      nonces, noncesParsed, rfl⟩ := load
    exact ⟨leaseYaml, requestYaml, allowlistYaml, leaseRead, requestRead, allowlistRead,
      leaseParsed, requestParsed, allowlistParsed, statusParsed, noncesParsed⟩
  · intro read
    obtain ⟨leaseYaml, requestYaml, allowlistYaml, leaseRead, requestRead, allowlistRead,
      decoded⟩ := read
    exact ⟨leaseYaml, leaseRead, requestYaml, requestRead, allowlistYaml, allowlistRead,
      _, decoded.lease, _, decoded.request, _, decoded.allowlist, _, decoded.signatureStatus,
      _, decoded.seenNonces, rfl⟩

end Runlane.Helper
