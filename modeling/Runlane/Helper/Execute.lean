import Runlane.Helper.Input

/-!
The `execute` command of the helper: it loads the files of its command line,
validates the request against them and reports. What it validates against, the
nonces already used included, comes from these files alone.
-/

namespace Runlane.Helper

open Fallible Yaml

def formatRejection (rejection : HelperRejection) : String :=
  let reason := match rejection with
    | .invalidSignature => "InvalidSignature"
    | .expiredLease => "ExpiredLease"
    | .replayedNonce => "ReplayedNonce"
    | .nodeMismatch => "NodeMismatch"
    | .leaseMismatch => "LeaseMismatch"
    | .actionMismatch => "ActionMismatch"
    | .targetMismatch => "TargetMismatch"
    | .localAllowlistDenied => "LocalAllowlistDenied"
  s!"helper request rejected: {reason}"

/-- The report on standard output, or the error on standard error. -/
def report (accepted : AcceptedHelperInvocation) : Except String String :=
  let succeeded (action message : String) : String :=
    s!"status: succeeded\naction: {action}\ntarget: {accepted.target.resourceId}\n" ++
      s!"dry_run: true\nmessage: {message}"
  match accepted.action with
  | .serviceRestart =>
      .ok (succeeded "service.restart" "validated typed service.restart without mutating host")
  | .serviceReload =>
      .ok (succeeded "ServiceReload" "validated typed helper action without mutating host")
  | .removeAllowlistedFile =>
      .ok (succeeded "RemoveAllowlistedFile" "validated typed helper action without mutating host")
  | .runAllowlistedScript =>
      .error "script.run_allowlisted dry-run is not implemented in v0.1 helper"
  | .packageUpdate | .nodeReboot =>
      .error ("package.update and node.reboot are modeled core actions, " ++
        "not helper-executable actions in v0.1")

def validationContext (options : ExecuteOptions) (loaded : LoadedHelperInput) :
    HelperValidationContext where
  nodeId := options.nodeId
  nowUnixSeconds := options.nowUnixSeconds
  signatureStatus := loaded.signatureStatus
  seenNonces := loaded.seenNonces
  allowlist := loaded.allowlist

def execute (host : Host) (args : List String) : Except String String := do
  let options ← ExecuteOptions.parse args
  if options.dryRun then
    let loaded ← LoadedHelperInput.load host options
    let accepted ← (validateHelperRequest loaded.request loaded.lease
      (validationContext options loaded)).mapError formatRejection
    report accepted
  else .error "non-dry-run helper execution is not implemented; use --dry-run"

theorem parseAction_helper {text : String} {action : ActionKind}
    (h : parseAction text = .ok action) :
    action = .serviceRestart ∨ action = .serviceReload ∨ action = .removeAllowlistedFile := by
  unfold parseAction at h
  split at h
  · exact .inl (Except.ok.inj h).symm
  · exact .inr (.inl (Except.ok.inj h).symm)
  · exact .inr (.inr (Except.ok.inj h).symm)
  · cases h

/-- A lease that loads is for an action the helper has a report for. -/
theorem report_of_parseLease {value : Value} {lease : SignedCapabilityLease}
    (parsed : parseLease value = .ok lease) :
    ∃ text, report lease.claims.invocation = .ok text := by
  simp only [parseLease, bind_eq_ok] at parsed
  obtain ⟨claims, -, leaseId, -, runId, -, approvalId, -, nodeId, -, name, -, action, known,
    rest⟩ := parsed
  obtain ⟨resource, -, subject, -, entry, -, expires, -, nonce, -, keyId, -, signature, -,
    built⟩ := rest
  cases built
  obtain rfl | rfl | rfl := parseAction_helper known
  · exact ⟨_, rfl⟩
  · exact ⟨_, rfl⟩
  · exact ⟨_, rfl⟩

theorem load_lease {host : Host} {options : ExecuteOptions} {loaded : LoadedHelperInput}
    (h : LoadedHelperInput.load host options = .ok loaded) :
    ∃ value, parseLease value = .ok loaded.lease := by
  obtain ⟨leaseYaml, _, _, -, -, -, decoded⟩ := load_eq_ok.mp h
  exact ⟨leaseYaml, decoded.lease⟩

/-- The command line asks for a dry run, and the files it names load and pass
every check of the helper but the one for a replayed nonce. -/
def Admissible (host : Host) (args : List String) (loaded : LoadedHelperInput) : Prop :=
  ∃ options, ExecuteOptions.parse args = .ok options ∧ options.dryRun = true ∧
    LoadedHelperInput.load host options = .ok loaded ∧
    HelperChecks loaded.request loaded.lease (validationContext options loaded)

/-- An invocation succeeds when its files are admissible and its own list of
nonces does not hold the nonce of its lease. -/
theorem execute_isOk {host : Host} {args : List String} :
    (∃ text, execute host args = .ok text) ↔
      ∃ loaded, Admissible host args loaded ∧
        loaded.lease.claims.nonce ∉ loaded.seenNonces := by
  constructor
  · rintro ⟨text, done⟩
    obtain ⟨options, parsed, done⟩ := bind_eq_ok.mp done
    cases dry : options.dryRun with
    | false => simp [dry] at done
    | true =>
        rw [dry, if_pos rfl] at done
        obtain ⟨loaded, load, done⟩ := bind_eq_ok.mp done
        obtain ⟨accepted, valid, -⟩ := bind_eq_ok.mp done
        obtain ⟨checks, unseen, -⟩ := validateHelperRequest_eq_ok.mp (mapError_eq_ok.mp valid)
        exact ⟨loaded, ⟨options, parsed, dry, load, checks⟩, unseen⟩
  · rintro ⟨loaded, ⟨options, parsed, dry, load, checks⟩, unseen⟩
    obtain ⟨value, lease⟩ := load_lease load
    obtain ⟨text, reported⟩ := report_of_parseLease lease
    refine ⟨text, bind_eq_ok.mpr ⟨options, parsed, ?_⟩⟩
    rw [dry, if_pos rfl]
    have accepted := validateHelperRequest_eq_ok.mpr ⟨checks, unseen, rfl⟩
    exact bind_eq_ok.mpr ⟨loaded, load, bind_eq_ok.mpr ⟨_, mapError_eq_ok.mpr accepted, reported⟩⟩

end Runlane.Helper
