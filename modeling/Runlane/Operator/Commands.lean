import Mathlib.Algebra.Group.Nat.Defs
import Runlane.Durable.State
import Runlane.E2e.Journey
import Runlane.Lib.Numeral
import Runlane.Telegram.Adapter

/-!
The command line of the operator.

A command prints lines and ends in success, in an error or in a panic. The
approval commands and the Telegram smoke work on demo stores that each of them
builds anew, so nothing they decide is kept. The identity of the smoke comes
from environment variables. The texts that `Debug` prints are parameters.
-/

namespace Runlane

def ProposedActionKind.debug : ProposedActionKind → String
  | serviceRestart => "ServiceRestart"
  | serviceReload => "ServiceReload"
  | removeAllowlistedFile => "RemoveAllowlistedFile"
  | collectMoreLogs => "CollectMoreLogs"
  | manualTakeover => "ManualTakeover"

def LeaseMode.debug : LeaseMode → String
  | observe => "Observe"
  | intent => "Intent"
  | exclusive => "Exclusive"
  | drain => "Drain"
  | reboot => "Reboot"

/-- Compact sync summary for server ingest. -/
structure FleetSyncSummary where
  nodes : Nat
  roles : Nat
  runbooks : Nat
  policies : Nat
  allowlists : Nat
  overlays : Nat
  resolvedSettings : Nat

/-- Returns a compact summary suitable for CLI output and sync logs. -/
def FleetRepository.summary (repository : FleetRepository) : FleetSyncSummary where
  nodes := repository.inventory.length
  roles := repository.roles.length
  runbooks := repository.runbooks.length
  policies := repository.policies.length
  allowlists := repository.allowlists.length
  overlays := repository.overlays.length
  resolvedSettings := repository.resolvedOverlay.settings.length

namespace E2e

def JourneyStage.debug : JourneyStage → String
  | declare => "Declare"
  | observe => "Observe"
  | propose => "Propose"
  | approve => "Approve"
  | lease => "Lease"
  | execute => "Execute"
  | verify => "Verify"
  | remember => "Remember"

def E2eError.display : E2eError → String
  | fleet message | planning message | proposal message | approval message | helper message
  | receipt message => message

end E2e

namespace Operator

/-- Why a command ends early: it returns an error, or the program panics. -/
inductive Halt where
  | failed (message : String)
  | panicked (message : String)
deriving DecidableEq

/-- A command, with the lines printed so far. -/
abbrev Cli := EStateM Halt (List String)

def println (line : String) : Cli Unit :=
  modify fun lines => lines ++ [line]

/-- An environment variable. -/
inductive EnvVar where
  | notPresent
  | notUnicode (error : String)
  | value (text : String)

structure DebugTexts where
  approval : ApprovalError → String
  telegram : TelegramApprovalError → String
  response : TelegramApprovalResponse → String
  auditAppend : AuditAppendError → String
  receipt : ReceiptError → String
  plan : ServiceUnhealthyPlanError → String
  journey : E2e.DebugTexts

/-- What the operator's commands find outside: fleet repositories, state directories
and the environment. -/
structure Host where
  tree : String → Fleet.FleetTree
  fleetYaml : Fleet.FleetYaml
  ledgerFile : String → LedgerFile
  io : StateIo
  var : String → EnvVar

variable (debug : DebugTexts) (host : Host)

def demoProposal : StructuredProposal :=
  analyzeServiceUnhealthy "proposal-demo-1" "prod-web-01" "sshd"
    [.text "service_status" "service=not-active"]

def demoService : String := "system:node/prod-web-01/service/sshd"

def demoImpact : ImpactSet where
  layer := .system
  writes := [demoService]
  mayAffect := ["platform:on-node/prod-web-01", "application:on-node/prod-web-01"]
  doesNotAffect := ["system:node/prod-web-01/package-db", "system:node/prod-web-01/firewall"]

def demoVerification : VerificationPlan where
  required := [⟨"service_active", demoService, .directImpact⟩]
  conditional := []
  skipped := [⟨"package_audit", "service restart did not mutate package database"⟩,
    ⟨"firewall_audit", "service restart did not mutate firewall rules"⟩]

def demoApprovalStore : Cli ApprovalStore :=
  match ApprovalRecord.new "approval-demo-1" "run-demo-1" demoProposal "restart-service" .system
    "sshd" demoImpact demoVerification 100 200 with
  | none => throw (.panicked "approval action id must exist in proposal")
  | some record =>
      match (ApprovalStore.request record).run .empty with
      | .ok () store => return store
      | .error error _ =>
          throw (.panicked s!"demo approval request is valid: {debug.approval error}")

def approvalLine (record : ApprovalRecord) : String :=
  s!"{record.id} {record.actionId} {record.action.debug} {record.target.resourceId} " ++
    s!"expires_at={record.expiresAtUnixSeconds}"

def listApprovals : Cli Unit := do
  let store ← demoApprovalStore debug
  store.listPending.forM fun record => println (approvalLine record)

def known (store : ApprovalStore) (id : String) : Cli ApprovalRecord :=
  Calls.okOr (store.showApproval id) (.failed s!"unknown approval: {id}")

def approvalDetail (record : ApprovalRecord) : String :=
  s!"id: {record.id}\nrun: {record.runId}\nproposal: {record.proposalId}\n" ++
    s!"action: {record.actionId}\nlayer: {record.layer.debug}\n" ++
    s!"target: {record.target.resourceId}\nlease: {record.leaseRequest.mode.debug}\n" ++
    s!"required_checks: {record.verification.required.length}\n" ++
    s!"skipped_checks: {record.verification.skipped.length}"

def showApproval (id : String) : Cli Unit := do
  let store ← demoApprovalStore debug
  println (approvalDetail (← known store id))

/-- A call on a demo store, which is dropped with the store that it leaves. -/
def decided {α : Type} (store : ApprovalStore) (label : String)
    (decision : ApprovalStore.Approvals α) : Cli α :=
  match decision.run store with
  | .ok a _ => return a
  | .error error _ => throw (.failed s!"{label} failed: {debug.approval error}")

def approveDemo (id : String) : Cli Unit := do
  let store ← demoApprovalStore debug
  let actionId := (← known store id).actionId
  let claims ← decided debug store "approval" (ApprovalStore.approve id actionId "cli-operator"
    150 "allow-prod-web-sshd-restart" "cli-lease-nonce")
  println (s!"approved: {id}\nlease_id: {claims.leaseId}\naction: {claims.action.debug}\n" ++
    s!"target: {claims.target.resourceId}")

def rejectDemo (id : String) : Cli Unit := do
  let store ← demoApprovalStore debug
  decided debug store "rejection" (ApprovalStore.reject id "cli-operator" 150)
  println s!"rejected: {id}"

def runApprovalCommand : List String → Cli Unit
  | ["list"] => listApprovals debug
  | ["show", id] => showApproval debug id
  | ["approve", id] => approveDemo debug id
  | ["reject", id] => rejectDemo debug id
  | args => throw (.failed ("unsupported approval command: " ++ " ".intercalate args))

def loadFleet (path : String) : Cli FleetRepository :=
  match FleetRepository.load path (host.tree path) host.fleetYaml with
  | .ok repository => return repository
  | .error error => throw (.failed error.display)

def summaryLine (label : String) (summary : FleetSyncSummary) : String :=
  s!"{label}; nodes={summary.nodes}; roles={summary.roles}; runbooks={summary.runbooks}; " ++
    s!"policies={summary.policies}; allowlists={summary.allowlists}; " ++
    s!"overlays={summary.overlays}; resolved_settings={summary.resolvedSettings}"

def printFleetSummary (label path : String) : Cli Unit := do
  let repository ← loadFleet host path
  println (summaryLine label repository.summary)

def journey {α : Type} (run : E2e.Journey α) : Cli α :=
  match run with
  | .ok simulation => return simulation
  | .error (.failed error) => throw (.failed error.display)
  | .error (.panicked message) => throw (.panicked message)

def serviceUnhealthySimulation (path : String) : Cli E2e.ServiceUnhealthySimulation :=
  journey (E2e.runServiceUnhealthySimulation debug.journey debug.plan path (host.tree path)
    host.fleetYaml)

def diskPressureSimulation (path : String) : Cli E2e.DiskPressureSimulation :=
  journey (E2e.runDiskPressureSimulation debug.journey path (host.tree path) host.fleetYaml)

def stagesLine (stages : List E2e.JourneyStage) : String :=
  "stages: " ++ " -> ".intercalate (stages.map E2e.JourneyStage.debug)

def printSimulation (runId : String) (stages : List E2e.JourneyStage) (receipt : String) :
    Cli Unit := do
  println s!"run: {runId}"
  println (stagesLine stages)
  println receipt

def runDemoCommand : List String → Cli Unit
  | ["service-unhealthy", path] => do
      let simulation ← serviceUnhealthySimulation debug host path
      printSimulation simulation.runId simulation.stages simulation.receipt.renderText
  | ["disk-pressure", path] => do
      let simulation ← diskPressureSimulation debug host path
      printSimulation simulation.runId simulation.stages simulation.receipt.renderText
  | args => throw (.failed ("unsupported demo command: " ++ " ".intercalate args))

def displayDurable : DurableStateError → String
  | .missingLedger path => s!"missing audit ledger: {path}"
  | .io path operation message => s!"failed to {operation} at {path}: {message}"
  | .corruptLedger path message => s!"corrupt audit ledger {path}: {message}"
  | .corruptWrite path message => s!"failed to serialize audit event to {path}: {message}"
  | .append error => s!"append-only ledger violation: {debug.auditAppend error}"
  | .receipt error => s!"receipt generation failed: {debug.receipt error}"

def storedReceipt (id path : String) : Cli OperatorReceipt :=
  match LocalServerState.renderReceipt host.io (.open path) id (host.ledgerFile path) with
  | .ok receipt => return receipt
  | .error error => throw (.failed
      s!"unknown receipt or unreadable state for {id}: {displayDurable debug error}")

/-- Two ids name the demo journeys, whatever the path holds. -/
def showReceipt (id path : String) : Cli Unit :=
  if id = E2e.serviceRunId then do
    let simulation ← serviceUnhealthySimulation debug host path
    println simulation.receipt.renderText
  else if id = E2e.diskRunId then do
    let simulation ← diskPressureSimulation debug host path
    println simulation.receipt.renderText
  else do
    let receipt ← storedReceipt debug host id path
    println receipt.renderText

def runReceiptCommand : List String → Cli Unit
  | ["show", id, path] => showReceipt debug host id path
  | args => throw (.failed ("unsupported receipt command: " ++ " ".intercalate args))

def i64Bound : Nat := 2 ^ 63

def envI64 (name : String) (default : Int) : Except String Int :=
  match host.var name with
  | .value text =>
      match Numeral.fromStrSigned 10 i64Bound text with
      | some n => .ok n
      | none => .error s!"{name} must be a signed integer"
  | .notPresent => .ok default
  | .notUnicode error => .error s!"{name}: {error}"

def EnvVar.ok : EnvVar → Option String
  | value text => some text
  | _ => none

structure TelegramSmokeInput where
  chatId : Int
  userId : Int
  unknownUserId : Int
  username : Option String
  actor : String

/-- The user id that no actor has unless another one is given. -/
def successor (userId : Int) : Except String Int :=
  if userId + 1 < i64Bound then .ok (userId + 1)
  else .error "RUNLANE_TELEGRAM_SMOKE_USER_ID is too large"

def TelegramSmokeInput.load : Except String TelegramSmokeInput := do
  let chatId ← envI64 host "RUNLANE_TELEGRAM_SMOKE_CHAT_ID" 42
  let userId ← envI64 host "RUNLANE_TELEGRAM_SMOKE_USER_ID" 1001
  let next ← successor userId
  let unknownUserId ← envI64 host "RUNLANE_TELEGRAM_SMOKE_UNKNOWN_USER_ID" next
  return {
    chatId
    userId
    unknownUserId
    username := (host.var "RUNLANE_TELEGRAM_SMOKE_USERNAME").ok
    actor := (host.var "RUNLANE_TELEGRAM_SMOKE_ACTOR").ok.getD "telegram:smoke-operator" }

namespace TelegramSmokeInput

variable (input : TelegramSmokeInput)

def identityMap : TelegramIdentityMap :=
  ⟨[⟨input.chatId, input.userId, input.actor⟩]⟩

def identity : TelegramIdentity :=
  ⟨input.chatId, input.userId, input.username⟩

def unknownIdentity : TelegramIdentity :=
  ⟨input.chatId, input.unknownUserId, none⟩

end TelegramSmokeInput

def smokeContext : TelegramApprovalContext where
  nowUnixSeconds := 150
  allowlistEntryId := "allow-prod-web-sshd-restart"
  leaseNonce := "telegram-live-simulated-lease-nonce"

def parsed (message : String) : Cli TelegramApprovalCommand :=
  match TelegramApprovalCommand.parse message with
  | .ok command => return command
  | .error error => throw (.failed (debug.telegram error))

/-- The response to a message of the smoke's identity, and the store after it. -/
def handled (label message : String) (input : TelegramSmokeInput) (store : ApprovalStore) :
    Cli (TelegramApprovalResponse × ApprovalStore) := do
  let command ← parsed debug message
  match (TelegramApproval.handleCommand input.identityMap input.identity command
    smokeContext).run store with
  | .ok response store => return (response, store)
  | .error error _ => throw (.failed s!"{label} failed: {debug.telegram error}")

def unexpected {α : Type} (label : String) (response : TelegramApprovalResponse) : Cli α :=
  throw (.failed s!"{label} returned unexpected response: {debug.response response}")

def approvalDecisionAudited (store : ApprovalStore) (outcome : ApprovalOutcome) : Bool :=
  store.ledger.events.any fun event =>
    match event.kind with
    | .approvalDecision _ _ decision => decision = outcome
    | _ => false

def adapterRejectionAudited (store : ApprovalStore) : Bool :=
  store.ledger.events.any fun event =>
    match event.kind with
    | .approvalAdapterRejected adapter reason =>
        adapter = "telegram" && reason = "unauthorized_identity"
    | _ => false

def printListed : TelegramApprovalResponse → Cli Unit
  | .pendingApprovals pending => println s!"list: pending={pending.length}"
  | other => unexpected debug "list" other

def printShown : TelegramApprovalResponse → Cli Unit
  | .approvalDetail detail =>
      println (s!"show: approval={detail.summary.id} required_checks={detail.requiredChecks} " ++
        s!"skipped_checks={detail.skippedChecks}")
  | other => unexpected debug "show" other

def printApproved (store : ApprovalStore) : TelegramApprovalResponse → Cli Unit
  | .approved approvalId leaseId _ _ =>
      println (s!"approve: approval={approvalId} lease={leaseId} " ++
        s!"audit={approvalDecisionAudited store .approved}")
  | other => unexpected debug "approve" other

def printRejected (store : ApprovalStore) : TelegramApprovalResponse → Cli Unit
  | .rejected approvalId _ =>
      println s!"reject: approval={approvalId} audit={approvalDecisionAudited store .rejected}"
  | other => unexpected debug "reject" other

def smokeListAndShowApproval (input : TelegramSmokeInput) : Cli Unit := do
  let store ← demoApprovalStore debug
  let (listed, store) ← handled debug "list" "/approvals" input store
  printListed debug listed
  let (shown, _) ← handled debug "show" "/approval show approval-demo-1" input store
  printShown debug shown

def smokeApproveApproval (input : TelegramSmokeInput) : Cli Unit := do
  let store ← demoApprovalStore debug
  let (approved, store) ← handled debug "approve" "/approve approval-demo-1" input store
  printApproved debug store approved

def smokeRejectApproval (input : TelegramSmokeInput) : Cli Unit := do
  let store ← demoApprovalStore debug
  let (rejected, store) ← handled debug "reject" "/reject approval-demo-1" input store
  printRejected debug store rejected

/-- The refusal has to leave the approval pending and to be audited. -/
def printRefused (store : ApprovalStore) : TelegramApprovalError → Cli Unit
  | .unauthorizedIdentity _ _ =>
      let stillPending := (store.showApproval "approval-demo-1").any fun record =>
        record.state = .pending
      let audited := adapterRejectionAudited store
      if stillPending && audited then
        println s!"unknown_identity: rejected pending={stillPending} audit={audited}"
      else throw (.failed ("unknown identity fail-closed evidence missing: " ++
        s!"pending={stillPending} audited={audited}"))
  | error => throw (.failed s!"unknown identity returned unexpected error: {debug.telegram error}")

def smokeUnknownIdentity (input : TelegramSmokeInput) : Cli Unit := do
  let store ← demoApprovalStore debug
  match (TelegramApproval.handleCommand input.identityMap input.unknownIdentity .list
    smokeContext).run store with
  | .ok response _ =>
      throw (.panicked s!"unknown identity should fail closed: {debug.response response}")
  | .error error store => printRefused debug store error

def smokeInput : Cli TelegramSmokeInput :=
  match TelegramSmokeInput.load host with
  | .ok input => return input
  | .error message => throw (.failed message)

def runTelegramApprovalLiveSimulatedSmoke : Cli Unit := do
  let input ← smokeInput host
  println "telegram approval smoke mode: live-simulated"
  println "secrets: not-read"
  println "identity: redacted"
  smokeListAndShowApproval debug input
  smokeApproveApproval debug input
  smokeRejectApproval debug input
  smokeUnknownIdentity debug input
  println "telegram approval live-simulated smoke ok"

def help : String :=
  "runlane commands:\n  runlane fleet validate <path>\n  runlane server gitops sync <path>\n" ++
    "  runlane approval list\n  runlane approval show <id>\n  runlane approval approve <id>\n" ++
    "  runlane approval reject <id>\n  runlane telegram approval live-simulated-smoke\n" ++
    "  runlane demo service-unhealthy <fleet-path>\n  runlane demo disk-pressure <fleet-path>\n" ++
    "  runlane receipt show <id> <fleet-or-state-path>"

def run : List String → Cli Unit
  | [] | ["--help"] | ["-h"] => println help
  | ["fleet", "validate", path] => printFleetSummary host "fleet validation ok" path
  | ["server", "gitops", "sync", path] => printFleetSummary host "server gitops sync ok" path
  | "approval" :: rest => runApprovalCommand debug rest
  | ["telegram", "approval", "live-simulated-smoke"] =>
      runTelegramApprovalLiveSimulatedSmoke debug host
  | "demo" :: rest => runDemoCommand debug host rest
  | "receipt" :: rest => runReceiptCommand debug host rest
  | args => throw (.failed ("unsupported runlane command: " ++ " ".intercalate args))

end Operator

end Runlane
