import Runlane.Agent.Collection
import Runlane.Approval.Store
import Runlane.Core.HelperContract
import Runlane.Durable.State
import Runlane.E2e.Journey

/-!
The rehearsal of the service-unhealthy runbook on a real host.

The agent plans, collects evidence with the native collectors, analyses it,
approves the restart itself and validates the helper's request without running the
helper. What it recorded is then appended to the ledger of a server state
directory. The commands handed to the host and the ledger file are the state of a
run; the ledger in memory is lost with a run that fails.
-/

namespace Runlane.Agent

/-- What is printed of the errors that end a run. -/
structure DogfoodTexts where
  auditAppend : AuditAppendError → String
  plan : ServiceUnhealthyPlanError → String
  proposal : ProposalValidationError → String
  approval : ApprovalError → String
  helper : HelperRejection → String
  receipt : ReceiptError → String
  state : DurableStateError → String

structure DogfoodState where
  commands : List CollectorCommand
  file : LedgerFile
deriving DecidableEq

/-- Why a run ends early: a step returns an error, or the program panics. -/
inductive Halt where
  | failed (error : CliError)
  | panicked (message : String)
deriving DecidableEq

abbrev Dogfood := EStateM Halt DogfoodState

namespace Dogfood

/-- A step that neither runs a command nor touches the file. -/
def of {α : Type} (step : Except CliError α) : Dogfood α :=
  ofExcept (step.mapError .failed)

def onHost {α : Type} (step : AgentRun α) : Dogfood α := fun state =>
  match step.run state.commands with
  | .ok a commands => .ok a { state with commands }
  | .error error commands => .error (.failed error) { state with commands }

def onDisk {α : Type} (step : EStateM CliError LedgerFile α) : Dogfood α := fun state =>
  match step.run state.file with
  | .ok a file => .ok a { state with file }
  | .error error file => .error (.failed error) { state with file }

end Dogfood

def dogfoodRunId : String := "run-real-host-service-unhealthy"

def dogfoodIncidentId : String := "incident-real-host-service-unhealthy"

def dogfoodApprovalId : String := "approval-real-host-service-unhealthy"

def dogfoodApprovedAt : Nat := 1780000001

def dogfoodRequestedAt : Nat := 1780000000

def dogfoodExpiresAt : Nat := 4102444800

def requireLinuxDogfoodBackend (native : NativeBackend) : Except CliError NativeBackend :=
  if native.backend.os = .linux then .ok native
  else .error (.dogfood
    "real-host service-unhealthy dogfood currently requires Linux/systemd")

section Steps

variable (texts : DogfoodTexts)

def dogfoodEventId (sequence : Nat) : String :=
  s!"dogfood-event-{sequence}"

def appendDogfoodEvent (ledger : AuditLedger) (runId : String) (kind : AuditEventKind) :
    Except CliError AuditLedger :=
  let sequence := ledger.nextSequence
  (ledger.append ⟨dogfoodEventId sequence, runId, sequence, kind⟩).mapError fun error =>
    .dogfood s!"audit append failed: {texts.auditAppend error}"

def appendDogfoodEvents (ledger : AuditLedger) (runId : String) (kinds : List AuditEventKind) :
    Except CliError AuditLedger :=
  kinds.foldlM (fun ledger kind => appendDogfoodEvent texts ledger runId kind) ledger

def dogfoodIncidentLedger (runId incidentId nodeId : String) : Except CliError AuditLedger :=
  appendDogfoodEvent texts .empty runId (.incidentCreated incidentId nodeId "service-unhealthy")

def planDogfoodRunbook (native : NativeBackend) (runId : String) (options : DogfoodOptions) :
    Except CliError ServiceUnhealthyRunbookPlan :=
  (planServiceUnhealthyRunbook ⟨runId, options.nodeId, options.serviceName⟩
    (native.backend.capabilityReport options.nodeId).toCapabilityReport).mapError fun error =>
      .dogfood s!"planning failed: {texts.plan error}"

/-- The body of the loop over the collectors. -/
def observeKind (native : NativeBackend) (run : CollectorCommand → Except String CommandOutput)
    (serviceName runId : String) (observed : List EvidenceEnvelope × AuditLedger)
    (kind : EvidenceKind) : AgentRun (List EvidenceEnvelope × AuditLedger) := do
  let envelope ← collectKind native run serviceName kind
  let ledger ← ofExcept (appendDogfoodEvent texts observed.2 runId
    (.evidenceCollected envelope.source))
  return (observed.1 ++ [envelope], ledger)

def collectDogfoodEvidence (native : NativeBackend)
    (run : CollectorCommand → Except String CommandOutput) (serviceName : String)
    (ledger : AuditLedger) (runId : String) : AgentRun (List EvidenceEnvelope × AuditLedger) :=
  serviceUnhealthyCollectorKinds.foldlM (observeKind texts native run serviceName runId)
    ([], ledger)

def proposalHasServiceRestart (proposal : StructuredProposal) : Bool :=
  proposal.proposedActions.any fun action => action.kind = .serviceRestart

def buildDogfoodProposal (ledger : AuditLedger) (runId : String) (options : DogfoodOptions)
    (evidence : List EvidenceEnvelope) : Except CliError (StructuredProposal × AuditLedger) := do
  let proposal := analyzeServiceUnhealthy "proposal-real-host-service-unhealthy" options.nodeId
    options.serviceName evidence
  (validateProposal proposal .serviceUnhealthy).mapError fun error =>
    .dogfood s!"proposal validation failed: {texts.proposal error}"
  if !proposalHasServiceRestart proposal then
    .error (.dogfood "real-host evidence did not produce a typed service.restart proposal")
  else
    let ledger ← appendDogfoodEvent texts ledger runId
      (.proposalGenerated proposal.id proposal.hypothesis)
    return (proposal, ledger)

def dogfoodRestartTask (plan : ServiceUnhealthyRunbookPlan) : Except CliError Task :=
  match plan.run.tasks.find? fun task => task.id = "restart-service" with
  | some task => .ok task
  | none => .error (.dogfood "restart-service task missing")

/-- A call on the approval store, which is given up when the call fails. -/
def approvalCall {α : Type} (label : String) (method : ApprovalStore.Approvals α)
    (approvals : ApprovalStore) : Except CliError (α × ApprovalStore) :=
  match method.run approvals with
  | .ok answer approvals => .ok (answer, approvals)
  | .error error _ => .error (.dogfood s!"{label}: {texts.approval error}")

/-- What follows once the approval record exists. -/
def leaseDogfoodRestart (ledger : AuditLedger) (runId : String) (record : ApprovalRecord)
    (allowlistEntryId : String) : Except CliError (CapabilityLeaseClaims × AuditLedger) := do
  let ((), approvals) ← approvalCall texts "approval request failed" (ApprovalStore.request record)
    .empty
  let (claims, approvals) ← approvalCall texts "approval failed" (ApprovalStore.approve
    dogfoodApprovalId "restart-service" "real-host-dogfood-operator" dogfoodApprovedAt
    allowlistEntryId "real-host-dogfood-lease-nonce") approvals
  let ledger ← appendDogfoodEvents texts ledger runId
    (approvals.ledger.events.map AuditEvent.kind)
  let ledger ← appendDogfoodEvent texts ledger runId
    (.capabilityLeaseIssued claims.leaseId claims.approvalId)
  let ledger ← appendDogfoodEvent texts ledger runId
    (.resourceLeaseGranted claims.leaseId claims.target.resourceId .exclusive)
  return (claims, ledger)

/-- Making the record panics when the proposal has no action of that id. -/
def approveDogfoodRestart (ledger : AuditLedger) (runId : String) (proposal : StructuredProposal)
    (restartTask : Task) (serviceName allowlistEntryId : String) :
    Except Halt (CapabilityLeaseClaims × AuditLedger) :=
  match ApprovalRecord.new dogfoodApprovalId runId proposal "restart-service" .system serviceName
    restartTask.impact restartTask.verification dogfoodRequestedAt dogfoodExpiresAt with
  | none => .error (.panicked "approval action id must exist in proposal")
  | some record => (leaseDogfoodRestart texts ledger runId record allowlistEntryId).mapError .failed

def validateDogfoodHelper (ledger : AuditLedger) (runId : String) (claims : CapabilityLeaseClaims)
    (options : DogfoodOptions) (allowlistEntryId : String) : Except CliError AuditLedger := do
  let signed : SignedCapabilityLease :=
    ⟨claims, "real-host-dogfood-key", "real-host-dogfood-signature"⟩
  let target : ActionTarget := ⟨claims.target.resourceId, options.serviceName⟩
  let request : HelperActionRequest :=
    ⟨claims.leaseId, .serviceRestart, target, [⟨"service", options.serviceName⟩]⟩
  let allowlist : HelperAllowlist :=
    ⟨[⟨allowlistEntryId, .serviceRestart, claims.target.resourceId⟩]⟩
  let _ ← (validateHelperRequest request signed
    ⟨options.nodeId, dogfoodApprovedAt, .valid, [], allowlist⟩).mapError fun error =>
      CliError.dogfood s!"helper dry-run validation failed: {texts.helper error}"
  appendDogfoodEvent texts ledger runId (.actionResult .serviceRestart target .succeeded)

def recordDogfoodVerification (ledger : AuditLedger) (runId : String) (restartTask : Task) :
    Except CliError AuditLedger := do
  let verification := (VerificationPolicy.minimal.plan .serviceRestart
    restartTask.impact).withSkipped restartTask.verification.skipped
  let ledger ← appendDogfoodEvent texts ledger runId (.verificationSelected verification)
  let ledger ← appendDogfoodEvents texts ledger runId (verification.required.map fun check =>
    .verificationCompleted check.id check.resourceId)
  appendDogfoodEvents texts ledger runId (verification.skipped.map .verificationSkipped)

/-- The steps between the evidence and the receipt. -/
def authoriseDogfoodRestart (options : DogfoodOptions) (plan : ServiceUnhealthyRunbookPlan)
    (evidence : List EvidenceEnvelope) (ledger : AuditLedger) : Except Halt AuditLedger := do
  let (proposal, ledger) ← (buildDogfoodProposal texts ledger dogfoodRunId options
    evidence).mapError .failed
  let restartTask ← (dogfoodRestartTask plan).mapError .failed
  let allowlistEntryId := s!"allow-{options.serviceName}-restart"
  let (claims, ledger) ← approveDogfoodRestart texts ledger dogfoodRunId proposal restartTask
    options.serviceName allowlistEntryId
  let ledger ← (validateDogfoodHelper texts ledger dogfoodRunId claims options
    allowlistEntryId).mapError .failed
  (recordDogfoodVerification texts ledger dogfoodRunId restartTask).mapError .failed

variable (io : StateIo)

/-- A call on the server state, whose error is printed behind a label. -/
def stateCall {α : Type} (label : String) (method : EStateM DurableStateError LedgerFile α) :
    EStateM CliError LedgerFile α :=
  method.adaptExcept fun error => .dogfood s!"{label}: {texts.state error}"

def persistDogfoodReceipt (ledger : AuditLedger) (runId : String) (options : DogfoodOptions) :
    EStateM CliError LedgerFile (String × String) := do
  let ledger ← ofExcept (appendDogfoodEvent texts ledger runId
    (.cognitiveReceiptGenerated "receipt-real-host-service-unhealthy"))
  let receipt ← ofExcept ((generateOperatorReceipt runId ledger).mapError fun error =>
    CliError.dogfood s!"receipt generation failed: {texts.receipt error}")
  let state ← stateCall texts "state init failed" (LocalServerState.init io options.stateDir)
  stateCall texts "state ledger append failed" (LocalServerState.appendLedger io state ledger)
  return (receipt.renderText, state.layout.root)

/-- What a run prints. -/
structure DogfoodReport where
  os : OperatingSystem
  nodeId : String
  serviceName : String
  evidence : Nat
  stateDir : String
  receiptText : String
deriving DecidableEq

def runDogfoodServiceUnhealthy (native : NativeBackend)
    (run : CollectorCommand → Except String CommandOutput) (options : DogfoodOptions) :
    Dogfood DogfoodReport := do
  let native ← .of (requireLinuxDogfoodBackend native)
  let ledger ← .of (dogfoodIncidentLedger texts dogfoodRunId dogfoodIncidentId options.nodeId)
  let plan ← .of (planDogfoodRunbook texts native dogfoodRunId options)
  let (evidence, ledger) ← .onHost (collectDogfoodEvidence texts native run options.serviceName
    ledger dogfoodRunId)
  let ledger ← ofExcept (authoriseDogfoodRestart texts options plan evidence ledger)
  let (receiptText, stateDir) ← .onDisk (persistDogfoodReceipt texts io ledger dogfoodRunId
    options)
  return ⟨native.backend.os, options.nodeId, options.serviceName, evidence.length, stateDir,
    receiptText⟩

end Steps

end Runlane.Agent
