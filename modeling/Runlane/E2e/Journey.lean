import Runlane.Analyzer.Proposals
import Runlane.Approval.Store
import Runlane.ControlPlane.Operations
import Runlane.Core.HelperContract
import Runlane.Fleet.Repository
import Runlane.Planner.DiskPressure
import Runlane.Receipt.Generation

/-!
The simulated journeys, from a fleet repository to a receipt.

A run enrolls the fleet, plans, collects canned evidence through the control
plane, analyses it, approves, validates the helper request and records what was
verified. A step that fails ends the run with an error; the one step that may
stop the program instead is the approval, which expects an action by its id. The
texts that `Debug` prints of an error are parameters.
-/

namespace Runlane

def FleetLoadError.display : FleetLoadError → String
  | io path source => s!"{path}: {source}"
  | yaml path source => s!"{path}: invalid yaml: {source}"
  | invalid path message => s!"{path}: {message}"
  | validation message => message

def VerificationPlan.withSkipped (plan : VerificationPlan) (skipped : List SkippedVerification) :
    VerificationPlan :=
  { plan with skipped }

/-- Structured helper response. -/
structure HelperActionResponse where
  status : HelperActionStatus
  message : String

namespace E2e

/-- Ordered E2E journey stage. -/
inductive JourneyStage where
  | declare
  | observe
  | propose
  | approve
  | lease
  | execute
  | verify
  | remember
deriving DecidableEq

structure ServiceUnhealthySimulation where
  runId : String
  stages : List JourneyStage
  receipt : OperatorReceipt
  ledger : AuditLedger
deriving DecidableEq

structure DiskPressureSimulation where
  runId : String
  stages : List JourneyStage
  receipt : OperatorReceipt
  ledger : AuditLedger
deriving DecidableEq

/-- E2E simulation failure. -/
inductive E2eError where
  | fleet (message : String)
  | planning (message : String)
  | proposal (message : String)
  | approval (message : String)
  | helper (message : String)
  | receipt (message : String)
deriving DecidableEq

/-- Why a run ends early: a step returns an error, or the program panics. -/
inductive Halt where
  | failed (error : E2eError)
  | panicked (message : String)
deriving DecidableEq

abbrev Journey := Except Halt

/-- A step that cannot panic. -/
def Journey.of {α : Type} (step : Except E2eError α) : Journey α :=
  step.mapError .failed

/-- What `Debug` prints of the errors that end a run. -/
structure DebugTexts where
  auditAppend : AuditAppendError → String
  runtime : RuntimeError → String
  plan : DiskPressurePlanError → String
  proposal : ProposalValidationError → String
  approval : ApprovalError → String
  helper : HelperRejection → String
  receipt : ReceiptError → String

structure EnrollmentLabels where
  token : String
  enrollment : String
  certificate : String
  nonce : String

def EnrollmentLabels.service : EnrollmentLabels where
  token := "token"
  enrollment := "enroll"
  certificate := "cert"
  nonce := "enroll-nonce"

def EnrollmentLabels.diskPressure : EnrollmentLabels where
  token := "token-disk"
  enrollment := "enroll-disk"
  certificate := "cert-disk"
  nonce := "enroll-disk-nonce"

structure ApprovalFixture where
  approvalId : String
  actionId : String
  subject : String
  allowlistEntryId : String
  leaseNonce : String

def ApprovalFixture.serviceUnhealthy : ApprovalFixture where
  approvalId := "approval-demo-service-unhealthy"
  actionId := "restart-service"
  subject := "sshd"
  allowlistEntryId := "allow-prod-web-sshd-restart"
  leaseNonce := "lease-nonce-demo"

def ApprovalFixture.diskPressure (cleanupSubject : String) : ApprovalFixture where
  approvalId := "approval-demo-disk-pressure"
  actionId := "remove-allowlisted-cleanup-path"
  subject := cleanupSubject
  allowlistEntryId := "allow-prod-web-runlane-demo-cache-cleanup"
  leaseNonce := "lease-nonce-demo-disk-pressure"

structure HelperFixture where
  nodeId : String
  subject : String
  argumentName : String
  argumentValue : String
  allowlistEntryId : String
  successMessage : String

def HelperFixture.serviceUnhealthy : HelperFixture where
  nodeId := "prod-web-01"
  subject := "sshd"
  argumentName := "service"
  argumentValue := "sshd"
  allowlistEntryId := "allow-prod-web-sshd-restart"
  successMessage := "dry-run service.restart validated"

def HelperFixture.diskPressure (cleanupSubject : String) : HelperFixture where
  nodeId := "prod-web-01"
  subject := cleanupSubject
  argumentName := "path"
  argumentValue := cleanupSubject
  allowlistEntryId := "allow-prod-web-runlane-demo-cache-cleanup"
  successMessage := "dry-run file.remove_from_allowlist validated"

def journeyStages : List JourneyStage :=
  [.declare, .observe, .propose, .approve, .lease, .execute, .verify, .remember]

section Steps

variable (debug : DebugTexts)

def append (ledger : AuditLedger) (runId : String) (kind : AuditEventKind) :
    Except E2eError AuditLedger :=
  let sequence := ledger.nextSequence
  (ledger.append ⟨s!"e2e-event-{sequence}", runId, sequence, kind⟩).mapError fun error =>
    .receipt (debug.auditAppend error)

def appendRuntimeEvents (ledger : AuditLedger) (runId : String) (events : List AuditEvent) :
    Except E2eError AuditLedger :=
  events.foldlM (fun ledger event => append debug ledger runId event.kind) ledger

def incidentLedger (runId incidentId nodeId runbook : String) : Except E2eError AuditLedger :=
  append debug .empty runId (.incidentCreated incidentId nodeId runbook)

/-- A call on the control plane, which is given up when the call fails. -/
def runtimeCall {α : Type} (method : ControlPlane.Runtime α) (plane : ControlPlane) :
    Except E2eError (α × ControlPlane) :=
  match method.run plane with
  | .ok answer plane => .ok (answer, plane)
  | .error error _ => .error (.planning (debug.runtime error))

def enrollNode (labels : EnrollmentLabels) (plane : ControlPlane) (node : FleetInventoryNode) :
    Except E2eError ControlPlane := do
  let ((), plane) ← runtimeCall debug (ControlPlane.createEnrollmentToken {
    tokenId := s!"{labels.token}-{node.id}"
    token := s!"{labels.enrollment}-{node.id}"
    nodeId := node.id
    os := node.os
    serverTrustRoot := "demo-trust-root"
    expiresAtUnixSeconds := 200
    nonce := s!"{labels.nonce}-{node.id}" }) plane
  let (_, plane) ← runtimeCall debug (ControlPlane.enrollAgent {
    token := s!"{labels.enrollment}-{node.id}"
    nodeId := node.id
    os := node.os
    certificateFingerprint := s!"{labels.certificate}-{node.id}"
    serverTrustRoot := "demo-trust-root"
    nowUnixSeconds := 100 }) plane
  return plane

def enrollFleetAgents (plane : ControlPlane) (fleet : FleetRepository)
    (labels : EnrollmentLabels) : Except E2eError ControlPlane :=
  fleet.inventory.foldlM (enrollNode debug labels) plane

def loadFleet (root : String) (tree : Fleet.FleetTree) (yaml : Fleet.FleetYaml) :
    Except E2eError FleetRepository :=
  (FleetRepository.load root tree yaml).mapError fun error => .fleet error.display

def targetNode (fleet : FleetRepository) (nodeId : String) : Except E2eError FleetInventoryNode :=
  match fleet.inventory.find? fun node => node.id = nodeId with
  | some node => .ok node
  | none => .error (.fleet s!"examples/fleet missing {nodeId}")

def capabilityReport (target : FleetInventoryNode) : CapabilityReport where
  nodeId := target.id
  os := target.os
  capabilities := target.requestedCapabilities.map Capability.mk

def enrolledIdentity (plane : ControlPlane) (nodeId : String) : Except E2eError AgentIdentity :=
  match plane.agents.find? fun agent => agent.nodeId = nodeId with
  | some agent => .ok agent.identity
  | none => .error (.planning "target agent was not enrolled")

def evidenceForCollectTask (taskId : String) : Except E2eError EvidenceEnvelope :=
  match taskId with
  | "collect-service-status" => .ok (.text "service_status" "service=not-active")
  | "collect-recent-logs" => .ok (.text "recent_logs" "sshd failed with connection refused")
  | "collect-disk-snapshot" => .ok (.text "disk_snapshot" "disk=present / 40%")
  | "collect-process-snapshot" => .ok (.text "process_snapshot" "process=present sshd missing")
  | "collect-socket-snapshot" => .ok (.text "socket_snapshot" "socket=present port 22 absent")
  | other => .error (.planning s!"unsupported evidence task: {other}")

def diskPressureEvidenceForCollectTask (taskId : String) : Except E2eError EvidenceEnvelope :=
  match taskId with
  | "collect-disk-usage" => .ok (.text "disk_usage" "disk_pressure=high mount=/ usage=92")
  | "collect-cleanup-candidate" => .ok (.text "cleanup_candidate"
      "cleanup_candidate=present path=/var/tmp/runlane-demo-cache bytes=524288000")
  | "collect-disk-pressure-logs" => .ok (.text "disk_pressure_logs"
      "log=present disk pressure detected; no deletion command supplied")
  | "collect-pre-action-snapshot" => .ok (.text "pre_action_snapshot"
      "pre_action_snapshot=present free_space=low cleanup_candidate=present")
  | other => .error (.planning s!"unsupported disk-pressure evidence task: {other}")

def enqueueCollectTask (plane : ControlPlane) (runId targetId : String) (task : Task) :
    Except E2eError ControlPlane :=
  match task.requiredCapabilities.head? with
  | none => .error (.planning s!"{task.id} missing capability")
  | some capability =>
      match task.reads.head? with
      | none => .error (.planning s!"{task.id} missing read resource")
      | some resourceId => do
          let ((), plane) ← runtimeCall debug (ControlPlane.enqueueTask {
            envelope := {
              envelopeId := s!"env-demo-{task.id}"
              runId := runId
              taskId := task.id
              nodeId := targetId
              issuedAtUnixSeconds := 100
              expiresAtUnixSeconds := 200
              nonce := s!"nonce-demo-{task.id}"
              requiredCapabilities := task.requiredCapabilities
              auditCorrelationId := s!"audit-demo-{task.id}" }
            payload := .collectEvidence capability resourceId }) plane
          return plane

/-- The result that the agent submits for a task it has pulled. -/
def resultSubmission (envelope : AgentTaskEnvelope) (evidence : EvidenceEnvelope) :
    AgentResultSubmission where
  envelopeId := envelope.envelopeId
  runId := envelope.runId
  taskId := envelope.taskId
  nodeId := envelope.nodeId
  nonce := envelope.nonce
  status := .succeeded
  evidence := [evidence]
  auditCorrelationId := envelope.auditCorrelationId

/-- One pass of the collection loop. -/
def collectTaskEvidence (identity : AgentIdentity) (runId targetId : String)
    (evidenceForTask : String → Except E2eError EvidenceEnvelope) (plane : ControlPlane)
    (entry : Task × Nat) : Except E2eError ControlPlane := do
  let (task, index) := entry
  let plane ← enqueueCollectTask debug plane runId targetId task
  let (pulled, plane) ← runtimeCall debug (ControlPlane.pullTask identity (101 + index)) plane
  match pulled.payload with
  | .collectEvidence _ _ => do
      let evidence ← evidenceForTask pulled.envelope.taskId
      let ((), plane) ← runtimeCall debug (ControlPlane.submitResult identity
        (resultSubmission pulled.envelope evidence) (110 + index)) plane
      return plane
  | _ => .error (.planning s!"{pulled.envelope.taskId} pulled non-evidence payload")

def acceptedEvidence (plane : ControlPlane) (runId : String) : List EvidenceEnvelope :=
  (plane.acceptedResults.filter fun result =>
    result.runId = runId && result.status = .succeeded).flatMap AgentResultSubmission.evidence

def collectEvidence (plane : ControlPlane) (identity : AgentIdentity) (runId targetId : String)
    (tasks : List Task) (evidenceForTask : String → Except E2eError EvidenceEnvelope) :
    Except E2eError (List EvidenceEnvelope × ControlPlane) := do
  let collecting := tasks.filter fun task => task.id.startsWith "collect-"
  let expectedCount := collecting.length
  let plane ← collecting.zipIdx.foldlM
    (collectTaskEvidence debug identity runId targetId evidenceForTask) plane
  let evidence := acceptedEvidence plane runId
  if evidence.length ≠ expectedCount then
    .error (.planning s!"expected {expectedCount} evidence results, got {evidence.length}")
  else
    return (evidence, plane)

def appendObservedEvidence (ledger : AuditLedger) (runId : String) (plane : ControlPlane)
    (evidence : List EvidenceEnvelope) : Except E2eError AuditLedger := do
  let ledger ← appendRuntimeEvents debug ledger runId plane.ledger.events
  evidence.foldlM (fun ledger item => append debug ledger runId (.evidenceCollected item.source))
    ledger

def validateAndRecordProposal (ledger : AuditLedger) (runId : String)
    (proposal : StructuredProposal) (policy : ProposalPolicy) :
    Except E2eError (StructuredProposal × AuditLedger) := do
  (validateProposal proposal policy).mapError fun error => .proposal (debug.proposal error)
  let ledger ← append debug ledger runId (.proposalGenerated proposal.id proposal.hypothesis)
  return (proposal, ledger)

def serviceUnhealthyProposal (ledger : AuditLedger) (runId targetId : String)
    (evidence : List EvidenceEnvelope) : Except E2eError (StructuredProposal × AuditLedger) :=
  validateAndRecordProposal debug ledger runId
    (analyzeServiceUnhealthy "proposal-demo-service-unhealthy" targetId "sshd" evidence)
    .serviceUnhealthy

def allowedCleanupResources (fleet : FleetRepository) : List String :=
  (fleet.allowlists.filter fun entry => entry.action = "file.remove_from_allowlist").map
    FleetAllowlistEntryDoc.targetResourceId

def diskPressureProposal (ledger : AuditLedger) (runId targetId cleanupResourceId : String)
    (evidence : List EvidenceEnvelope) (fleet : FleetRepository) :
    Except E2eError (StructuredProposal × AuditLedger) :=
  validateAndRecordProposal debug ledger runId
    (analyzeDiskPressure "proposal-demo-disk-pressure" targetId "/" cleanupResourceId evidence
      (allowedCleanupResources fleet)) .diskPressure

def requireTask (tasks : List Task) (taskId : String) : Except E2eError Task :=
  match tasks.find? fun task => task.id = taskId with
  | some task => .ok task
  | none => .error (.planning s!"{taskId} task missing")

/-- A call on the approval store, which is given up when the call fails. -/
def approvalCall {α : Type} (method : ApprovalStore.Approvals α) (approvals : ApprovalStore) :
    Except E2eError (α × ApprovalStore) :=
  match method.run approvals with
  | .ok answer approvals => .ok (answer, approvals)
  | .error error _ => .error (.approval (debug.approval error))

/-- What follows once the approval record exists. -/
def approveRecord (ledger : AuditLedger) (runId : String) (record : ApprovalRecord)
    (fixture : ApprovalFixture) : Except E2eError (CapabilityLeaseClaims × AuditLedger) := do
  let ((), approvals) ← approvalCall debug (ApprovalStore.request record) .empty
  let (claims, approvals) ← approvalCall debug (ApprovalStore.approve fixture.approvalId
    fixture.actionId "operator" 150 fixture.allowlistEntryId fixture.leaseNonce) approvals
  let ledger ← appendRuntimeEvents debug ledger runId approvals.ledger.events
  let ledger ← append debug ledger runId (.capabilityLeaseIssued claims.leaseId claims.approvalId)
  let ledger ← append debug ledger runId
    (.resourceLeaseGranted claims.leaseId claims.target.resourceId .exclusive)
  return (claims, ledger)

/-- Making the record panics when the proposal has no action of the fixture's id. -/
def approveAction (ledger : AuditLedger) (runId : String) (proposal : StructuredProposal)
    (task : Task) (fixture : ApprovalFixture) : Journey (CapabilityLeaseClaims × AuditLedger) :=
  match ApprovalRecord.new fixture.approvalId runId proposal fixture.actionId .system
    fixture.subject task.impact task.verification 120 200 with
  | none => .error (.panicked "approval action id must exist in proposal")
  | some record => .of (approveRecord debug ledger runId record fixture)

def validateHelperAction (ledger : AuditLedger) (runId : String) (claims : CapabilityLeaseClaims)
    (action : ActionKind) (fixture : HelperFixture) : Except E2eError AuditLedger := do
  let signed : SignedCapabilityLease := ⟨claims, "demo-key", "demo-signature"⟩
  let target : ActionTarget := ⟨claims.target.resourceId, fixture.subject⟩
  let request : HelperActionRequest :=
    ⟨claims.leaseId, action, target, [⟨fixture.argumentName, fixture.argumentValue⟩]⟩
  let allowlist : HelperAllowlist :=
    ⟨[⟨fixture.allowlistEntryId, action, claims.target.resourceId⟩]⟩
  let _ ← (validateHelperRequest request signed
    ⟨fixture.nodeId, 150, .valid, [], allowlist⟩).mapError fun error =>
      E2eError.helper (debug.helper error)
  let response : HelperActionResponse := ⟨.succeeded, fixture.successMessage⟩
  append debug ledger runId (.actionResult action target response.status)

def recordVerification (ledger : AuditLedger) (runId : String) (action : ActionKind)
    (impact : ImpactSet) (skipped : List SkippedVerification) : Except E2eError AuditLedger := do
  let verification := (VerificationPolicy.minimal.plan action impact).withSkipped skipped
  let ledger ← append debug ledger runId (.verificationSelected verification)
  let ledger ← verification.required.foldlM (fun ledger check =>
    append debug ledger runId (.verificationCompleted check.id check.resourceId)) ledger
  verification.skipped.foldlM (fun ledger skipped =>
    append debug ledger runId (.verificationSkipped skipped)) ledger

def finishReceipt (ledger : AuditLedger) (runId receiptId : String) :
    Except E2eError (OperatorReceipt × AuditLedger) := do
  let receipt ← (generateOperatorReceipt runId ledger).mapError fun error =>
    E2eError.receipt (debug.receipt error)
  let ledger ← append debug ledger runId (.cognitiveReceiptGenerated receiptId)
  return (receipt, ledger)

def serviceRunId : String := "run-demo-service-unhealthy"

/-- Runs the deterministic service-unhealthy journey against a fleet fixture. -/
def runServiceUnhealthySimulation (debugPlan : ServiceUnhealthyPlanError → String) (root : String)
    (tree : Fleet.FleetTree) (yaml : Fleet.FleetYaml) : Journey ServiceUnhealthySimulation := do
  let fleet ← .of (loadFleet root tree yaml)
  let ledger ← .of (incidentLedger debug serviceRunId "incident-demo-service-unhealthy"
    "prod-web-01" "service-unhealthy")
  let plane ← .of (enrollFleetAgents debug .empty fleet .service)
  let target ← .of (targetNode fleet "prod-web-01")
  let plan ← .of ((planServiceUnhealthyRunbook ⟨serviceRunId, target.id, "sshd"⟩
    (capabilityReport target)).mapError fun error => .planning (debugPlan error))
  let identity ← .of (enrolledIdentity plane target.id)
  let (evidence, plane) ← .of (collectEvidence debug plane identity serviceRunId target.id
    plan.run.tasks evidenceForCollectTask)
  let ledger ← .of (appendObservedEvidence debug ledger serviceRunId plane evidence)
  let (proposal, ledger) ← .of (serviceUnhealthyProposal debug ledger serviceRunId target.id
    evidence)
  let restartTask ← .of (requireTask plan.run.tasks "restart-service")
  let (claims, ledger) ← approveAction debug ledger serviceRunId proposal restartTask
    .serviceUnhealthy
  let ledger ← .of (validateHelperAction debug ledger serviceRunId claims .serviceRestart
    .serviceUnhealthy)
  let ledger ← .of (recordVerification debug ledger serviceRunId .serviceRestart
    restartTask.impact restartTask.verification.skipped)
  let (receipt, ledger) ← .of (finishReceipt debug ledger serviceRunId
    "receipt-demo-service-unhealthy")
  return { runId := serviceRunId, stages := journeyStages, receipt, ledger }

def diskRunId : String := "run-demo-disk-pressure"

def cleanupResourceId : String := "system:node/prod-web-01/path/var-tmp-runlane-demo-cache"

def cleanupSubject : String := "/var/tmp/runlane-demo-cache"

/-- Runs the deterministic disk-pressure journey against a fleet fixture. -/
def runDiskPressureSimulation (root : String) (tree : Fleet.FleetTree) (yaml : Fleet.FleetYaml) :
    Journey DiskPressureSimulation := do
  let fleet ← .of (loadFleet root tree yaml)
  let ledger ← .of (incidentLedger debug diskRunId "incident-demo-disk-pressure" "prod-web-01"
    "disk-pressure")
  let plane ← .of (enrollFleetAgents debug .empty fleet .diskPressure)
  let target ← .of (targetNode fleet "prod-web-01")
  let plan ← .of ((planDiskPressureRunbook
    ⟨diskRunId, target.id, "/", cleanupResourceId, cleanupSubject⟩
    (capabilityReport target)).mapError fun error => .planning (debug.plan error))
  let identity ← .of (enrolledIdentity plane target.id)
  let (evidence, plane) ← .of (collectEvidence debug plane identity diskRunId target.id
    plan.run.tasks diskPressureEvidenceForCollectTask)
  let ledger ← .of (appendObservedEvidence debug ledger diskRunId plane evidence)
  let (proposal, ledger) ← .of (diskPressureProposal debug ledger diskRunId target.id
    cleanupResourceId evidence fleet)
  let cleanupTask ← .of (requireTask plan.run.tasks "cleanup-allowlisted-path")
  let (claims, ledger) ← approveAction debug ledger diskRunId proposal cleanupTask
    (.diskPressure cleanupSubject)
  let ledger ← .of (validateHelperAction debug ledger diskRunId claims .removeAllowlistedFile
    (.diskPressure cleanupSubject))
  let ledger ← .of (recordVerification debug ledger diskRunId .removeAllowlistedFile
    cleanupTask.impact cleanupTask.verification.skipped)
  let (receipt, ledger) ← .of (finishReceipt debug ledger diskRunId "receipt-demo-disk-pressure")
  return { runId := diskRunId, stages := journeyStages, receipt, ledger }

end Steps

end E2e

end Runlane
