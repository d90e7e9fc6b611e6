import Runlane.Core.AuditLedger
import Runlane.Planner.Verification
import Mathlib.Data.List.Destutter

/-!
Operator receipts, reconstructed from the audit ledger.

The events of one run are folded into `ReceiptParts`, and a receipt is made of
the parts if none is missing. A part is missing only when no event contributed
to it; the parts are not compared with each other.
-/

namespace Runlane

structure OperatorReceipt where
  runId : String
  incidentId : String
  nodeId : String
  layer : OperationalLayer
  changedResources : List String
  evidenceReferences : List String
  proposalId : String
  hypothesis : String
  approvalId : String
  leaseId : String
  helperAction : ActionKind
  helperStatus : HelperActionStatus
  verificationChecks : List VerificationCheck
  verificationCompleted : List String
  skippedChecks : List SkippedVerification
  residualRisk : String
  takeoverNotes : String
deriving DecidableEq

def ActionKind.debug : ActionKind → String
  | serviceRestart => "ServiceRestart"
  | serviceReload => "ServiceReload"
  | packageUpdate => "PackageUpdate"
  | nodeReboot => "NodeReboot"
  | runAllowlistedScript => "RunAllowlistedScript"
  | removeAllowlistedFile => "RemoveAllowlistedFile"

def HelperActionStatus.debug : HelperActionStatus → String
  | succeeded => "Succeeded"
  | failed => "Failed"
  | denied => "Denied"

def OperatorReceipt.renderText (receipt : OperatorReceipt) : String :=
  let changed := ",".intercalate receipt.changedResources
  let evidence := ",".intercalate receipt.evidenceReferences
  let verified := ",".intercalate receipt.verificationCompleted
  let skipped := ",".intercalate (receipt.skippedChecks.map fun skipped =>
    s!"{skipped.checkId} ({skipped.reason})")
  s!"run: {receipt.runId}\nincident: {receipt.incidentId}\nnode: {receipt.nodeId}\n" ++
  s!"layer: {receipt.layer.debug}\nchanged: {changed}\n" ++
  s!"evidence: {evidence}\n" ++
  s!"proposal: {receipt.proposalId} - {receipt.hypothesis}\napproval: {receipt.approvalId}\n" ++
  s!"lease: {receipt.leaseId}\n" ++
  s!"helper: {receipt.helperAction.debug} {receipt.helperStatus.debug}\n" ++
  s!"verified: {verified}\n" ++
  s!"skipped: {skipped}\nresidual_risk: {receipt.residualRisk}\n" ++
  s!"takeover: {receipt.takeoverNotes}"

inductive ReceiptError where
  | missingEvent (event : String)
deriving DecidableEq

@[ext]
structure ReceiptParts where
  incidentId : Option String := none
  nodeId : Option String := none
  evidenceReferences : List String := []
  proposalId : Option String := none
  hypothesis : Option String := none
  approvalId : Option String := none
  leaseId : Option String := none
  changedResources : List String := []
  helperAction : Option ActionKind := none
  helperStatus : Option HelperActionStatus := none
  verificationChecks : List VerificationCheck := []
  verificationCompleted : List String := []
  skippedChecks : List SkippedVerification := []
deriving DecidableEq

/-- Adjacent repeats of a key are dropped, the first of them kept, after a stable sort. -/
def sortDedupBy {α : Type} (key : α → String) (l : List α) : List α :=
  (l.mergeSort fun left right => decide (key left ≤ key right)).destutter
    fun left right => key left ≠ key right

def receiptOperatorNotes : ActionKind → String × String
  | .removeAllowlistedFile =>
      ("disk pressure may recur until the growth source is fixed; cleanup was limited to the allowlist",
        "operator can inspect disk evidence, cleanup allowlist, and verification before broader cleanup")
  | _ =>
      ("root cause still requires operator review if service fails again",
        "operator can inspect collected evidence and rerun verification")

namespace ReceiptParts

def apply (parts : ReceiptParts) : AuditEventKind → ReceiptParts
  | .incidentCreated incidentId nodeId _ =>
      { parts with incidentId := some incidentId, nodeId := some nodeId }
  | .evidenceCollected source =>
      { parts with evidenceReferences := parts.evidenceReferences ++ [source] }
  | .proposalGenerated proposalId hypothesis =>
      { parts with proposalId := some proposalId, hypothesis := some hypothesis }
  | .approvalDecision approvalId _ .approved =>
      { parts with approvalId := some approvalId }
  | .capabilityLeaseIssued leaseId approved =>
      { parts with leaseId := some leaseId, approvalId := parts.approvalId.or (some approved) }
  | .resourceLeaseGranted _ resourceId _ =>
      { parts with changedResources := parts.changedResources ++ [resourceId] }
  | .actionResult action target status =>
      { parts with
        helperAction := some action
        helperStatus := some status
        changedResources := parts.changedResources ++ [target.resourceId] }
  | .verificationSelected plan =>
      { parts with
        verificationChecks := parts.verificationChecks ++ plan.required
        skippedChecks := parts.skippedChecks ++ plan.skipped }
  | .verificationCompleted checkId resourceId =>
      { parts with
        verificationCompleted := parts.verificationCompleted ++ [s!"{checkId}:{resourceId}"] }
  | .verificationSkipped skipped =>
      { parts with skippedChecks := parts.skippedChecks ++ [skipped] }
  | _ => parts

private def present {α : Type} (part : Option α) (event : String) : Except ReceiptError α :=
  match part with
  | some value => .ok value
  | none => .error (.missingEvent event)

def finalize (parts : ReceiptParts) (runId : String) : Except ReceiptError OperatorReceipt := do
  let incidentId ← present parts.incidentId "incident_created"
  let nodeId ← present parts.nodeId "incident_node"
  if parts.evidenceReferences.isEmpty then throw (.missingEvent "evidence_collected")
  let proposalId ← present parts.proposalId "proposal_generated"
  let hypothesis ← present parts.hypothesis "proposal_hypothesis"
  let approvalId ← present parts.approvalId "approval_approved"
  let leaseId ← present parts.leaseId "capability_lease_issued"
  let helperAction ← present parts.helperAction "helper_action_result"
  let helperStatus ← present parts.helperStatus "helper_action_status"
  if parts.verificationChecks.isEmpty then throw (.missingEvent "verification_selected")
  if parts.verificationCompleted.isEmpty then throw (.missingEvent "verification_completed")
  let (residualRisk, takeoverNotes) := receiptOperatorNotes helperAction
  return {
    runId
    incidentId
    nodeId
    layer := .system
    changedResources := sortDedupBy id parts.changedResources
    evidenceReferences := parts.evidenceReferences
    proposalId
    hypothesis
    approvalId
    leaseId
    helperAction
    helperStatus
    verificationChecks := parts.verificationChecks
    verificationCompleted := parts.verificationCompleted
    skippedChecks := sortDedupBy SkippedVerification.checkId parts.skippedChecks
    residualRisk
    takeoverNotes }

/-- The receipt shows these parts, and none of them is missing. -/
structure Shown (parts : ReceiptParts) (runId : String) (receipt : OperatorReceipt) : Prop where
  run : receipt.runId = runId
  incident : parts.incidentId = some receipt.incidentId
  node : parts.nodeId = some receipt.nodeId
  layer : receipt.layer = .system
  changed : receipt.changedResources = sortDedupBy id parts.changedResources
  evidence : parts.evidenceReferences ≠ []
  evidenceReferences : receipt.evidenceReferences = parts.evidenceReferences
  proposal : parts.proposalId = some receipt.proposalId
  hypothesis : parts.hypothesis = some receipt.hypothesis
  approval : parts.approvalId = some receipt.approvalId
  lease : parts.leaseId = some receipt.leaseId
  action : parts.helperAction = some receipt.helperAction
  status : parts.helperStatus = some receipt.helperStatus
  selected : parts.verificationChecks ≠ []
  verificationChecks : receipt.verificationChecks = parts.verificationChecks
  completed : parts.verificationCompleted ≠ []
  verificationCompleted : receipt.verificationCompleted = parts.verificationCompleted
  skipped : receipt.skippedChecks = sortDedupBy SkippedVerification.checkId parts.skippedChecks
  notes : (receipt.residualRisk, receipt.takeoverNotes) = receiptOperatorNotes receipt.helperAction

private theorem present_bind_ok {α β : Type} {part : Option α} {event : String}
    {next : α → Except ReceiptError β} {result : β} :
    (present part event >>= next) = .ok result ↔ ∃ a, part = some a ∧ next a = .ok result := by
  cases part with
  | none => simp [present, bind, Except.bind]
  | some a => simp [present, bind, Except.bind]

private theorem nonempty_ok {α β γ : Type} {l : List α} {error : ReceiptError}
    {next : γ → Except ReceiptError β} {rest : Except ReceiptError β} {result : β} :
    (if l.isEmpty = true then throw error >>= next else rest) = .ok result ↔
      l ≠ [] ∧ rest = .ok result := by
  cases l with
  | nil => simp [throw, throwThe, MonadExceptOf.throw, bind, Except.bind]
  | cons => simp

theorem finalize_eq_ok {parts : ReceiptParts} {runId : String} {receipt : OperatorReceipt} :
    parts.finalize runId = .ok receipt ↔ parts.Shown runId receipt := by
  simp only [finalize, present_bind_ok, nonempty_ok]
  constructor
  · rintro ⟨incidentId, incident, nodeId, node, evidence, proposalId, proposal, text, hypothesis,
      approvalId, approval, leaseId, lease, helperAction, action, helperStatus, status, selected,
      completed, shown⟩
    cases shown
    exact ⟨rfl, incident, node, rfl, rfl, evidence, rfl, proposal, hypothesis, approval, lease,
      action, status, selected, rfl, completed, rfl, rfl, rfl⟩
  · intro h
    refine ⟨_, h.incident, _, h.node, h.evidence, _, h.proposal, _, h.hypothesis, _, h.approval,
      _, h.lease, _, h.action, _, h.status, h.selected, h.completed, ?_⟩
    simp only [← h.notes, ← h.changed, ← h.evidenceReferences, ← h.verificationChecks,
      ← h.verificationCompleted, ← h.skipped, ← h.run, ← h.layer]
    rfl

end ReceiptParts

def collectReceiptParts (runId : String) (ledger : AuditLedger) : ReceiptParts :=
  (ledger.events.filter fun event => event.runId = runId).foldl
    (fun parts event => parts.apply event.kind) {}

/-- Generates a receipt from audit ledger events. -/
def generateOperatorReceipt (runId : String) (ledger : AuditLedger) :
    Except ReceiptError OperatorReceipt :=
  (collectReceiptParts runId ledger).finalize runId

end Runlane
