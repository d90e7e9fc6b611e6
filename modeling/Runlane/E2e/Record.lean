import Runlane.Approval.Authorisation
import Runlane.E2e.Preparation
import Runlane.Receipt.Backing

/-!
What the steps of a journey record.

Every step appends to one ledger under one counter, so a journey's ledger is the
list of what its steps say, one after another. The control plane and the approval
store keep ledgers of their own, whose events are copied over.
-/

namespace Runlane

/-- What the ledger says, in order. -/
def AuditLedger.kinds (ledger : AuditLedger) : List AuditEventKind :=
  ledger.events.map AuditEvent.kind

@[simp] theorem AuditLedger.kinds_record (ledger : AuditLedger) (id runId : String)
    (kind : AuditEventKind) : (ledger.record id runId kind).kinds = ledger.kinds ++ [kind] := by
  simp [AuditLedger.kinds, AuditLedger.record]

/-- A receipt that is noted in the ledger changes no receipt. -/
theorem generateOperatorReceipt_noted (ledger : AuditLedger) (eventId : Nat → String)
    (runId receiptId : String) :
    generateOperatorReceipt runId
        (ledger.recordAll eventId runId [.cognitiveReceiptGenerated receiptId]) =
      generateOperatorReceipt runId ledger := by
  have noted : collectReceiptParts runId
      (ledger.recordAll eventId runId [.cognitiveReceiptGenerated receiptId]) =
        collectReceiptParts runId ledger := by
    simp [collectReceiptParts, AuditLedger.recordAll, AuditLedger.record, ReceiptParts.apply]
  rw [generateOperatorReceipt, noted]
  rfl

namespace E2e

open Fallible KeyedList ApprovalStore

def eventId (sequence : Nat) : String :=
  s!"e2e-event-{sequence}"

section Steps

variable (debug : DebugTexts) (ledger : AuditLedger) (runId : String)

theorem append_eq (kind : AuditEventKind) :
    append debug ledger runId kind = .ok (ledger.recordAll eventId runId [kind]) := by
  rw [append, AuditLedger.append_next]
  rfl

theorem foldlM_append_eq {ι : Type} (kind : ι → AuditEventKind) (items : List ι) :
    items.foldlM (fun ledger item => append debug ledger runId (kind item)) ledger =
      .ok (ledger.recordAll eventId runId (items.map kind)) := by
  induction items generalizing ledger with
  | nil => rfl
  | cons item items ih =>
      rw [List.foldlM_cons, append_eq]
      exact ih _

theorem appendRuntimeEvents_eq (source : AuditLedger) :
    appendRuntimeEvents debug ledger runId source.events =
      .ok (ledger.recordAll eventId runId source.kinds) :=
  foldlM_append_eq debug ledger runId AuditEvent.kind source.events

theorem appendObservedEvidence_eq (plane : ControlPlane) (evidence : List EvidenceEnvelope) :
    appendObservedEvidence debug ledger runId plane evidence =
      .ok (ledger.recordAll eventId runId (plane.ledger.kinds ++
        evidence.map fun item => .evidenceCollected item.source)) := by
  rw [appendObservedEvidence, appendRuntimeEvents_eq, AuditLedger.recordAll_append]
  exact foldlM_append_eq debug _ runId (fun item : EvidenceEnvelope =>
    .evidenceCollected item.source) evidence

def enrollment (labels : EnrollmentLabels) (node : FleetInventoryNode) : List AuditEventKind :=
  [.enrollmentTokenCreated s!"{labels.token}-{node.id}" node.id, .agentEnrolled node.id node.os]

variable {debug} in
theorem enrollNode_kinds {labels : EnrollmentLabels} {plane next : ControlPlane}
    {node : FleetInventoryNode} (passed : enrollNode debug labels plane node = .ok next) :
    next.ledger.kinds = plane.ledger.kinds ++ enrollment labels node := by
  simp only [enrollNode, bind_eq_ok, pure_eq_ok] at passed
  obtain ⟨_, created, _, enrolled, rfl⟩ := passed
  cases (runtimeCall_of_ok (ControlPlane.createEnrollmentToken_run plane
    (labels.tokenOf node))).symm.trans created
  by_cases guard : ∃ token, ControlPlane.Enrolls (plane.tokenCreated (labels.tokenOf node))
      (labels.requestOf node) token
  · obtain ⟨token, enrolls⟩ := guard
    obtain ⟨record, rfl, run⟩ := ControlPlane.enrollAgent_run enrolls
    cases (runtimeCall_of_ok run).symm.trans enrolled
    simp [ControlPlane.enrolled, ControlPlane.logged, ControlPlane.tokenCreated, enrollment,
      EnrollmentLabels.tokenOf, EnrollmentLabels.requestOf]
  · obtain ⟨error, run⟩ := ControlPlane.enrollAgent_refused (not_exists.mp guard)
    cases (runtimeCall_of_error run).symm.trans enrolled

variable {debug} in
theorem enrollFleetAgents_kinds {labels : EnrollmentLabels} {fleet : FleetRepository}
    {plane : ControlPlane} (passed : enrollFleetAgents debug .empty fleet labels = .ok plane) :
    plane.ledger.kinds = fleet.inventory.flatMap (enrollment labels) := by
  have kept : ∀ {done plane node next}, plane.ledger.kinds = done.flatMap (enrollment labels) →
      enrollNode debug labels plane node = .ok next →
        next.ledger.kinds = (done ++ [node]).flatMap (enrollment labels) := by
    intro done plane node next held passed
    rw [enrollNode_kinds passed, held, List.flatMap_append, List.flatMap_singleton]
  have start : ControlPlane.empty.ledger.kinds = ([] : List FleetInventoryNode).flatMap
      (enrollment labels) := rfl
  exact foldlM_invariant (I := fun done plane => plane.ledger.kinds =
    done.flatMap (enrollment labels)) kept start fleet.inventory passed

/-- A task is pulled and its result accepted. -/
def collection (nodeId taskId : String) : List AuditEventKind :=
  [.agentTaskPulled s!"env-demo-{taskId}" taskId nodeId,
    .agentResultAccepted s!"env-demo-{taskId}" taskId nodeId]

section Collect

variable {debug runId} {identity : AgentIdentity}
  {evidenceForTask : String → Except E2eError EvidenceEnvelope}

theorem Collecting.collect_kinds {done : List (Task × Nat)} {plane next : ControlPlane}
    (held : Collecting identity runId evidenceForTask done plane) {entry : Task × Nat}
    (collectable : Collectable evidenceForTask entry.1) (early : entry.2 < 90)
    (fresh : entry.1.id ∉ done.map fun earlier => earlier.1.id)
    (passed : collectTaskEvidence debug identity runId identity.nodeId evidenceForTask plane
      entry = .ok next) :
    next.ledger.kinds = plane.ledger.kinds ++ collection identity.nodeId entry.1.id := by
  obtain ⟨⟨capability, first⟩, ⟨resourceId, read⟩, evidence, shown⟩ := collectable
  have pullable : 101 + entry.2 < 200 := by omega
  have submittable : 110 + entry.2 < 200 := by omega
  let queued := collectionTask runId identity.nodeId entry.1 capability resourceId
  have pulled := ControlPlane.pullTask_run (held.offers queued rfl) pullable
  have submitted := ControlPlane.submitResult_run
    (held.accepts queued evidence rfl rfl rfl submittable fresh)
  simp only [collectTaskEvidence, bind_eq_ok] at passed
  obtain ⟨queue, enqueued, answer, taken, rest⟩ := passed
  cases (enqueueCollectTask_ok first read).symm.trans enqueued
  cases (runtimeCall_of_ok pulled).symm.trans taken
  change (evidenceForTask entry.1.id >>= _) = _ at rest
  simp only [bind_eq_ok] at rest
  obtain ⟨evidence', shown', _, answered, same⟩ := rest
  cases shown.symm.trans shown'
  cases (runtimeCall_of_ok submitted).symm.trans answered
  cases same
  simp [ControlPlane.accepted, ControlPlane.logged, ControlPlane.delivered, E2e.enqueued,
    collection, queued, collectionTask, resultSubmission]

/-- What a pass asks of its place in the loop holds of the tasks counted off. -/
theorem zipIdx_guarded {collecting : List Task}
    (collectable : ∀ task ∈ collecting, Collectable evidenceForTask task)
    (few : collecting.length ≤ 90) (distinct : (collecting.map Task.id).Nodup)
    (before : List (Task × Nat)) (entry : Task × Nat) (after : List (Task × Nat))
    (split : collecting.zipIdx = before ++ entry :: after) :
    Collectable evidenceForTask entry.1 ∧ entry.2 < 90 ∧
      entry.1.id ∉ before.map fun earlier => earlier.1.id := by
  have ids : (collecting.zipIdx.map fun entry => entry.1.id) = collecting.map Task.id := by
    rw [← List.zipIdx_map_fst 0 collecting, List.map_map, List.zipIdx_map_fst]
    rfl
  have member : entry ∈ collecting.zipIdx := by
    rw [split]
    exact List.mem_append_right _ List.mem_cons_self
  refine ⟨collectable _ (List.fst_mem_of_mem_zipIdx member),
    Nat.lt_of_lt_of_le (List.snd_lt_of_mem_zipIdx member) few, ?_⟩
  rw [← ids, split, List.map_append, List.map_cons] at distinct
  intro earlier
  exact (List.nodup_append.mp distinct).2.2 _ earlier _ List.mem_cons_self rfl

theorem collectEvidence_kinds {plane next : ControlPlane}
    (held : Collecting identity runId evidenceForTask [] plane) {tasks collecting : List Task}
    (chosen : tasks.filter (fun task => task.id.startsWith "collect-") = collecting)
    (collectable : ∀ task ∈ collecting, Collectable evidenceForTask task)
    (few : collecting.length ≤ 90) (distinct : (collecting.map Task.id).Nodup)
    {evidence : List EvidenceEnvelope}
    (passed : collectEvidence debug plane identity runId identity.nodeId tasks evidenceForTask =
      .ok (evidence, next)) :
    next.ledger.kinds = plane.ledger.kinds ++
      collecting.flatMap fun task => collection identity.nodeId task.id := by
  have passes : ∀ {done : List (Task × Nat)} {middle : ControlPlane} {entry : Task × Nat},
      (Collecting identity runId evidenceForTask done middle ∧ middle.ledger.kinds =
        plane.ledger.kinds ++ done.flatMap fun entry => collection identity.nodeId entry.1.id) →
      (Collectable evidenceForTask entry.1 ∧ entry.2 < 90 ∧
        entry.1.id ∉ done.map fun earlier => earlier.1.id) →
      ∃ next, collectTaskEvidence debug identity runId identity.nodeId evidenceForTask middle
          entry = .ok next ∧
        Collecting identity runId evidenceForTask (done ++ [entry]) next ∧ next.ledger.kinds =
          plane.ledger.kinds ++
            (done ++ [entry]).flatMap fun entry => collection identity.nodeId entry.1.id := by
    intro done middle entry held guard
    obtain ⟨collecting, logged⟩ := held
    obtain ⟨next, ran, kept⟩ := collecting.collect_ok guard.1 guard.2.1 guard.2.2
    refine ⟨next, ran, kept, ?_⟩
    rw [collecting.collect_kinds guard.1 guard.2.1 guard.2.2 ran, logged, List.flatMap_append,
      List.flatMap_singleton, List.append_assoc]
  have start : plane.ledger.kinds = plane.ledger.kinds ++ [].flatMap
      fun entry : Task × Nat => collection identity.nodeId entry.1.id := (List.append_nil _).symm
  obtain ⟨last, ran, -, logged⟩ := foldlM_total
    (I := fun done final => Collecting identity runId evidenceForTask done final ∧
      final.ledger.kinds = plane.ledger.kinds ++
        done.flatMap fun entry => collection identity.nodeId entry.1.id)
    (G := fun done entry => Collectable evidenceForTask entry.1 ∧ entry.2 < 90 ∧
      entry.1.id ∉ done.map fun earlier => earlier.1.id)
    passes ⟨held, start⟩ collecting.zipIdx (zipIdx_guarded collectable few distinct)
  simp only [collectEvidence, chosen, bind_eq_ok] at passed
  obtain ⟨final, ran', counted⟩ := passed
  cases ran.symm.trans ran'
  have same : last = next := by
    rw [ite_error_eq_ok] at counted
    exact congrArg Prod.snd (Except.ok.inj counted.2)
  rw [← same, logged, List.nil_append, ← List.flatMap_map (fun entry : Task × Nat => entry.1)
    (fun task => collection identity.nodeId task.id), List.zipIdx_map_fst]

end Collect

/-- The fixtures of a journey fit the proposal: they name its action, and the helper
is asked on the action's node for what was approved. -/
structure Fits (proposal : StructuredProposal) (proposed : ProposedAction)
    (fixture : ApprovalFixture) (helper : HelperFixture) (action : ActionKind) : Prop where
  found : lookup ProposedAction.id proposal.proposedActions fixture.actionId = some proposed
  supported : proposed.kind.helperAction = some action
  node : nodeFromTarget proposed.targetResourceId = helper.nodeId
  subject : helper.subject = fixture.subject
  entry : helper.allowlistEntryId = fixture.allowlistEntryId

/-- The record that is approved. -/
def ApprovalFixture.record (fixture : ApprovalFixture) (runId : String)
    (proposal : StructuredProposal) (proposed : ProposedAction) (task : Task) :
    ApprovalRecord where
  id := fixture.approvalId
  runId := runId
  proposalId := proposal.id
  actionId := proposed.id
  action := proposed.kind
  layer := .system
  target := ⟨proposed.targetResourceId, fixture.subject⟩
  impact := task.impact
  leaseRequest := proposed.leaseRequest.getD
    ⟨proposed.targetResourceId, .exclusive, "approval-bound default exclusive lease"⟩
  verification := task.verification
  evidenceReferences := proposal.evidenceReferences
  state := .pending
  requestedAtUnixSeconds := 120
  expiresAtUnixSeconds := 200

def ApprovalFixture.claims (fixture : ApprovalFixture) (record : ApprovalRecord)
    (action : ActionKind) : CapabilityLeaseClaims :=
  leaseClaims fixture.approvalId record action fixture.allowlistEntryId fixture.leaseNonce

def approval (proposalId resourceId : String) (fixture : ApprovalFixture) :
    List AuditEventKind := [
  .approvalRequested fixture.approvalId proposalId fixture.actionId,
  .approvalDecision fixture.approvalId "operator" .approved,
  .capabilityLeaseIssued s!"lease-{fixture.approvalId}" fixture.approvalId,
  .resourceLeaseGranted s!"lease-{fixture.approvalId}" resourceId .exclusive]

section Approve

variable {proposal : StructuredProposal} {proposed : ProposedAction}
  {fixture : ApprovalFixture} {helper : HelperFixture} {action : ActionKind}

/-- The approval is granted, and the lease is for what was proposed. -/
theorem Fits.approved (fits : Fits proposal proposed fixture helper action) (task : Task) :
    approveAction debug ledger runId proposal task fixture =
      .ok (fixture.claims (fixture.record runId proposal proposed task) action,
        ledger.recordAll eventId runId
          (approval proposal.id proposed.targetResourceId fixture)) := by
  let record := fixture.record runId proposal proposed task
  have made : ApprovalRecord.new fixture.approvalId runId proposal fixture.actionId .system
      fixture.subject task.impact task.verification 120 200 = some record := by
    rw [ApprovalRecord.new, fits.found]
    rfl
  have named : proposed.id = fixture.actionId := key_of_lookup ProposedAction.id fits.found
  have asked : (ApprovalStore.request record).run .empty =
      .ok () (ApprovalStore.empty.requested record) := rfl
  have shown : (ApprovalStore.empty.requested record).showApproval fixture.approvalId =
      some record := by
    simp [ApprovalStore.showApproval, ApprovalStore.requested, ApprovalStore.empty, lookup, record,
      ApprovalFixture.record]
  have unexpired : 150 < 200 := by decide
  have granted := ApprovalStore.approve_run ⟨⟨shown, rfl⟩, unexpired, named, fits.supported⟩
    "operator" fixture.allowlistEntryId fixture.leaseNonce
  have logged : ((ApprovalStore.empty.requested record).decided fixture.approvalId .approved
      (.approvalDecision fixture.approvalId "operator" .approved)).ledger.kinds =
        [.approvalRequested fixture.approvalId proposal.id proposed.id,
          .approvalDecision fixture.approvalId "operator" .approved] := rfl
  rw [approveAction, made]
  refine mapError_eq_ok.mpr ?_
  simp only [approveRecord, bind_eq_ok]
  refine ⟨((), _), by rw [approvalCall, asked], (_, _), by rw [approvalCall, granted], _,
    appendRuntimeEvents_eq debug _ _ _, _, append_eq debug _ _ _, _, append_eq debug _ _ _, ?_⟩
  rw [logged, named]
  simp only [← AuditLedger.recordAll_append]
  rfl

/-- What is approved is what the helper is asked for, so it is validated too. -/
theorem Fits.validated (fits : Fits proposal proposed fixture helper action) (task : Task) :
    validateHelperAction debug ledger runId
        (fixture.claims (fixture.record runId proposal proposed task) action) action helper =
      .ok (ledger.recordAll eventId runId
        [.actionResult action ⟨proposed.targetResourceId, helper.subject⟩ .succeeded]) := by
  simp only [validateHelperAction, bind_eq_ok, mapError_eq_ok, validateHelperRequest_eq_ok]
  refine ⟨_, ⟨⟨rfl, ?_, fits.node, rfl, rfl, ?_, ?_⟩, nofun, rfl⟩, append_eq debug _ _ _⟩
  · change 150 < 200
    decide
  · change ActionTarget.mk proposed.targetResourceId fixture.subject = _
    rw [← fits.subject]
    rfl
  · exact HelperAllowlist.permits_iff.mpr ⟨_, List.mem_cons_self, fits.entry, rfl, rfl⟩

end Approve

def verified (plan : VerificationPlan) : List AuditEventKind :=
  [.verificationSelected plan] ++
    (plan.required.map fun check => .verificationCompleted check.id check.resourceId) ++
    plan.skipped.map .verificationSkipped

theorem recordVerification_eq (action : ActionKind) (impact : ImpactSet)
    (skipped : List SkippedVerification) :
    recordVerification debug ledger runId action impact skipped =
      .ok (ledger.recordAll eventId runId
        (verified ((VerificationPolicy.minimal.plan action impact).withSkipped skipped))) := by
  simp only [recordVerification, bind_eq_ok]
  refine ⟨_, append_eq debug _ _ _, _, foldlM_append_eq debug _ runId
    (fun check : VerificationCheck => .verificationCompleted check.id check.resourceId) _, ?_⟩
  rw [verified, AuditLedger.recordAll_append, AuditLedger.recordAll_append]
  exact foldlM_append_eq debug _ runId AuditEventKind.verificationSkipped _

theorem finishReceipt_eq {receipt : OperatorReceipt} (receiptId : String)
    (generated : generateOperatorReceipt runId ledger = .ok receipt) :
    finishReceipt debug ledger runId receiptId =
      .ok (receipt, ledger.recordAll eventId runId [.cognitiveReceiptGenerated receiptId]) := by
  rw [finishReceipt, generated, append_eq]
  rfl

end Steps

end E2e

end Runlane
