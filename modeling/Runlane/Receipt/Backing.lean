import Runlane.Lib.Summary
import Runlane.Receipt.Generation

/-!
What a receipt is backed by.

`summarise` says of each part which events it comes from: the last one that
writes it, or all that contribute to it. Only the approval id has two sources,
since a lease event fills it where no approval has written it. A receipt exists
exactly when every section has an event, and how the events of two sections must
relate for its statements to be true is the subject of the last two parts.
-/

namespace Runlane

open Summary

/-- The kinds of the run's events, in ledger order. -/
def AuditLedger.eventsOf (ledger : AuditLedger) (runId : String) : List AuditEventKind :=
  (ledger.events.filter fun event => event.runId = runId).map AuditEvent.kind

theorem AuditLedger.eventsOf_recordAll (eventId : Nat → String) (runId : String)
    (kinds : List AuditEventKind) :
    (AuditLedger.empty.recordAll eventId runId kinds).eventsOf runId = kinds := by
  obtain ⟨events, all, same, ours⟩ := AuditLedger.events_recordAll .empty eventId runId kinds
  have every : ∀ event ∈ AuditLedger.empty.events ++ events, decide (event.runId = runId) = true :=
    fun event member => decide_eq_true (ours event member)
  rw [AuditLedger.eventsOf, all, List.filter_eq_self.mpr every]
  exact same

namespace AuditEventKind

def incidentId : AuditEventKind → Option String
  | .incidentCreated incidentId _ _ => some incidentId
  | _ => none

def incidentNode : AuditEventKind → Option String
  | .incidentCreated _ nodeId _ => some nodeId
  | _ => none

def evidence : AuditEventKind → List String
  | .evidenceCollected source => [source]
  | _ => []

def proposalId : AuditEventKind → Option String
  | .proposalGenerated proposalId _ => some proposalId
  | _ => none

def hypothesis : AuditEventKind → Option String
  | .proposalGenerated _ hypothesis => some hypothesis
  | _ => none

def approved : AuditEventKind → Option String
  | .approvalDecision approvalId _ .approved => some approvalId
  | _ => none

def issuedLease : AuditEventKind → Option String
  | .capabilityLeaseIssued leaseId _ => some leaseId
  | _ => none

def issuedUnder : AuditEventKind → Option String
  | .capabilityLeaseIssued _ approvalId => some approvalId
  | _ => none

/-- A lease with the approval it is issued under. -/
def issued : AuditEventKind → Option (String × String)
  | .capabilityLeaseIssued leaseId approvalId => some (leaseId, approvalId)
  | _ => none

def changed : AuditEventKind → List String
  | .resourceLeaseGranted _ resourceId _ => [resourceId]
  | .actionResult _ target _ => [target.resourceId]
  | _ => []

def helperAction : AuditEventKind → Option ActionKind
  | .actionResult action _ _ => some action
  | _ => none

def helperStatus : AuditEventKind → Option HelperActionStatus
  | .actionResult _ _ status => some status
  | _ => none

def selectedChecks : AuditEventKind → List VerificationCheck
  | .verificationSelected plan => plan.required
  | _ => []

def completedChecks : AuditEventKind → List String
  | .verificationCompleted checkId resourceId => [s!"{checkId}:{resourceId}"]
  | _ => []

def skippedChecks : AuditEventKind → List SkippedVerification
  | .verificationSelected plan => plan.skipped
  | .verificationSkipped skipped => [skipped]
  | _ => []

end AuditEventKind

open AuditEventKind

/-- The parts that a run's events amount to. -/
def summarise (events : List AuditEventKind) : ReceiptParts where
  incidentId := lastWrite incidentId events
  nodeId := lastWrite incidentNode events
  evidenceReferences := events.flatMap evidence
  proposalId := lastWrite proposalId events
  hypothesis := lastWrite hypothesis events
  approvalId := (lastWrite approved events).or (events.findSome? issuedUnder)
  leaseId := lastWrite issuedLease events
  changedResources := events.flatMap changed
  helperAction := lastWrite helperAction events
  helperStatus := lastWrite helperStatus events
  verificationChecks := events.flatMap selectedChecks
  verificationCompleted := events.flatMap completedChecks
  skippedChecks := events.flatMap skippedChecks

/-- What one event does to each part. -/
theorem apply_eq (parts : ReceiptParts) (kind : AuditEventKind) :
    parts.apply kind = {
      incidentId := kind.incidentId.or parts.incidentId
      nodeId := kind.incidentNode.or parts.nodeId
      evidenceReferences := parts.evidenceReferences ++ kind.evidence
      proposalId := kind.proposalId.or parts.proposalId
      hypothesis := kind.hypothesis.or parts.hypothesis
      approvalId := kind.approved.or (parts.approvalId.or kind.issuedUnder)
      leaseId := kind.issuedLease.or parts.leaseId
      changedResources := parts.changedResources ++ kind.changed
      helperAction := kind.helperAction.or parts.helperAction
      helperStatus := kind.helperStatus.or parts.helperStatus
      verificationChecks := parts.verificationChecks ++ kind.selectedChecks
      verificationCompleted := parts.verificationCompleted ++ kind.completedChecks
      skippedChecks := parts.skippedChecks ++ kind.skippedChecks } := by
  cases kind with
  | approvalDecision approvalId actor outcome =>
      cases outcome <;> simp [ReceiptParts.apply, incidentId, incidentNode, evidence, proposalId,
        hypothesis, approved, issuedLease, issuedUnder, changed, helperAction, helperStatus,
        selectedChecks, completedChecks, skippedChecks]
  | _ =>
      simp [ReceiptParts.apply, incidentId, incidentNode, evidence, proposalId,
        hypothesis, approved, issuedLease, issuedUnder, changed, helperAction, helperStatus,
        selectedChecks, completedChecks, skippedChecks]

private theorem overwritten {α : Type} {field : ReceiptParts → Option α}
    {written : AuditEventKind → Option α} {events : List AuditEventKind}
    (h : ∀ parts kind, field (parts.apply kind) = (written kind).or (field parts))
    (unset : field {} = none) :
    field (events.foldl ReceiptParts.apply {}) = lastWrite written events := by
  rw [foldl_overwrite h, unset, Option.or_none]

private theorem collected {α : Type} {field : ReceiptParts → List α}
    {logged : AuditEventKind → List α} {events : List AuditEventKind}
    (h : ∀ parts kind, field (parts.apply kind) = field parts ++ logged kind)
    (unset : field {} = []) :
    field (events.foldl ReceiptParts.apply {}) = events.flatMap logged := by
  rw [foldl_log h, unset, List.nil_append]

theorem collectReceiptParts_eq (runId : String) (ledger : AuditLedger) :
    collectReceiptParts runId ledger = summarise (ledger.eventsOf runId) := by
  have folded : collectReceiptParts runId ledger =
      (ledger.eventsOf runId).foldl ReceiptParts.apply {} := by
    rw [collectReceiptParts, AuditLedger.eventsOf, List.foldl_map]
  rw [folded]
  apply ReceiptParts.ext
  case approvalId =>
    exact foldl_register (fun parts kind => congrArg ReceiptParts.approvalId (apply_eq parts kind))
      {} _
  case evidenceReferences | changedResources | verificationChecks | verificationCompleted |
      skippedChecks =>
    exact collected (fun parts kind => by rw [apply_eq]) rfl
  all_goals exact overwritten (fun parts kind => by rw [apply_eq]) rfl

theorem generateOperatorReceipt_eq_ok {runId : String} {ledger : AuditLedger}
    {receipt : OperatorReceipt} :
    generateOperatorReceipt runId ledger = .ok receipt ↔
      (summarise (ledger.eventsOf runId)).Shown runId receipt := by
  rw [generateOperatorReceipt, collectReceiptParts_eq, ReceiptParts.finalize_eq_ok]

/-- Every section of a receipt has an event. A decision is not among them: the
lease event names an approval too. -/
structure Complete (events : List AuditEventKind) : Prop where
  incident : ∃ incidentId nodeId runbook, .incidentCreated incidentId nodeId runbook ∈ events
  evidence : ∃ source, .evidenceCollected source ∈ events
  proposal : ∃ proposalId hypothesis, .proposalGenerated proposalId hypothesis ∈ events
  lease : ∃ leaseId approvalId, .capabilityLeaseIssued leaseId approvalId ∈ events
  action : ∃ action target status, .actionResult action target status ∈ events
  selected : ∃ plan, .verificationSelected plan ∈ events ∧ plan.required ≠ []
  completed : ∃ checkId resourceId, .verificationCompleted checkId resourceId ∈ events

private theorem flatMap_ne_nil {α β : Type} {f : α → List β} {l : List α} :
    l.flatMap f ≠ [] ↔ ∃ a ∈ l, f a ≠ [] := by
  simp [List.flatMap_eq_nil_iff]

theorem complete_of_shown {events : List AuditEventKind} {runId : String}
    {receipt : OperatorReceipt} (h : (summarise events).Shown runId receipt) :
    Complete events where
  incident := by
    obtain ⟨kind, hkind, written⟩ := exists_of_lastWrite h.incident
    cases kind with
    | incidentCreated => exact ⟨_, _, _, hkind⟩
    | _ => cases written
  evidence := by
    obtain ⟨kind, hkind, logged⟩ := flatMap_ne_nil.mp h.evidence
    cases kind with
    | evidenceCollected => exact ⟨_, hkind⟩
    | _ => exact absurd rfl logged
  proposal := by
    obtain ⟨kind, hkind, written⟩ := exists_of_lastWrite h.proposal
    cases kind with
    | proposalGenerated => exact ⟨_, _, hkind⟩
    | _ => cases written
  lease := by
    obtain ⟨kind, hkind, written⟩ := exists_of_lastWrite h.lease
    cases kind with
    | capabilityLeaseIssued => exact ⟨_, _, hkind⟩
    | _ => cases written
  action := by
    obtain ⟨kind, hkind, written⟩ := exists_of_lastWrite h.action
    cases kind with
    | actionResult => exact ⟨_, _, _, hkind⟩
    | _ => cases written
  selected := by
    obtain ⟨kind, hkind, logged⟩ := flatMap_ne_nil.mp h.selected
    cases kind with
    | verificationSelected plan => exact ⟨plan, hkind, logged⟩
    | _ => exact absurd rfl logged
  completed := by
    obtain ⟨kind, hkind, logged⟩ := flatMap_ne_nil.mp h.completed
    cases kind with
    | verificationCompleted => exact ⟨_, _, hkind⟩
    | _ => exact absurd rfl logged

theorem Complete.shown {events : List AuditEventKind} (h : Complete events) (runId : String) :
    ∃ receipt, (summarise events).Shown runId receipt := by
  obtain ⟨_, _, _, created⟩ := h.incident
  obtain ⟨_, incident⟩ := exists_lastWrite incidentId created rfl
  obtain ⟨_, node⟩ := exists_lastWrite incidentNode created rfl
  obtain ⟨_, collected⟩ := h.evidence
  obtain ⟨_, _, generated⟩ := h.proposal
  obtain ⟨_, proposal⟩ := exists_lastWrite proposalId generated rfl
  obtain ⟨_, text⟩ := exists_lastWrite hypothesis generated rfl
  obtain ⟨_, _, issued⟩ := h.lease
  obtain ⟨_, lease⟩ := exists_lastWrite issuedLease issued rfl
  have named : (summarise events).approvalId.isSome = true := by
    rw [summarise, Option.isSome_or, Bool.or_eq_true]
    exact .inr (List.findSome?_isSome_iff.mpr ⟨_, issued, rfl⟩)
  obtain ⟨_, approval⟩ := Option.isSome_iff_exists.mp named
  obtain ⟨_, _, _, acted⟩ := h.action
  obtain ⟨helper, action⟩ := exists_lastWrite helperAction acted rfl
  obtain ⟨_, status⟩ := exists_lastWrite helperStatus acted rfl
  obtain ⟨_, selected, required⟩ := h.selected
  obtain ⟨_, _, completed⟩ := h.completed
  let notes := receiptOperatorNotes helper
  refine ⟨⟨_, _, _, _, _, _, _, _, _, _, _, _, _, _, _, notes.1, notes.2⟩, rfl, incident, node, rfl,
    rfl, ?_, rfl, proposal, text, approval, lease, action, status, ?_, rfl, ?_, rfl, rfl, rfl⟩
  · exact flatMap_ne_nil.mpr ⟨_, collected, List.cons_ne_nil _ _⟩
  · exact flatMap_ne_nil.mpr ⟨_, selected, required⟩
  · exact flatMap_ne_nil.mpr ⟨_, completed, List.cons_ne_nil _ _⟩

theorem generateOperatorReceipt_isOk {runId : String} {ledger : AuditLedger} :
    (∃ receipt, generateOperatorReceipt runId ledger = .ok receipt) ↔
      Complete (ledger.eventsOf runId) := by
  simp only [generateOperatorReceipt_eq_ok]
  exact ⟨fun ⟨_, h⟩ => complete_of_shown h, fun h => h.shown runId⟩

/-- The approval was given, and the last lease of the run was issued under it. -/
structure AuthorisationBacked (events : List AuditEventKind) (receipt : OperatorReceipt) :
    Prop where
  given : ∃ actor, .approvalDecision receipt.approvalId actor .approved ∈ events
  lease : .capabilityLeaseIssued receipt.leaseId receipt.approvalId ∈ events
  last : lastWrite issued events = some (receipt.leaseId, receipt.approvalId)

/-- The last lease event names the approval that was given last. -/
def LastLeaseApproved (events : List AuditEventKind) : Prop :=
  ∃ leaseId approvalId, lastWrite issued events = some (leaseId, approvalId) ∧
    lastWrite approved events = some approvalId

theorem lastWrite_issuedLease (events : List AuditEventKind) :
    lastWrite issuedLease events = (lastWrite issued events).map Prod.fst := by
  have parts : issuedLease = fun kind => (issued kind).map Prod.fst := by
    funext kind
    cases kind <;> rfl
  rw [parts, lastWrite_map]

theorem lease_of_lastWrite {events : List AuditEventKind} {leaseId approvalId : String}
    (h : lastWrite issued events = some (leaseId, approvalId)) :
    .capabilityLeaseIssued leaseId approvalId ∈ events := by
  obtain ⟨kind, hkind, written⟩ := exists_of_lastWrite h
  cases kind with
  | capabilityLeaseIssued =>
      cases written
      exact hkind
  | _ => cases written

theorem decision_of_lastWrite {events : List AuditEventKind} {approvalId : String}
    (h : lastWrite approved events = some approvalId) :
    ∃ actor, .approvalDecision approvalId actor .approved ∈ events := by
  obtain ⟨kind, hkind, written⟩ := exists_of_lastWrite h
  cases kind with
  | approvalDecision _ actor outcome =>
      cases outcome with
      | approved =>
          cases written
          exact ⟨actor, hkind⟩
      | rejected => cases written
  | _ => cases written

private theorem stated_approval {events : List AuditEventKind} {runId approvalId : String}
    {receipt : OperatorReceipt} (shown : (summarise events).Shown runId receipt)
    (last : lastWrite approved events = some approvalId) : approvalId = receipt.approvalId := by
  have approval := shown.approval
  rw [summarise, last, Option.some_or] at approval
  exact Option.some.inj approval

private theorem stated_lease {events : List AuditEventKind} {runId leaseId approvalId : String}
    {receipt : OperatorReceipt} (shown : (summarise events).Shown runId receipt)
    (last : lastWrite issued events = some (leaseId, approvalId)) : leaseId = receipt.leaseId := by
  have lease := shown.lease
  rw [summarise, lastWrite_issuedLease, last, Option.map_some] at lease
  exact Option.some.inj lease

/-- A receipt states the last approval and the last lease. They are coherent when
the one was issued under the other, which nothing checks. -/
theorem authorisation_backed_iff (runId : String) (ledger : AuditLedger) :
    (∀ receipt, generateOperatorReceipt runId ledger = .ok receipt →
        AuthorisationBacked (ledger.eventsOf runId) receipt) ↔
      (Complete (ledger.eventsOf runId) → LastLeaseApproved (ledger.eventsOf runId)) := by
  simp only [generateOperatorReceipt_eq_ok]
  generalize ledger.eventsOf runId = events
  constructor
  · intro backed complete
    obtain ⟨receipt, shown⟩ := complete.shown runId
    have chain := backed receipt shown
    obtain ⟨actor, decided⟩ := chain.given
    obtain ⟨approvalId, given⟩ := exists_lastWrite approved decided rfl
    rw [stated_approval shown given] at given
    exact ⟨receipt.leaseId, receipt.approvalId, chain.last, given⟩
  · intro approvedLast receipt shown
    obtain ⟨leaseId, approvalId, last, given⟩ := approvedLast (complete_of_shown shown)
    obtain rfl := stated_lease shown last
    obtain rfl := stated_approval shown given
    exact ⟨decision_of_lastWrite given, lease_of_lastWrite last, last⟩

/-- A ledger of one run, its events numbered from one. -/
def ledgerOf (runId : String) (events : List AuditEventKind) : AuditLedger :=
  events.foldl (fun ledger kind => ledger.record "event" runId kind) .empty

def restartPlan : VerificationPlan :=
  { VerificationPlan.empty with
    required := [
      ⟨"helper_result_matches_request", "system:node/node-1/service/sshd", .directImpact⟩,
      ⟨"service_active", "system:node/node-1/service/sshd", .directImpact⟩] }

/-- A service restart for which two checks were selected and one completed. -/
def restartEvents (outcome : ApprovalOutcome) : List AuditEventKind := [
  .incidentCreated "incident-1" "node-1" "service-unhealthy",
  .evidenceCollected "service_status",
  .proposalGenerated "proposal-1" "sshd appears unhealthy",
  .approvalDecision "approval-1" "operator" outcome,
  .capabilityLeaseIssued "lease-1" "approval-1",
  .verificationSelected restartPlan,
  .actionResult .serviceRestart ⟨"system:node/node-1/service/sshd", "sshd"⟩ .succeeded,
  .verificationCompleted "helper_result_matches_request" "system:node/node-1/service/sshd"]

theorem restartEvents_complete (outcome : ApprovalOutcome) : Complete (restartEvents outcome) where
  incident := ⟨_, _, _, List.mem_cons_self⟩
  evidence := ⟨"service_status", by simp [restartEvents]⟩
  proposal := ⟨"proposal-1", "sshd appears unhealthy", by simp [restartEvents]⟩
  lease := ⟨"lease-1", "approval-1", by simp [restartEvents]⟩
  action := ⟨.serviceRestart, ⟨"system:node/node-1/service/sshd", "sshd"⟩, .succeeded,
    by simp [restartEvents]⟩
  selected := ⟨restartPlan, by simp [restartEvents], List.cons_ne_nil _ _⟩
  completed := ⟨"helper_result_matches_request", "system:node/node-1/service/sshd",
    by simp [restartEvents]⟩

/-- The ledger of a rejected restart yields a receipt that claims the approval. -/
theorem rejected_approval_receipted :
    ¬ ∀ runId ledger receipt, generateOperatorReceipt runId ledger = .ok receipt →
      AuthorisationBacked (ledger.eventsOf runId) receipt := by
  intro h
  have events : (ledgerOf "run-1" (restartEvents .rejected)).eventsOf "run-1" =
      restartEvents .rejected := rfl
  have complete := restartEvents_complete .rejected
  rw [← events] at complete
  obtain ⟨receipt, generated⟩ := generateOperatorReceipt_isOk.mpr complete
  obtain ⟨actor, decided⟩ := (h _ _ receipt generated).given
  rw [events] at decided
  simp [restartEvents] at decided

/-- Every check selected in the run was completed on its resource. -/
def SelectedCompleted (events : List AuditEventKind) : Prop :=
  ∀ plan, .verificationSelected plan ∈ events → ∀ check ∈ plan.required,
    .verificationCompleted check.id check.resourceId ∈ events

theorem mem_selectedChecks {events : List AuditEventKind} {check : VerificationCheck} :
    check ∈ events.flatMap selectedChecks ↔
      ∃ plan, .verificationSelected plan ∈ events ∧ check ∈ plan.required := by
  rw [List.mem_flatMap]
  constructor
  · intro collected
    obtain ⟨kind, hkind, hcheck⟩ := collected
    cases kind with
    | verificationSelected plan => exact ⟨plan, hkind, hcheck⟩
    | _ => cases hcheck
  · intro required
    obtain ⟨plan, hplan, hcheck⟩ := required
    exact ⟨_, hplan, hcheck⟩

theorem selectedCompleted_iff {events : List AuditEventKind} {runId : String}
    {receipt : OperatorReceipt} (h : (summarise events).Shown runId receipt) :
    SelectedCompleted events ↔ ∀ check ∈ receipt.verificationChecks,
      .verificationCompleted check.id check.resourceId ∈ events := by
  rw [h.verificationChecks]
  constructor
  · intro completed check hcheck
    obtain ⟨plan, hplan, required⟩ := mem_selectedChecks.mp hcheck
    exact completed plan hplan check required
  · intro completed plan hplan check required
    exact completed check (mem_selectedChecks.mpr ⟨plan, hplan, required⟩)

/-- A receipt lists completed checks only, and a check left open is a missing event. -/
def NoPartialReceipt (runId : String) (ledger : AuditLedger) : Prop :=
  (∀ receipt, generateOperatorReceipt runId ledger = .ok receipt →
    ∀ check ∈ receipt.verificationChecks,
      .verificationCompleted check.id check.resourceId ∈ ledger.eventsOf runId) ∧
  (¬ SelectedCompleted (ledger.eventsOf runId) →
    ∃ event, generateOperatorReceipt runId ledger = .error (.missingEvent event))

/-- Selected and completed checks are collected apart and only their presence is
tested, so a receipt is partial unless the run completed all it selected. -/
theorem no_partial_receipt_iff (runId : String) (ledger : AuditLedger) :
    NoPartialReceipt runId ledger ↔
      (Complete (ledger.eventsOf runId) → SelectedCompleted (ledger.eventsOf runId)) := by
  constructor
  · intro full complete
    obtain ⟨receipt, generated⟩ := generateOperatorReceipt_isOk.mpr complete
    have shown := generateOperatorReceipt_eq_ok.mp generated
    exact (selectedCompleted_iff shown).mpr (full.1 receipt generated)
  · intro completed
    constructor
    · intro receipt generated
      have shown := generateOperatorReceipt_eq_ok.mp generated
      exact (selectedCompleted_iff shown).mp (completed (complete_of_shown shown))
    · intro missed
      cases generated : generateOperatorReceipt runId ledger with
      | error error =>
          obtain ⟨event⟩ := error
          exact ⟨event, rfl⟩
      | ok receipt =>
          have complete := generateOperatorReceipt_isOk.mp ⟨receipt, generated⟩
          exact absurd (completed complete) missed

/-- One of the two selected checks was never completed. -/
theorem partial_receipt_generated : ¬ ∀ runId ledger, NoPartialReceipt runId ledger := by
  intro h
  have events : (ledgerOf "run-1" (restartEvents .approved)).eventsOf "run-1" =
      restartEvents .approved := rfl
  have complete := restartEvents_complete .approved
  rw [← events] at complete
  obtain ⟨receipt, generated⟩ := generateOperatorReceipt_isOk.mpr complete
  have full := (h _ _).1 receipt generated
  have shown := generateOperatorReceipt_eq_ok.mp generated
  rw [← selectedCompleted_iff shown, events] at full
  have active := full restartPlan (by simp [restartEvents])
    ⟨"service_active", "system:node/node-1/service/sshd", .directImpact⟩ (by simp [restartPlan])
  simp [restartEvents] at active

end Runlane
