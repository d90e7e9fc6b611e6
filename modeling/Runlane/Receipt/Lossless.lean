import Runlane.Lib.SortDedup
import Runlane.Receipt.Backing

/-!
Receipts are isolated and lossless.

A receipt is a function of the events of its run that contribute to one, so other
runs and other kinds of events leave it alone. And it loses nothing of these
events: what is listed in ledger order is listed with every repeat, and what is
sorted is listed once, each skipped check with the reason recorded first.
-/

namespace Runlane

open Summary AuditEventKind

/-- The kinds that a receipt is made of. A decision contributes when it approves. -/
def AuditEventKind.contributes : AuditEventKind → Bool
  | .incidentCreated _ _ _ | .evidenceCollected _ | .proposalGenerated _ _
  | .approvalDecision _ _ .approved | .capabilityLeaseIssued _ _ | .resourceLeaseGranted _ _ _
  | .actionResult _ _ _ | .verificationSelected _ | .verificationCompleted _ _
  | .verificationSkipped _ => true
  | _ => false

theorem apply_of_not_contributes (parts : ReceiptParts) (kind : AuditEventKind)
    (other : kind.contributes = false) : parts.apply kind = parts := by
  cases kind with
  | approvalDecision approvalId actor outcome =>
      cases outcome with
      | approved => cases other
      | rejected => rfl
  | _ => first | rfl | cases other

theorem collectReceiptParts_contributing (runId : String) (ledger : AuditLedger) :
    collectReceiptParts runId ledger =
      ((ledger.eventsOf runId).filter AuditEventKind.contributes).foldl ReceiptParts.apply {} := by
  rw [foldl_filter_ignored apply_of_not_contributes, AuditLedger.eventsOf, List.foldl_map]
  rfl

/-- Ledgers that agree on the contributing events of a run give it one result. -/
theorem generateOperatorReceipt_congr {runId : String} {ledger ledger' : AuditLedger}
    (same : (ledger.eventsOf runId).filter AuditEventKind.contributes =
      (ledger'.eventsOf runId).filter AuditEventKind.contributes) :
    generateOperatorReceipt runId ledger = generateOperatorReceipt runId ledger' := by
  rw [generateOperatorReceipt, generateOperatorReceipt, collectReceiptParts_contributing, same,
    collectReceiptParts_contributing]

theorem eventsOf_insert {runId : String} {before after : List AuditEvent} {event : AuditEvent}
    (foreign : event.runId ≠ runId ∨ event.kind.contributes = false) :
    (AuditLedger.eventsOf ⟨before ++ event :: after⟩ runId).filter AuditEventKind.contributes =
      (AuditLedger.eventsOf ⟨before ++ after⟩ runId).filter AuditEventKind.contributes := by
  by_cases own : event.runId = runId
  · have silent := foreign.resolve_left (not_not_intro own)
    simp [AuditLedger.eventsOf, own, silent]
  · simp [AuditLedger.eventsOf, own]

theorem sortDedupBy_eq {α : Type} (key : α → String) (l : List α) :
    sortDedupBy key l = SortDedup.sortDedup key l := rfl

/-- The receipt lists what the events say: in their order with every repeat, or
sorted with one entry for each resource and for each skipped check. -/
structure Lossless (events : List AuditEventKind) (receipt : OperatorReceipt) : Prop where
  evidence : receipt.evidenceReferences = events.flatMap evidence
  selected : receipt.verificationChecks = events.flatMap selectedChecks
  completed : receipt.verificationCompleted = events.flatMap completedChecks
  changedSorted : receipt.changedResources.Pairwise (· < ·)
  changed : ∀ resource, resource ∈ receipt.changedResources ↔
    ∃ kind ∈ events, resource ∈ kind.changed
  skippedSorted : (receipt.skippedChecks.map SkippedVerification.checkId).Pairwise (· < ·)
  skipped : ∀ skip, skip ∈ receipt.skippedChecks ↔
    (events.flatMap skippedChecks).find? (fun recorded => recorded.checkId = skip.checkId) =
      some skip

theorem lossless_of_shown {events : List AuditEventKind} {runId : String}
    {receipt : OperatorReceipt} (shown : (summarise events).Shown runId receipt) :
    Lossless events receipt where
  evidence := shown.evidenceReferences
  selected := shown.verificationChecks
  completed := shown.verificationCompleted
  changedSorted := by
    rw [shown.changed, sortDedupBy_eq]
    exact SortDedup.sortDedup_increasing _
  changed := by
    intro resource
    rw [shown.changed, sortDedupBy_eq, SortDedup.mem_sortDedup_id]
    exact List.mem_flatMap
  skippedSorted := by
    rw [shown.skipped, sortDedupBy_eq, List.pairwise_map]
    exact SortDedup.sortDedup_increasing _
  skipped := by
    intro skip
    rw [shown.skipped, sortDedupBy_eq, SortDedup.mem_sortDedup_iff]
    rfl

/-- Receipts depend on the contributing events of their run alone, whatever is
recorded beside them, and lose none of what these say. -/
theorem receipt_isolated_lossless (runId : String) :
    (∀ ledger ledger' : AuditLedger,
      (ledger.eventsOf runId).filter AuditEventKind.contributes =
        (ledger'.eventsOf runId).filter AuditEventKind.contributes →
      generateOperatorReceipt runId ledger = generateOperatorReceipt runId ledger') ∧
    (∀ (before after : List AuditEvent) (event : AuditEvent),
      event.runId ≠ runId ∨ event.kind.contributes = false →
      generateOperatorReceipt runId ⟨before ++ event :: after⟩ =
        generateOperatorReceipt runId ⟨before ++ after⟩) ∧
    ∀ (ledger : AuditLedger) (receipt : OperatorReceipt),
      generateOperatorReceipt runId ledger = .ok receipt →
      Lossless (ledger.eventsOf runId) receipt :=
  ⟨fun _ _ same => generateOperatorReceipt_congr same,
    fun _ _ _ foreign => generateOperatorReceipt_congr (eventsOf_insert foreign),
    fun _ _ generated => lossless_of_shown (generateOperatorReceipt_eq_ok.mp generated)⟩

end Runlane
