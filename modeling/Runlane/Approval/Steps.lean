import Runlane.Approval.Store
import Mathlib.Tactic.SplitIfs
import Mathlib.Logic.Basic

/-!
What one call on the approval store can do. A decision that passes its checks
changes the state of the record its id names; one that does not leaves the store
as it was, audit trail included.
-/

namespace Runlane

namespace ApprovalStore

open Calls KeyedList

/-- The store with one more audit event. -/
def logged (store : ApprovalStore) (kind : AuditEventKind) : ApprovalStore :=
  { store with
    ledger := store.ledger.record s!"approval-event-{store.ledger.nextSequence}" "approval" kind }

def requested (store : ApprovalStore) (record : ApprovalRecord) : ApprovalStore :=
  { store.logged (.approvalRequested record.id record.proposalId record.actionId) with
    records := store.records ++ [record] }

def decided (store : ApprovalStore) (id : String) (state : ApprovalState)
    (kind : AuditEventKind) : ApprovalStore :=
  { store.logged kind with
    records := update ApprovalRecord.id store.records id fun record => { record with state } }

@[simp] theorem run_appendEvent (store : ApprovalStore) (kind : AuditEventKind) :
    (appendEvent kind).run store = .ok () (store.logged kind) := by
  simp [appendEvent, AuditLedger.append_next, logged]

@[simp] theorem run_setState (store : ApprovalStore) (index : Nat) (state : ApprovalState) :
    (setState index state).run store =
      .ok () { store with
        records := store.records.modify index fun record => { record with state } } :=
  rfl

theorem indexOf_of_shown {store : ApprovalStore} {id : String} {record : ApprovalRecord}
    (h : store.showApproval id = some record) :
    ∃ index, store.indexOf id = .ok index ∧ store.records.get index = record ∧
      ∀ f, store.records.modify index f = update ApprovalRecord.id store.records id f := by
  obtain ⟨index, found, same⟩ := findFinIdx_of_lookup h
  refine ⟨index, ?_, same, modify_findFinIdx found⟩
  simp only [indexOf, found]

theorem indexOf_of_unknown {store : ApprovalStore} {id : String}
    (h : store.showApproval id = none) : store.indexOf id = .error .unknownApproval := by
  simp only [indexOf, findFinIdx_eq_none.mpr h]

theorem ensurePendingNotStale_eq_ok {record : ApprovalRecord} {now : Nat} :
    ensurePendingNotStale record now = .ok () ↔
      record.state = .pending ∧ now < record.expiresAtUnixSeconds := by
  unfold ensurePendingNotStale
  split_ifs with pending stale
  · simp [pending]
  · simp [Nat.not_lt.mpr stale]
  · simp [not_not.mp pending, Nat.not_le.mp stale]

/-- The id names a record on which nothing has been decided. -/
structure Undecided (store : ApprovalStore) (id : String) (record : ApprovalRecord) : Prop where
  found : store.showApproval id = some record
  pending : record.state = .pending

structure Approves (store : ApprovalStore) (id expectedActionId : String) (nowUnixSeconds : Nat)
    (record : ApprovalRecord) (helperAction : ActionKind) : Prop
    extends Undecided store id record where
  unexpired : nowUnixSeconds < record.expiresAtUnixSeconds
  actionId : record.actionId = expectedActionId
  supported : record.action.helperAction = some helperAction

/-- The condition under which an operation succeeds. -/
def Enabled (store : ApprovalStore) : Op → Prop
  | .request _ | .recordAdapterRejection _ _ => True
  | .approve id expectedActionId _ now _ _ =>
      ∃ record helperAction, Approves store id expectedActionId now record helperAction
  | .reject id _ now =>
      ∃ record, Undecided store id record ∧ now < record.expiresAtUnixSeconds
  | .expire id now =>
      ∃ record, Undecided store id record ∧ record.expiresAtUnixSeconds ≤ now
  | .supersede id _ => ∃ record, Undecided store id record

inductive Step (store : ApprovalStore) :
    Op → Except ApprovalError Reply → ApprovalStore → Prop where
  | requested (record : ApprovalRecord) :
      Step store (.request record) (.ok .done) (store.requested record)
  | approved {id expectedActionId actor : String} {now : Nat} {entry nonce : String}
      {record : ApprovalRecord} {helperAction : ActionKind}
      (guard : Approves store id expectedActionId now record helperAction) :
      Step store (.approve id expectedActionId actor now entry nonce)
        (.ok (.leased (leaseClaims id record helperAction entry nonce)))
        (store.decided id .approved (.approvalDecision id actor .approved))
  | rejected {id actor : String} {now : Nat} {record : ApprovalRecord}
      (guard : Undecided store id record) (unexpired : now < record.expiresAtUnixSeconds) :
      Step store (.reject id actor now) (.ok .done)
        (store.decided id .rejected (.approvalDecision id actor .rejected))
  | expired {id : String} {now : Nat} {record : ApprovalRecord}
      (guard : Undecided store id record) (due : record.expiresAtUnixSeconds ≤ now) :
      Step store (.expire id now) (.ok .done)
        (store.decided id .expired (.approvalExpired id))
  | superseded {id supersededBy : String} {record : ApprovalRecord}
      (guard : Undecided store id record) :
      Step store (.supersede id supersededBy) (.ok .done)
        (store.decided id .superseded (.approvalSuperseded id supersededBy))
  | adapterRejected (adapter reason : String) :
      Step store (.recordAdapterRejection adapter reason) (.ok .done)
        (store.logged (.approvalAdapterRejected adapter reason))
  | refused {op : Op} {error : ApprovalError} (guard : ¬ Enabled store op) :
      Step store op (.error error) store

section Decisions

variable {store : ApprovalStore} {id : String} {record : ApprovalRecord} {now : Nat}

/-- An operation on an id is refused with the store unchanged if it is on the
record found, since an unknown id is. -/
private theorem refused_at {α : Type}
    {body : (s : ApprovalStore) → Fin s.records.length → Approvals α}
    (h : ∀ index, store.showApproval id = some (store.records.get index) →
      ∃ error, (body store index).run store = .error error store) :
    ∃ error, (do
      let s ← get
      let index ← ofExcept (s.indexOf id)
      body s index : Approvals α).run store = .error error store := by
  simp only [EStateM.run_bind, EStateM.run_get]
  cases shown : store.showApproval id with
  | none =>
      rw [indexOf_of_unknown shown]
      exact ⟨.unknownApproval, rfl⟩
  | some record =>
      obtain ⟨index, found, rfl, -⟩ := indexOf_of_shown shown
      rw [found]
      exact h index shown

theorem approve_run {expectedActionId : String} {helperAction : ActionKind}
    (h : Approves store id expectedActionId now record helperAction) (actor entry nonce : String) :
    (approve id expectedActionId actor now entry nonce).run store =
      .ok (leaseClaims id record helperAction entry nonce)
        (store.decided id .approved (.approvalDecision id actor .approved)) := by
  obtain ⟨index, found, same, changed⟩ := indexOf_of_shown h.found
  replace same : store.records[index] = record := same
  have valid := ensurePendingNotStale_eq_ok.mpr ⟨h.pending, h.unexpired⟩
  simp only [approve, EStateM.run_bind, EStateM.run_get, found, run_ofExcept_ok, same, valid,
    h.actionId, ne_eq, not_true_eq_false, if_false, h.supported, run_okOr_some, run_setState,
    changed, run_appendEvent, EStateM.run_pure]
  rfl

theorem approve_refused {expectedActionId : String}
    (h : ∀ record helperAction, ¬ Approves store id expectedActionId now record helperAction)
    (actor entry nonce : String) :
    ∃ error, (approve id expectedActionId actor now entry nonce).run store =
      .error error store := by
  apply refused_at
  intro index shown
  simp only [EStateM.run_bind]
  cases valid : ensurePendingNotStale store.records[index] now with
  | error error => exact ⟨error, rfl⟩
  | ok done =>
      obtain ⟨pending, unexpired⟩ := ensurePendingNotStale_eq_ok.mp valid
      simp only [run_ofExcept_ok]
      split_ifs with other
      · exact ⟨_, rfl⟩
      · simp only [EStateM.run_bind]
        cases supported : store.records[index].action.helperAction with
        | none => exact ⟨.unsupportedHelperAction, rfl⟩
        | some helperAction =>
            exact absurd ⟨⟨shown, pending⟩, unexpired, not_not.mp other, supported⟩
              (h _ helperAction)

theorem reject_run (h : Undecided store id record) (unexpired : now < record.expiresAtUnixSeconds)
    (actor : String) :
    (reject id actor now).run store =
      .ok () (store.decided id .rejected (.approvalDecision id actor .rejected)) := by
  obtain ⟨index, found, same, changed⟩ := indexOf_of_shown h.found
  replace same : store.records[index] = record := same
  have valid := ensurePendingNotStale_eq_ok.mpr ⟨h.pending, unexpired⟩
  simp only [reject, EStateM.run_bind, EStateM.run_get, found, run_ofExcept_ok, same, valid,
    run_setState, changed, run_appendEvent]
  rfl

theorem reject_refused
    (h : ∀ record, ¬ (Undecided store id record ∧ now < record.expiresAtUnixSeconds))
    (actor : String) : ∃ error, (reject id actor now).run store = .error error store := by
  apply refused_at
  intro index shown
  simp only [EStateM.run_bind]
  cases valid : ensurePendingNotStale store.records[index] now with
  | error error => exact ⟨error, rfl⟩
  | ok done =>
      obtain ⟨pending, unexpired⟩ := ensurePendingNotStale_eq_ok.mp valid
      exact absurd ⟨⟨shown, pending⟩, unexpired⟩ (h _)

theorem expire_run (h : Undecided store id record) (due : record.expiresAtUnixSeconds ≤ now) :
    (expire id now).run store = .ok () (store.decided id .expired (.approvalExpired id)) := by
  obtain ⟨index, found, same, changed⟩ := indexOf_of_shown h.found
  replace same : store.records[index] = record := same
  simp only [expire, EStateM.run_bind, EStateM.run_get, found, run_ofExcept_ok, same, h.pending,
    ne_eq, not_true_eq_false, if_false, Nat.not_lt.mpr due, run_setState, changed, run_appendEvent]
  rfl

theorem expire_refused
    (h : ∀ record, ¬ (Undecided store id record ∧ record.expiresAtUnixSeconds ≤ now)) :
    ∃ error, (expire id now).run store = .error error store := by
  apply refused_at
  intro index shown
  split_ifs with closed early
  · exact ⟨_, rfl⟩
  · exact ⟨_, rfl⟩
  · exact absurd ⟨⟨shown, not_not.mp closed⟩, Nat.not_lt.mp early⟩ (h _)

theorem supersede_run (h : Undecided store id record) (supersededBy : String) :
    (supersede id supersededBy).run store =
      .ok () (store.decided id .superseded (.approvalSuperseded id supersededBy)) := by
  obtain ⟨index, found, same, changed⟩ := indexOf_of_shown h.found
  replace same : store.records[index] = record := same
  simp only [supersede, EStateM.run_bind, EStateM.run_get, found, run_ofExcept_ok, same, h.pending,
    ne_eq, not_true_eq_false, if_false, run_setState, changed, run_appendEvent]
  rfl

theorem supersede_refused (h : ∀ record, ¬ Undecided store id record) (supersededBy : String) :
    ∃ error, (supersede id supersededBy).run store = .error error store := by
  apply refused_at
  intro index shown
  split_ifs with closed
  · exact ⟨_, rfl⟩
  · exact absurd ⟨shown, not_not.mp closed⟩ (h _)

end Decisions

theorem call_step_of_enabled {store : ApprovalStore} {op : Op} (guard : Enabled store op) :
    Step store op (call perform store op).outcome (call perform store op).after := by
  cases op with
  | request record =>
      have run : (request record).run store = .ok () (store.requested record) := by
        simp only [request, EStateM.run_bind, run_appendEvent, EStateM.run_modify]
        rfl
      rw [call_of_answer perform (.request record) rfl run]
      exact .requested record
  | approve id expectedActionId actor now entry nonce =>
      obtain ⟨record, helperAction, guard⟩ := guard
      rw [call_of_answer perform (.approve id expectedActionId actor now entry nonce) rfl
        (approve_run guard actor entry nonce)]
      exact .approved guard
  | reject id actor now =>
      obtain ⟨record, guard, unexpired⟩ := guard
      rw [call_of_answer perform (.reject id actor now) rfl (reject_run guard unexpired actor)]
      exact .rejected guard unexpired
  | expire id now =>
      obtain ⟨record, guard, due⟩ := guard
      rw [call_of_answer perform (.expire id now) rfl (expire_run guard due)]
      exact .expired guard due
  | supersede id supersededBy =>
      obtain ⟨record, guard⟩ := guard
      rw [call_of_answer perform (.supersede id supersededBy) rfl
        (supersede_run guard supersededBy)]
      exact .superseded guard
  | recordAdapterRejection adapter reason =>
      rw [call_of_answer perform (.recordAdapterRejection adapter reason) rfl
        (run_appendEvent store (.approvalAdapterRejected adapter reason))]
      exact .adapterRejected adapter reason

theorem call_step_of_not_enabled {store : ApprovalStore} {op : Op}
    (guard : ¬ Enabled store op) :
    Step store op (call perform store op).outcome (call perform store op).after := by
  cases op with
  | request | recordAdapterRejection => exact absurd trivial guard
  | approve id expectedActionId actor now entry nonce =>
      obtain ⟨error, refused⟩ := approve_refused
        (fun record helperAction h => guard ⟨record, helperAction, h⟩) actor entry nonce
      rw [call_of_refusal perform (.approve id expectedActionId actor now entry nonce) rfl
        refused]
      exact .refused guard
  | reject id actor now =>
      obtain ⟨error, refused⟩ := reject_refused (not_exists.mp guard) actor
      rw [call_of_refusal perform (.reject id actor now) rfl refused]
      exact .refused guard
  | expire id now =>
      obtain ⟨error, refused⟩ := expire_refused (not_exists.mp guard)
      rw [call_of_refusal perform (.expire id now) rfl refused]
      exact .refused guard
  | supersede id supersededBy =>
      obtain ⟨error, refused⟩ := supersede_refused (not_exists.mp guard) supersededBy
      rw [call_of_refusal perform (.supersede id supersededBy) rfl refused]
      exact .refused guard

theorem call_step (store : ApprovalStore) (op : Op) :
    Step store op (call perform store op).outcome (call perform store op).after := by
  by_cases guard : Enabled store op
  · exact call_step_of_enabled guard
  · exact call_step_of_not_enabled guard

theorem history_step {store : ApprovalStore} {ops : List Op}
    {c : Call ApprovalError ApprovalStore Reply Op} (hc : c ∈ history perform store ops) :
    Step c.before c.op c.outcome c.after :=
  of_mem_history call_step hc

end ApprovalStore

end Runlane
