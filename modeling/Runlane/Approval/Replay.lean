import Runlane.Lib.Failure
import Runlane.Approval.Lifecycle

/-!
The approval ledger as the source of the approval states.

Replaying the ledger from scratch gives every approval with its proposal and
action, and the state that the store holds it in. The event of a request does
not name a state, so a replay takes every request for a pending one, as the
constructor of a record makes it. The store takes a record as it is given.
-/

namespace Runlane

/-- What the ledger tells of an approval. -/
structure ApprovalSummary where
  id : String
  proposalId : String
  actionId : String
  state : ApprovalState
deriving DecidableEq

def ApprovalRecord.summary (record : ApprovalRecord) : ApprovalSummary where
  id := record.id
  proposalId := record.proposalId
  actionId := record.actionId
  state := record.state

namespace ApprovalStore

open Calls KeyedList

def settle (approvals : List ApprovalSummary) (id : String) (state : ApprovalState) :
    List ApprovalSummary :=
  update ApprovalSummary.id approvals id fun approval => { approval with state }

def replayEvent (approvals : List ApprovalSummary) : AuditEventKind → List ApprovalSummary
  | .approvalRequested approvalId proposalId actionId =>
      approvals ++ [⟨approvalId, proposalId, actionId, .pending⟩]
  | .approvalDecision approvalId _ .approved => settle approvals approvalId .approved
  | .approvalDecision approvalId _ .rejected => settle approvals approvalId .rejected
  | .approvalExpired approvalId => settle approvals approvalId .expired
  | .approvalSuperseded approvalId _ => settle approvals approvalId .superseded
  | _ => approvals

def replay (ledger : AuditLedger) : List ApprovalSummary :=
  ledger.events.foldl (fun approvals event => replayEvent approvals event.kind) []

@[simp] theorem replay_record (ledger : AuditLedger) (id runId : String) (kind : AuditEventKind) :
    replay (ledger.record id runId kind) = replayEvent (replay ledger) kind := by
  simp [replay, AuditLedger.record]

/-- What a replay shows for a record that was requested in one form and is stored
in another. -/
def replayedAs (requested stored : ApprovalRecord) : ApprovalSummary :=
  { stored.summary with state := if requested.state = .pending then stored.state else .pending }

def Op.requested : Op → List ApprovalRecord
  | .request record => [record]
  | _ => []

/-- The records requested so far stand beside the stored ones, of which none has
become pending, and a replay shows the latter by the former. -/
structure Replays (requested : List ApprovalRecord) (store : ApprovalStore) : Prop where
  beside : List.Forall₂
    (fun requested stored : ApprovalRecord => stored.state = .pending → requested.state = .pending)
    requested store.records
  replayed : replay store.ledger = List.zipWith replayedAs requested store.records

theorem Replays.empty : Replays [] empty :=
  ⟨.nil, rfl⟩

theorem Replays.requested {requests : List ApprovalRecord} {store : ApprovalStore}
    (h : Replays requests store) (record : ApprovalRecord) :
    Replays (requests ++ [record]) (store.requested record) where
  beside := List.rel_append h.beside (.cons id .nil)
  replayed := by
    have shown : replayedAs record record =
        ⟨record.id, record.proposalId, record.actionId, .pending⟩ := by
      by_cases pending : record.state = .pending
      · simp [replayedAs, ApprovalRecord.summary, pending]
      · simp [replayedAs, ApprovalRecord.summary, pending]
    simp only [ApprovalStore.requested, logged, replay_record, replayEvent, h.replayed,
      List.zipWith_append h.beside.length_eq, List.zipWith_cons_cons, List.zipWith_nil_right, shown]

theorem Replays.decided {requests : List ApprovalRecord} {store : ApprovalStore}
    (h : Replays requests store) {id : String} {record : ApprovalRecord}
    (guard : Undecided store id record) {state : ApprovalState} (decision : state ≠ .pending)
    {kind : AuditEventKind} (settles : ∀ approvals, replayEvent approvals kind =
      settle approvals id state) :
    Replays requests (store.decided id state kind) where
  beside := forall₂_update h.beside fun _ _ _ pending => absurd pending decision
  replayed := by
    have change : ∀ request : ApprovalRecord,
        (record.state = .pending → request.state = .pending) →
          replayedAs request { record with state } =
            { replayedAs request record with state } := by
      intro request pending
      simp [replayedAs, ApprovalRecord.summary, pending guard.pending]
    have named : ∀ request stored : ApprovalRecord,
        (replayedAs request stored).id = ApprovalRecord.id stored := fun _ _ => rfl
    simp only [ApprovalStore.decided, logged, replay_record, settles, h.replayed]
    exact (zipWith_update named h.beside guard.found change).symm

theorem Replays.step {requests : List ApprovalRecord} {store after : ApprovalStore} {op : Op}
    {outcome : Except ApprovalError Reply} (h : Replays requests store)
    (step : Step store op outcome after) : Replays (requests ++ op.requested) after := by
  have unrequested {after : ApprovalStore} (h : Replays requests after) :
      Replays (requests ++ []) after := by
    rwa [List.append_nil]
  cases step with
  | requested record => exact h.requested record
  | approved guard => exact unrequested (h.decided guard.toUndecided (by nofun) fun _ => rfl)
  | rejected guard | expired guard | superseded guard =>
      exact unrequested (h.decided guard (by nofun) fun _ => rfl)
  | adapterRejected =>
      refine unrequested ⟨h.beside, ?_⟩
      rw [logged, replay_record]
      exact h.replayed
  | refused guard =>
      cases op with
      | request => exact absurd trivial guard
      | _ => exact unrequested h

theorem replays (ops : List Op) : Replays (ops.flatMap Op.requested) (storeAfter ops) := by
  have step : ∀ requests store op, Replays requests store →
      Replays (requests ++ Op.requested op) (call perform store op).after :=
    fun _ store op h => h.step (call_step store op)
  exact exec_invariant_log perform step .empty ops

theorem zipWith_replayedAs {requests records : List ApprovalRecord}
    (beside : requests.length = records.length)
    (pending : ∀ request ∈ requests, request.state = .pending) :
    List.zipWith replayedAs requests records = records.map ApprovalRecord.summary := by
  induction requests generalizing records with
  | nil =>
      rw [List.length_eq_zero_iff.mp beside.symm]
      rfl
  | cons request requests ih =>
      cases records with
      | nil => cases beside
      | cons record records =>
          have first := pending request List.mem_cons_self
          have rest := ih (Nat.succ.inj beside)
            fun request hrequest => pending request (List.mem_cons_of_mem _ hrequest)
          rw [List.zipWith_cons_cons, List.map_cons, rest, replayedAs, if_pos first]
          rfl

theorem Replays.of_pending {requests : List ApprovalRecord} {store : ApprovalStore}
    (h : Replays requests store) (pending : ∀ request ∈ requests, request.state = .pending) :
    replay store.ledger = store.records.map ApprovalRecord.summary := by
  rw [h.replayed]
  exact zipWith_replayedAs h.beside.length_eq pending

theorem Step.settled {store after : ApprovalStore} {op : Op}
    {outcome : Except ApprovalError Reply} (h : Step store op outcome after) {i : Nat}
    {record : ApprovalRecord} (stored : store.records[i]? = some record)
    (settled : record.state ≠ .pending) : after.records[i]? = some record := by
  have untouched {id : String} {other : ApprovalRecord} (guard : Undecided store id other)
      (f : ApprovalRecord → ApprovalRecord) :
      (update ApprovalRecord.id store.records id f)[i]? = some record := by
    refine getElem?_update_of_ne _ guard.found stored ?_
    intro same
    rw [same] at settled
    exact settled guard.pending
  cases h with
  | requested new =>
      obtain ⟨bound, -⟩ := List.getElem?_eq_some_iff.mp stored
      rw [ApprovalStore.requested, List.getElem?_append_left bound]
      exact stored
  | approved guard => exact untouched guard.toUndecided _
  | rejected guard | expired guard | superseded guard => exact untouched guard _
  | adapterRejected | refused => exact stored

theorem Step.unchanged {store after : ApprovalStore} {op : Op} {error : ApprovalError}
    (h : Step store op (.error error) after) : after = store := by
  cases h with
  | refused => rfl

theorem indexOf_error {store : ApprovalStore} {id : String} {error : ApprovalError}
    (h : store.indexOf id = .error error) : error = .unknownApproval := by
  unfold indexOf at h
  cases found : store.records.findFinIdx? fun record => decide (record.id = id) with
  | some index =>
      rw [found] at h
      cases h
  | none =>
      rw [found] at h
      cases h
      rfl

theorem ensurePendingNotStale_error {record : ApprovalRecord} {now : Nat} {error : ApprovalError}
    (h : ensurePendingNotStale record now = .error error) :
    error = .notPending ∨ error = .staleApproval := by
  unfold ensurePendingNotStale at h
  split_ifs at h
  · cases h
    exact .inl rfl
  · cases h
    exact .inr rfl

/-- The error is not the ledger's. -/
def OwnError (error : ApprovalError) : Prop :=
  ∀ append, error ≠ .auditAppend append

theorem perform_fails (store : ApprovalStore) (op : Op) :
    FailsOnly OwnError (perform op) store := by
  have unknown {id : String} : ∀ error, store.indexOf id = .error error → OwnError error := by
    intro error h
    rw [indexOf_error h]
    exact nofun
  have closed {record : ApprovalRecord} {now : Nat} :
      ∀ error, ensurePendingNotStale record now = .error error → OwnError error := by
    intro error h
    cases ensurePendingNotStale_error h with
    | inl same | inr same =>
        rw [same]
        exact nofun
  have settles {index : Nat} {state : ApprovalState} {kind : AuditEventKind} :
      FailsOnly OwnError (do
        setState index state
        appendEvent kind : Approvals Unit) store :=
    .after (run_setState _ _ _) (.of_ok (run_appendEvent _ _))
  cases op with
  | request record =>
      have fails : FailsOnly OwnError (ApprovalStore.request record) store :=
        .after (run_appendEvent _ _) (.of_ok rfl)
      exact fails.returning _
  | recordAdapterRejection adapter reason => exact .returning (.of_ok (run_appendEvent _ _)) _
  | approve id expectedActionId actor now entry nonce =>
      refine .returning (.after (EStateM.run_get store) (.ofExcept_bind unknown ?_)) _
      intro index _
      refine .ofExcept_bind closed fun _ _ => .ite (fun _ => .throws nofun) fun _ => ?_
      refine .okOr_bind (fun _ => nofun) fun helperAction _ => ?_
      exact .after (run_setState _ _ _) (.after (run_appendEvent _ _) (.of_ok rfl))
  | reject id actor now =>
      refine .returning (.after (EStateM.run_get store) (.ofExcept_bind unknown ?_)) _
      intro index _
      exact .ofExcept_bind closed fun _ _ => settles
  | expire id now =>
      refine .returning (.after (EStateM.run_get store) (.ofExcept_bind unknown ?_)) _
      intro index _
      exact .ite (fun _ => .throws nofun) fun _ => .ite (fun _ => .throws nofun) fun _ => settles
  | supersede id supersededBy =>
      refine .returning (.after (EStateM.run_get store) (.ofExcept_bind unknown ?_)) _
      intro index _
      exact .ite (fun _ => .throws nofun) fun _ => settles

/-- A replay of the ledger shows every approval with its proposal and action, in
the state in which the store holds it if it was requested pending, and pending
otherwise. A record that is not pending never changes, and a call that fails
changes nothing and does not fail on account of the ledger. -/
theorem replay_determines_states (ops : List Op) :
    replay (storeAfter ops).ledger =
      List.zipWith replayedAs (ops.flatMap Op.requested) (storeAfter ops).records ∧
    ((∀ record ∈ ops.flatMap Op.requested, record.state = .pending) →
      replay (storeAfter ops).ledger = (storeAfter ops).records.map ApprovalRecord.summary) ∧
    (∀ before after, ops = before ++ after → ∀ (i : Nat) (record : ApprovalRecord),
      (storeAfter before).records[i]? = some record → record.state ≠ .pending →
        (storeAfter ops).records[i]? = some record) ∧
    ∀ c ∈ history perform empty ops, ∀ error, c.outcome = .error error →
      c.after = c.before ∧ OwnError error := by
  refine ⟨(replays ops).replayed, ?_, ?_, ?_⟩
  · exact (replays ops).of_pending
  · intro before after hops i record stored settled
    rw [hops, storeAfter, exec_append]
    exact exec_invariant (I := fun store => store.records[i]? = some record)
      (fun store op stored => (call_step store op).settled stored settled) stored after
  · intro c hc error failed
    have step := history_step hc
    rw [failed] at step
    have outcome : (call perform c.before c.op).outcome = .error error := by
      rw [← eq_call_of_mem hc]
      exact failed
    exact ⟨step.unchanged, (perform_fails c.before c.op).of_call outcome⟩

theorem settled_request_replayed_pending :
    ¬ ∀ ops : List Op,
      replay (storeAfter ops).ledger = (storeAfter ops).records.map ApprovalRecord.summary := by
  intro h
  let record := { restartRequest "restart-sshd" "sshd" with state := .approved }
  exact absurd (h [.request record]) (by decide)

end ApprovalStore

end Runlane
