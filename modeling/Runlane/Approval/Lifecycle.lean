import Runlane.Approval.Steps

/-!
The life of an approval over whole runs.

An approval is decided once, by whichever of the four decisions comes first:
the record an id names never changes, and a record that is no longer pending
stays so. What an operator sees under an id is therefore what the id decides
about, for the record that was requested first under it. Nothing makes the ids
of requests distinct, and a later request under a used id is listed as pending
without being reachable by it.
-/

namespace Runlane

namespace ApprovalStore

open Calls KeyedList

/-- The id names a record that has been decided. -/
def Closed (store : ApprovalStore) (id : String) : Prop :=
  ∃ record, store.showApproval id = some record ∧ record.state ≠ .pending

private theorem id_withState (state : ApprovalState) (record : ApprovalRecord) :
    ApprovalRecord.id { record with state } = record.id :=
  rfl

theorem showApproval_decided (store : ApprovalStore) (id id' : String) (state : ApprovalState)
    (kind : AuditEventKind) :
    (store.decided id state kind).showApproval id' =
      if id' = id then (store.showApproval id').map fun record => { record with state }
      else store.showApproval id' := by
  exact lookup_update (id_withState state) store.records id id'

theorem Undecided.not_closed {store : ApprovalStore} {id : String} {record : ApprovalRecord}
    (h : Undecided store id record) : ¬ store.Closed id := by
  intro closed
  obtain ⟨other, found, decided⟩ := closed
  cases h.found.symm.trans found
  exact decided h.pending

theorem Undecided.closes {store : ApprovalStore} {id : String} {record : ApprovalRecord}
    (h : Undecided store id record) {state : ApprovalState} (hs : state ≠ .pending)
    (kind : AuditEventKind) : (store.decided id state kind).Closed id := by
  refine ⟨{ record with state }, ?_, hs⟩
  rw [showApproval_decided, if_pos rfl, h.found, Option.map_some]

theorem Closed.decided {store : ApprovalStore} {id id' : String} (h : store.Closed id')
    {state : ApprovalState} (hs : state ≠ .pending) (kind : AuditEventKind) :
    (store.decided id state kind).Closed id' := by
  obtain ⟨record, found, closed⟩ := h
  by_cases same : id' = id
  · refine ⟨{ record with state }, ?_, hs⟩
    rw [showApproval_decided, if_pos same, found, Option.map_some]
  · refine ⟨record, ?_, closed⟩
    rw [showApproval_decided, if_neg same, found]

/-- The approval that an operation is about. -/
def Op.approvalId : Op → Option String
  | .approve id _ _ _ _ _ | .reject id _ _ | .expire id _ | .supersede id _ => some id
  | .request _ | .recordAdapterRejection _ _ => none

namespace Step

variable {store after : ApprovalStore} {op : Op} {outcome : Except ApprovalError Reply}

theorem closed (h : Step store op outcome after) {id : String} (closed : store.Closed id) :
    after.Closed id := by
  cases h with
  | requested record =>
      obtain ⟨old, found, decided⟩ := closed
      exact ⟨old, lookup_append_of_some _ found _, decided⟩
  | approved | rejected | expired | superseded => exact closed.decided (by nofun) _
  | adapterRejected | refused => exact closed

/-- A successful decision found its record undecided and leaves it decided. -/
theorem decides {reply : Reply} (h : Step store op (.ok reply) after) {id : String}
    (about : op.approvalId = some id) : ¬ store.Closed id ∧ after.Closed id := by
  cases h with
  | requested | adapterRejected => cases about
  | approved guard =>
      cases about
      exact ⟨guard.not_closed, guard.closes (by nofun) _⟩
  | rejected guard | expired guard | superseded guard =>
      cases about
      exact ⟨guard.not_closed, guard.closes (by nofun) _⟩

theorem of_approve {id expectedActionId actor : String} {now : Nat} {entry nonce : String}
    {reply : Reply}
    (h : Step store (.approve id expectedActionId actor now entry nonce) (.ok reply) after) :
    ∃ record helperAction, Approves store id expectedActionId now record helperAction ∧
      reply = .leased (leaseClaims id record helperAction entry nonce) := by
  cases h with
  | approved guard => exact ⟨_, _, guard, rfl⟩

end Step

/-- The call approved, rejected, expired or superseded this approval. -/
def Decides (c : Call ApprovalError ApprovalStore Reply Op) (id : String) : Prop :=
  c.op.approvalId = some id ∧ ∃ reply, c.outcome = .ok reply

/-- The claims that the call issued, if any. -/
def issued (c : Call ApprovalError ApprovalStore Reply Op) : Option CapabilityLeaseClaims :=
  match c.outcome with
  | .ok (.leased claims) => some claims
  | _ => none

theorem decided_once (ops : List Op) :
    (history perform empty ops).Pairwise fun earlier later =>
      ∀ id, Decides earlier id → ¬ Decides later id := by
  refine history_pairwise (I := fun _ => True) (fun _ _ _ => trivial)
    (fun c store => ∀ id, Decides c id → store.Closed id) ?_ ?_ ?_ trivial ops
  · rintro store op - id ⟨about, reply, outcome⟩
    have step := call_step store op
    rw [outcome] at step
    rw [call_op] at about
    exact (step.decides about).2
  · intro c store op _ closed id hid
    exact (call_step store op).closed (closed id hid)
  · rintro c store op - closed id hid ⟨about, reply, outcome⟩
    have step := call_step store op
    rw [outcome] at step
    rw [call_op] at about
    exact (step.decides about).1 (closed id hid)

theorem issued_eq_some {ops : List Op} {c : Call ApprovalError ApprovalStore Reply Op}
    (hc : c ∈ history perform empty ops) {claims : CapabilityLeaseClaims}
    (h : issued c = some claims) : ∃ id, Decides c id ∧ claims.leaseId = s!"lease-{id}" := by
  obtain ⟨before, op, outcome, after⟩ := c
  have step : Step before op outcome after := history_step hc
  cases step with
  | approved guard =>
      cases h
      exact ⟨_, ⟨rfl, _, rfl⟩, rfl⟩
  | _ => cases h

/-- An approval is decided at most once, so at most one approval succeeds and
none after another decision. One that succeeds found its record pending and
unexpired under the action id given, its claims are those of the record, and no
two claims of a run share a lease id. -/
theorem approvals_decided_once (ops : List Op) :
    ((history perform empty ops).Pairwise fun earlier later =>
      ∀ id, Decides earlier id → ¬ Decides later id) ∧
    (∀ c ∈ history perform empty ops, ∀ id expectedActionId actor now entry nonce,
      c.op = .approve id expectedActionId actor now entry nonce → ∀ reply, c.outcome = .ok reply →
        ∃ record claims, reply = .leased claims ∧ c.before.showApproval id = some record ∧
          record.state = .pending ∧ now < record.expiresAtUnixSeconds ∧
          record.actionId = expectedActionId ∧ claims.runId = record.runId ∧
          claims.approvalId = record.id ∧ record.action.helperAction = some claims.action ∧
          claims.target = record.target ∧
          claims.expiresAtUnixSeconds = record.expiresAtUnixSeconds) ∧
    ((history perform empty ops).filterMap issued).Pairwise fun a b => a.leaseId ≠ b.leaseId := by
  refine ⟨decided_once ops, ?_, ?_⟩
  · intro c hc id expectedActionId actor now entry nonce hop reply outcome
    have step := history_step hc
    rw [hop, outcome] at step
    obtain ⟨record, helperAction, guard, leased⟩ := step.of_approve
    exact ⟨record, _, leased, guard.found, guard.pending, guard.unexpired, guard.actionId, rfl,
      rfl, guard.supported, rfl, rfl⟩
  · rw [List.pairwise_filterMap]
    refine (decided_once ops).imp_of_mem ?_
    intro c d hc hd once claims hclaims claims' hclaims' same
    obtain ⟨id, decides, lease⟩ := issued_eq_some hc hclaims
    obtain ⟨id', decides', lease'⟩ := issued_eq_some hd hclaims'
    rw [lease, lease'] at same
    have sameId : id = id' := (String.append_right_inj _).mp same
    rw [← sameId] at decides'
    exact once id decides decides'

/-- Showing the record's id gives the record, and approving its id and action
while it is unexpired gives claims for it. -/
def SeenIsApproved (store : ApprovalStore) (record : ApprovalRecord) : Prop :=
  ∀ helperAction now, record.action.helperAction = some helperAction →
    now < record.expiresAtUnixSeconds →
      store.showApproval record.id = some record ∧
      ∀ actor entry nonce, ∃ claims after,
        (approve record.id record.actionId actor now entry nonce).run store = .ok claims after ∧
          claims.action = helperAction ∧ claims.target = record.target ∧
          claims.runId = record.runId ∧
          claims.expiresAtUnixSeconds = record.expiresAtUnixSeconds

/-- No record with the same id is stored before this one. -/
def Oldest (store : ApprovalStore) (record : ApprovalRecord) : Prop :=
  ∃ older newer, store.records = older ++ record :: newer ∧ ∀ r ∈ older, r.id ≠ record.id

theorem Oldest.shown {store : ApprovalStore} {record : ApprovalRecord}
    (h : store.Oldest record) : store.showApproval record.id = some record :=
  (lookup_eq_some_iff ApprovalRecord.id).mpr ⟨rfl, h⟩

theorem Oldest.seenIsApproved {store : ApprovalStore} {record : ApprovalRecord}
    (h : store.Oldest record) (pending : record.state = .pending) :
    store.SeenIsApproved record := by
  intro helperAction now supported unexpired
  refine ⟨h.shown, ?_⟩
  intro actor entry nonce
  have guard : Approves store record.id record.actionId now record helperAction :=
    ⟨⟨h.shown, pending⟩, unexpired, rfl, supported⟩
  exact ⟨_, _, approve_run guard actor entry nonce, rfl, rfl, rfl, rfl⟩

def ids (store : ApprovalStore) : List String :=
  store.records.map ApprovalRecord.id

def Op.requestedIds : Op → List String
  | .request record => [record.id]
  | _ => []

theorem ids_decided (store : ApprovalStore) (id : String) (state : ApprovalState)
    (kind : AuditEventKind) : (store.decided id state kind).ids = store.ids :=
  map_key_update (id_withState state) store.records id

theorem Step.ids {store after : ApprovalStore} {op : Op} {outcome : Except ApprovalError Reply}
    (h : Step store op outcome after) : after.ids = store.ids ++ op.requestedIds := by
  cases h with
  | requested record => exact List.map_append
  | approved | rejected | expired | superseded =>
      rw [ids_decided]
      exact (List.append_nil _).symm
  | adapterRejected => exact (List.append_nil _).symm
  | refused guard =>
      cases op with
      | request => exact absurd trivial guard
      | _ => exact (List.append_nil _).symm

theorem ids_eq_requested (ops : List Op) :
    (storeAfter ops).ids = ops.flatMap Op.requestedIds :=
  exec_log_op perform (fun store op => (call_step store op).ids) empty ops

/-- An operator approves what is shown wherever the pending record is the oldest
under its id, hence everywhere in a run whose requests have distinct ids. -/
theorem seen_is_approved (ops : List Op) :
    (∀ record ∈ (storeAfter ops).listPending, (storeAfter ops).Oldest record →
      (storeAfter ops).SeenIsApproved record) ∧
    ((ops.flatMap Op.requestedIds).Nodup →
      ∀ record ∈ (storeAfter ops).listPending, (storeAfter ops).SeenIsApproved record) := by
  have oldest : ∀ record ∈ (storeAfter ops).listPending, (storeAfter ops).Oldest record →
      (storeAfter ops).SeenIsApproved record := by
    intro record listed first
    have pending := (List.mem_filter.mp listed).2
    exact first.seenIsApproved (of_decide_eq_true pending)
  refine ⟨oldest, ?_⟩
  intro distinct record listed
  rw [← ids_eq_requested, ids, List.nodup_iff_pairwise_ne, List.pairwise_map] at distinct
  have stored := (List.mem_filter.mp listed).1
  have found := lookup_of_pairwise ApprovalRecord.id distinct stored
  exact oldest record listed ((lookup_eq_some_iff ApprovalRecord.id).mp found).2

/-- A pending restart, requested under the given action and service. -/
def restartRequest (actionId service : String) : ApprovalRecord where
  id := "approval-1"
  runId := "run-1"
  proposalId := "proposal-1"
  actionId := actionId
  action := .serviceRestart
  layer := .system
  target := ⟨"system:node/node-1/service/" ++ service, service⟩
  impact := .empty .system
  leaseRequest := ⟨"system:node/node-1/service/" ++ service, .exclusive, "restart"⟩
  verification := .empty
  evidenceReferences := []
  state := .pending
  requestedAtUnixSeconds := 100
  expiresAtUnixSeconds := 200

/-- The second of two requests with one id is listed, but the id shows the first. -/
theorem duplicate_id_shows_other :
    ¬ ∀ ops : List Op, ∀ record ∈ (storeAfter ops).listPending,
      (storeAfter ops).SeenIsApproved record := by
  intro h
  let first := restartRequest "restart-sshd" "sshd"
  let second := restartRequest "restart-nginx" "nginx"
  have listed : (storeAfter [.request first, .request second]).listPending = [first, second] := rfl
  have seen := h [.request first, .request second] second (by rw [listed]; simp)
    .serviceRestart 150 rfl (by decide)
  have shown : (storeAfter [.request first, .request second]).showApproval second.id = some first :=
    rfl
  have same : first = second := Option.some.inj (shown.symm.trans seen.1)
  exact absurd same (by decide)

end ApprovalStore

end Runlane
