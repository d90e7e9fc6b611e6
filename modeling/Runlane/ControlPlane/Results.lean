import Runlane.ControlPlane.Steps

/-!
Accepted results over whole runs.

Replays are refused by nonce, while a result is matched to its task by envelope
id. The two agree because the first pulled task with an id never changes: two
results for one envelope would be compared with one task and so carry one nonce.
Nothing compares the node of that task with the node of the submitter, and the
last part says what this costs.
-/

namespace Runlane

namespace ControlPlane

open Calls KeyedList

/-- The result that the call made the plane accept, if it did. -/
def acceptedBy (c : Call RuntimeError ControlPlane Reply Op) : List AgentResultSubmission :=
  match c.outcome, c.op.attempt with
  | .ok _, some attempt => [attempt.submission]
  | _, _ => []

theorem mem_acceptedBy {c : Call RuntimeError ControlPlane Reply Op}
    {result : AgentResultSubmission} :
    result ∈ acceptedBy c ↔ (∃ reply, c.outcome = .ok reply) ∧
      ∃ attempt, c.op.attempt = some attempt ∧ attempt.submission = result := by
  unfold acceptedBy
  split
  · next reply attempt outcome attempted =>
      simp [outcome, attempted, eq_comm]
  · next other =>
      simp only [List.not_mem_nil, false_iff, not_and, not_exists]
      rintro ⟨reply, outcome⟩ attempt attempted
      exact absurd attempted (other reply attempt outcome)

namespace Step

variable {plane after : ControlPlane} {op : Op} {outcome : Except RuntimeError Reply}

theorem pulledTasks_grow (h : Step plane op outcome after) :
    plane.pulledTasks <+: after.pulledTasks := by
  cases h with
  | delivered => exact List.prefix_append _ _
  | _ => exact List.prefix_rfl

theorem acceptedResults (h : Step plane op outcome after) :
    after.acceptedResults = plane.acceptedResults ++ acceptedBy ⟨plane, op, outcome, after⟩ := by
  cases h with
  | accepted attempted guard => simp [acceptedBy, attempted, ControlPlane.accepted]
  | _ => exact (List.append_nil _).symm

end Step

/-- The nonce list is that of the accepted results, each of which repeats the
pulled task it was compared with, and no two share an envelope or a nonce. -/
structure AcceptedOnce (plane : ControlPlane) : Prop where
  nonces : plane.acceptedResultNonces = plane.acceptedResults.map AgentResultSubmission.nonce
  compared : ∀ result ∈ plane.acceptedResults, ∃ task,
    plane.pulledTask result.envelopeId = some task ∧ task.envelope.nonce = result.nonce
  distinct : plane.acceptedResults.Pairwise fun a b =>
    a.envelopeId ≠ b.envelopeId ∧ a.nonce ≠ b.nonce

theorem AcceptedOnce.empty : AcceptedOnce empty :=
  ⟨rfl, nofun, List.Pairwise.nil⟩

/-- An unused nonce marks an envelope without a result. -/
theorem AcceptedOnce.accepted {plane : ControlPlane} (once : AcceptedOnce plane)
    {attempt : SubmissionAttempt} {task : PendingAgentTask} (h : Accepts plane attempt task) :
    AcceptedOnce (plane.accepted attempt.submission) where
  nonces := by simp [ControlPlane.accepted, once.nonces]
  compared := by
    intro result hresult
    cases List.mem_append.mp hresult with
    | inl old => exact once.compared result old
    | inr new =>
        rw [List.mem_singleton.mp new]
        exact ⟨task, h.pulled, h.nonce⟩
  distinct := by
    refine List.pairwise_append.mpr ⟨once.distinct, List.pairwise_singleton _ _, ?_⟩
    intro old hold new hnew
    rw [List.mem_singleton.mp hnew]
    have apart : old.nonce ≠ attempt.submission.nonce := by
      intro same
      apply h.fresh
      rw [once.nonces, ← same]
      exact List.mem_map_of_mem hold
    refine ⟨?_, apart⟩
    intro same
    obtain ⟨compared, pulled, nonce⟩ := once.compared old hold
    rw [same, h.pulled] at pulled
    cases pulled
    exact apart (nonce.symm.trans h.nonce)

theorem AcceptedOnce.step {plane after : ControlPlane} {op : Op}
    {outcome : Except RuntimeError Reply} (once : AcceptedOnce plane)
    (h : Step plane op outcome after) : AcceptedOnce after := by
  cases h with
  | accepted _ guard => exact once.accepted guard
  | delivered =>
      refine ⟨once.nonces, ?_, once.distinct⟩
      intro result hresult
      obtain ⟨task, pulled, nonce⟩ := once.compared result hresult
      exact ⟨task, lookup_append_of_some _ pulled _, nonce⟩
  | _ => exact ⟨once.nonces, once.compared, once.distinct⟩

theorem acceptedOnce (ops : List Op) : AcceptedOnce (planeAfter ops) :=
  exec_invariant (fun plane op once => once.step (call_step plane op)) .empty ops

theorem acceptedResults_eq (ops : List Op) :
    (planeAfter ops).acceptedResults = (history perform empty ops).flatMap acceptedBy := by
  have logged : ∀ plane op, (call perform plane op).after.acceptedResults =
      plane.acceptedResults ++ acceptedBy (call perform plane op) := by
    intro plane op
    have step := (call_step plane op).acceptedResults
    rw [step]
    simp only [acceptedBy, call_op]
  exact exec_log perform logged empty ops

theorem mem_acceptedResults {ops : List Op} {result : AgentResultSubmission} :
    result ∈ (planeAfter ops).acceptedResults ↔
      ∃ c ∈ history perform empty ops, ∃ attempt, c.op.attempt = some attempt ∧
        attempt.submission = result ∧ ∃ task, Accepts c.before attempt task := by
  rw [acceptedResults_eq, List.mem_flatMap]
  constructor
  · intro logged
    obtain ⟨c, hc, accepted⟩ := logged
    obtain ⟨ok, attempt, attempted, same⟩ := mem_acceptedBy.mp accepted
    exact ⟨c, hc, attempt, attempted, same, ((history_step hc).isOk_iff attempted).mp ok⟩
  · intro checked
    obtain ⟨c, hc, attempt, attempted, same, accepts⟩ := checked
    have ok := ((history_step hc).isOk_iff attempted).mpr accepts
    exact ⟨c, hc, mem_acceptedBy.mpr ⟨ok, attempt, attempted, same⟩⟩

/-- The task found under an envelope id is found under it ever after. -/
theorem pulledTask_stays {ops : List Op} {c : Call RuntimeError ControlPlane Reply Op}
    (hc : c ∈ history perform empty ops) {envelopeId : String} {task : PendingAgentTask}
    (found : c.before.pulledTask envelopeId = some task) :
    (planeAfter ops).pulledTask envelopeId = some task := by
  have later : c.after.pulledTasks <+: (planeAfter ops).pulledTasks :=
    after_le_exec perform (R := fun a b => a.pulledTasks <+: b.pulledTasks)
      (fun _ => List.prefix_rfl) List.IsPrefix.trans
      (fun plane op => (call_step plane op).pulledTasks_grow) hc
  obtain ⟨more, rest⟩ := (history_step hc).pulledTasks_grow.trans later
  rw [pulledTask, ← rest]
  exact lookup_append_of_some _ found more

/-- Results are accepted at most once, and only against a pulled task: the
accepted results are those of the calls that succeeded, direct or by replay; each
of these calls found its pulled task unexpired and came from the node it names;
and no two results share an envelope or a nonce. -/
theorem results_accepted_once (ops : List Op) :
    (planeAfter ops).acceptedResults = (history perform empty ops).flatMap acceptedBy ∧
    (∀ c ∈ history perform empty ops, ∀ result ∈ acceptedBy c,
      ∃ attempt, c.op.attempt = some attempt ∧ attempt.submission = result ∧
        c.before.requireAgent attempt.identity = .ok () ∧
        result.nodeId = attempt.identity.nodeId ∧
        ∃ task ∈ c.before.pulledTasks,
          task.envelope.envelopeId = result.envelopeId ∧ task.envelope.runId = result.runId ∧
          task.envelope.taskId = result.taskId ∧ task.envelope.nonce = result.nonce ∧
          attempt.nowUnixSeconds < task.envelope.expiresAtUnixSeconds) ∧
    (planeAfter ops).acceptedResults.Pairwise fun a b =>
      a.envelopeId ≠ b.envelopeId ∧ a.nonce ≠ b.nonce := by
  refine ⟨acceptedResults_eq ops, ?_, (acceptedOnce ops).distinct⟩
  intro c hc result hresult
  obtain ⟨ok, attempt, attempted, rfl⟩ := mem_acceptedBy.mp hresult
  obtain ⟨task, guard⟩ := ((history_step hc).isOk_iff attempted).mp ok
  exact ⟨attempt, attempted, rfl, guard.authenticated, guard.submitter, task,
    mem_of_lookup _ guard.pulled, guard.envelopeId, guard.runId, guard.taskId, guard.nonce,
    guard.unexpired⟩

/-- Every accepted result names the node that its envelope was addressed to. -/
def ResultsFromAddressee (plane : ControlPlane) : Prop :=
  ∀ result ∈ plane.acceptedResults,
    (plane.pulledTask result.envelopeId).map (·.envelope.nodeId) = some result.nodeId

instance (plane : ControlPlane) : Decidable (ResultsFromAddressee plane) :=
  inferInstanceAs (Decidable (∀ result ∈ plane.acceptedResults, _))

/-- An enrolled agent hands in, under its own node id, what was pulled by another
node: the same envelope, task, run and still unused nonce, before the expiry. -/
structure ForeignSubmission (plane : ControlPlane) (attempt : SubmissionAttempt)
    (task : PendingAgentTask) : Prop extends Accepts plane attempt task where
  foreign : task.envelope.nodeId ≠ attempt.submission.nodeId

/-- The plane itself never compares the two nodes, so results come from the
addressed nodes as long as no agent hands in what another node pulled. -/
theorem results_from_addressee_iff (ops : List Op) :
    ResultsFromAddressee (planeAfter ops) ↔
      ∀ c ∈ history perform empty ops, ∀ attempt, c.op.attempt = some attempt →
        ∀ task, ¬ ForeignSubmission c.before attempt task := by
  constructor
  · intro addressed c hc attempt attempted task foreign
    have accepted : attempt.submission ∈ (planeAfter ops).acceptedResults :=
      mem_acceptedResults.mpr ⟨c, hc, attempt, attempted, rfl, task, foreign.toAccepts⟩
    have node := addressed _ accepted
    rw [pulledTask_stays hc foreign.pulled, Option.map_some] at node
    exact foreign.foreign (Option.some.inj node)
  · intro own result hresult
    obtain ⟨c, hc, attempt, attempted, rfl, task, guard⟩ := mem_acceptedResults.mp hresult
    rw [pulledTask_stays hc guard.pulled, Option.map_some]
    by_contra foreign
    exact own c hc attempt attempted task ⟨guard, fun same => foreign (congrArg some same)⟩

/-- Two enrolled nodes; the one hands in the result of a task that the other pulled. -/
def foreignCompletion : List Op :=
  let enroll (node secret fingerprint : String) : List Op := [
    .createEnrollmentToken ⟨"token-" ++ node, secret, node, .linux, "root", 100, "enroll-" ++ node⟩,
    .enrollAgent ⟨secret, node, .linux, fingerprint, "root", 1⟩]
  let envelope : AgentTaskEnvelope := {
    envelopeId := "envelope-1"
    runId := "run-1"
    taskId := "task-1"
    nodeId := "node-a"
    issuedAtUnixSeconds := 1
    expiresAtUnixSeconds := 100
    nonce := "nonce-1"
    requiredCapabilities := []
    auditCorrelationId := "audit-1" }
  let submission : AgentResultSubmission := {
    envelopeId := "envelope-1"
    runId := "run-1"
    taskId := "task-1"
    nodeId := "node-b"
    nonce := "nonce-1"
    status := .succeeded
    evidence := []
    auditCorrelationId := "audit-1" }
  enroll "node-a" "secret-a" "fingerprint-a" ++ enroll "node-b" "secret-b" "fingerprint-b" ++ [
    .enqueueTask ⟨envelope, .verify "check-1" "system:node/node-a"⟩,
    .pullTask ⟨"node-a", "fingerprint-a"⟩ 2,
    .submitResult ⟨"node-b", "fingerprint-b"⟩ submission 3]

theorem foreign_result_accepted :
    ¬ ∀ ops : List Op, ResultsFromAddressee (planeAfter ops) := by
  intro h
  exact absurd (h foreignCompletion) (by decide)

end ControlPlane

end Runlane
