import Runlane.ControlPlane.Enrollment
import Runlane.ControlPlane.EventLog
import Runlane.ControlPlane.Queue
import Runlane.ControlPlane.Results

/-!
An honest agent gets its result through.

Once an agent has pulled an envelope, its result is compared with the agent's
record, with the pulled task under the envelope's id and with the used nonces.
The first two never change again, and a nonce is used by an accepted result
only. What the other agents do in between touches none of the three, as long as
envelope ids are not reused and nobody else spends the nonce.
-/

namespace Runlane

namespace ControlPlane

open Calls KeyedList

/-- The tasks enqueued in the run carry envelopes with ids of their own. -/
def DistinctEnvelopes (ops : List Op) : Prop :=
  (ops.flatMap Op.enqueued).Pairwise fun a b => a.envelope.envelopeId ≠ b.envelope.envelopeId

theorem DistinctEnvelopes.of_append {ops : List Op} (more : List Op)
    (h : DistinctEnvelopes (ops ++ more)) : DistinctEnvelopes ops := by
  rw [DistinctEnvelopes, List.flatMap_append] at h
  exact (List.pairwise_append.mp h).1

/-- The agent hands in, in its own name, a result that repeats the envelope. -/
structure SubmissionAttempt.Honest (attempt : SubmissionAttempt) (identity : AgentIdentity)
    (envelope : AgentTaskEnvelope) : Prop where
  caller : attempt.identity = identity
  envelopeId : attempt.submission.envelopeId = envelope.envelopeId
  runId : attempt.submission.runId = envelope.runId
  taskId : attempt.submission.taskId = envelope.taskId
  nodeId : attempt.submission.nodeId = envelope.nodeId
  nonce : attempt.submission.nonce = envelope.nonce

theorem Step.conserved {plane after : ControlPlane} {op : Op} {outcome : Except RuntimeError Reply}
    (h : Step plane op outcome after) :
    (after.pulledTasks ++ after.pendingTasks).Perm
      (plane.pulledTasks ++ plane.pendingTasks ++ op.enqueued) := by
  cases h with
  | enqueued task => exact .of_eq (List.append_assoc _ _ _).symm
  | @delivered _ _ task guard =>
      have found := guard.queued
      rw [← guard.node] at found
      have taken := perm_eraseP_of_lookup _ found
      simp only [ControlPlane.delivered, Op.enqueued, List.append_nil, List.append_assoc,
        List.singleton_append]
      exact taken.symm.append_left _
  | accepted attempted | submissionRejected attempted | submissionRefused attempted =>
      cases op with
      | submitResult | replaySpool => exact .of_eq (List.append_nil _).symm
      | _ => cases attempted
  | _ => exact .of_eq (List.append_nil _).symm

theorem conserved (ops : List Op) :
    ((planeAfter ops).pulledTasks ++ (planeAfter ops).pendingTasks).Perm
      (ops.flatMap Op.enqueued) := by
  have step : ∀ log plane op, (plane.pulledTasks ++ plane.pendingTasks).Perm log →
      ((call perform plane op).after.pulledTasks ++
        (call perform plane op).after.pendingTasks).Perm (log ++ op.enqueued) := by
    intro log plane op same
    exact (call_step plane op).conserved.trans (same.append_right _)
  exact exec_invariant_log perform
    (I := fun log plane => (plane.pulledTasks ++ plane.pendingTasks).Perm log)
    step (List.Perm.refl _) ops

theorem DistinctEnvelopes.tasks {ops : List Op} (h : DistinctEnvelopes ops) :
    ((planeAfter ops).pulledTasks ++ (planeAfter ops).pendingTasks).Pairwise fun a b =>
      a.envelope.envelopeId ≠ b.envelope.envelopeId :=
  ((conserved ops).pairwise_iff Ne.symm).mpr h

theorem DistinctEnvelopes.pulledTask_of_mem {ops : List Op} (h : DistinctEnvelopes ops)
    {task : PendingAgentTask} (pulled : task ∈ (planeAfter ops).pulledTasks) :
    (planeAfter ops).pulledTask task.envelope.envelopeId = some task :=
  lookup_of_pairwise (fun task : PendingAgentTask => task.envelope.envelopeId)
    (List.pairwise_append.mp h.tasks).1 pulled

theorem pulledTasks_grow (ops more : List Op) :
    (planeAfter ops).pulledTasks <+: (planeAfter (ops ++ more)).pulledTasks := by
  rw [planeAfter, planeAfter, exec_append]
  exact exec_invariant (I := fun plane => (planeAfter ops).pulledTasks <+: plane.pulledTasks)
    (fun plane op grown => grown.trans (call_step plane op).pulledTasks_grow) List.prefix_rfl more

/-- A task still offered to its node has not been pulled before. -/
theorem DistinctEnvelopes.pulledTask_of_offers {ops : List Op} (h : DistinctEnvelopes ops)
    {identity : AgentIdentity} {task : PendingAgentTask}
    (offered : Offers (planeAfter ops) identity task) :
    (planeAfter ops).pulledTask task.envelope.envelopeId = none := by
  refine List.find?_eq_none.mpr ?_
  intro earlier pulled same
  exact (List.pairwise_append.mp h.tasks).2.2 earlier pulled task (mem_of_lookup _ offered.queued)
    (of_decide_eq_true same)

/-- The run pulls the envelope for the agent at one point, and all that is handed
in under the envelope's nonce is the agent's result for it. -/
structure Entrusted (ops before rest : List Op) (identity : AgentIdentity) (pulledAt : Nat)
    (task : PendingAgentTask) : Prop where
  run : ops = before ++ .pullTask identity pulledAt :: rest
  distinct : DistinctEnvelopes ops
  pulled : (call perform (planeAfter before) (.pullTask identity pulledAt)).outcome =
    .ok (.pulled ⟨task.envelope, task.payload⟩)
  own : ∀ op ∈ ops, ∀ attempt, op.attempt = some attempt →
    attempt.submission.nonce = task.envelope.nonce → attempt.Honest identity task.envelope

section Submission

variable {ops before rest : List Op} {identity : AgentIdentity} {pulledAt : Nat}
  {task : PendingAgentTask} (entrusted : Entrusted ops before rest identity pulledAt task)
include entrusted

theorem Entrusted.offered : Offers (planeAfter before) identity task ∧
    (call perform (planeAfter before) (.pullTask identity pulledAt)).after =
      (planeAfter before).delivered task := by
  have step := call_step (planeAfter before) (.pullTask identity pulledAt)
  have pulled := entrusted.pulled
  generalize (call perform (planeAfter before) (.pullTask identity pulledAt)).outcome = outcome
    at step pulled
  generalize (call perform (planeAfter before) (.pullTask identity pulledAt)).after = after at step
  cases step with
  | @delivered _ _ taken guard =>
      obtain rfl : taken = task := by
        cases taken
        cases pulled
        rfl
      exact ⟨guard, rfl⟩
  | accepted attempted => cases attempted
  | _ => cases pulled

/-- The same run, stopped at a later point. -/
theorem Entrusted.upTo {between : List Op} (later : List Op) (h : rest = between ++ later) :
    Entrusted (before ++ .pullTask identity pulledAt :: between) before between identity pulledAt
      task where
  run := rfl
  distinct := by
    apply DistinctEnvelopes.of_append later
    simpa [entrusted.run, h] using entrusted.distinct
  pulled := entrusted.pulled
  own := by
    intro op hop
    refine entrusted.own op ?_
    rw [entrusted.run, h, ← List.cons_append, ← List.append_assoc]
    exact List.mem_append_left _ hop

theorem Entrusted.pulledTask :
    (planeAfter ops).pulledTask task.envelope.envelopeId = some task := by
  refine entrusted.distinct.pulledTask_of_mem ?_
  have grown := pulledTasks_grow (before ++ [.pullTask identity pulledAt]) rest
  rw [List.append_assoc, List.singleton_append, ← entrusted.run] at grown
  apply grown.subset
  have pulled := entrusted.offered.2
  rw [planeAfter, exec_append, exec, exec, pulled]
  exact List.mem_append_right _ List.mem_cons_self

theorem Entrusted.authenticated : (planeAfter ops).requireAgent identity = .ok () := by
  have stays := requireAgent_stays entrusted.offered.1.authenticated
    (.pullTask identity pulledAt :: rest) identity rfl
  rwa [if_pos rfl, ← entrusted.run] at stays

/-- Nobody can use the nonce before the pull, and after it only a result handed
in before the expiry does. -/
theorem Entrusted.unused
    (late : ∀ op ∈ rest, ∀ attempt, op.attempt = some attempt →
      attempt.submission.nonce = task.envelope.nonce →
        task.envelope.expiresAtUnixSeconds ≤ attempt.nowUnixSeconds) :
    task.envelope.nonce ∉ (planeAfter ops).acceptedResultNonces := by
  intro used
  rw [(acceptedOnce ops).nonces] at used
  obtain ⟨result, stored, nonce⟩ := List.mem_map.mp used
  obtain ⟨c, hc, attempt, attempted, rfl, compared, guard⟩ := mem_acceptedResults.mp stored
  obtain ⟨earlier, op, later, hops, rfl⟩ := (mem_history_iff perform).mp hc
  rw [call_op] at attempted
  rw [call_before] at guard
  have performed : op ∈ ops := by
    rw [hops]
    exact List.mem_append_right _ List.mem_cons_self
  have found := guard.pulled
  rw [(entrusted.own op performed attempt attempted nonce).envelopeId] at found
  have split := hops.symm.trans entrusted.run
  cases List.append_eq_append_iff.mp split with
  | inl early =>
      obtain ⟨between, rfl, -⟩ := early
      have distinct : DistinctEnvelopes (earlier ++ between) := by
        have whole := entrusted.distinct
        rw [entrusted.run] at whole
        exact whole.of_append
      obtain ⟨more, grown⟩ := pulledTasks_grow earlier between
      have unpulled := distinct.pulledTask_of_offers entrusted.offered.1
      rw [ControlPlane.pulledTask, ← grown, lookup_append_of_some _ found] at unpulled
      cases unpulled
  | inr after =>
      obtain ⟨between, rfl, tail⟩ := after
      cases between with
      | nil =>
          cases tail
          cases attempted
      | cons first between =>
          cases tail
          cases found.symm.trans (entrusted.upTo _ rfl).pulledTask
          have expired := late op (List.mem_append_right _ List.mem_cons_self) attempt attempted
            nonce
          exact absurd guard.unexpired (Nat.not_lt.mpr expired)

/-- What the agent hands in before the expiry, for the first time, is accepted. -/
theorem Entrusted.accepts
    (late : ∀ op ∈ rest, ∀ attempt, op.attempt = some attempt →
      attempt.submission.nonce = task.envelope.nonce →
        task.envelope.expiresAtUnixSeconds ≤ attempt.nowUnixSeconds)
    {attempt : SubmissionAttempt} (honest : attempt.Honest identity task.envelope)
    (unexpired : attempt.nowUnixSeconds < task.envelope.expiresAtUnixSeconds) :
    Accepts (planeAfter ops) attempt task where
  authenticated := by
    rw [honest.caller]
    exact entrusted.authenticated
  submitter := by rw [honest.nodeId, honest.caller, entrusted.offered.1.node]
  fresh := by
    rw [honest.nonce]
    exact entrusted.unused late
  pulled := by
    rw [honest.envelopeId]
    exact entrusted.pulledTask
  unexpired := unexpired
  taskId := honest.taskId.symm
  runId := honest.runId.symm
  nonce := honest.nonce.symm

/-- Once the nonce is used, the agent's attempts are refused as replays. -/
theorem Entrusted.replayed (used : task.envelope.nonce ∈ (planeAfter ops).acceptedResultNonces)
    {op : Op} {attempt : SubmissionAttempt} (attempted : op.attempt = some attempt)
    (honest : attempt.Honest identity task.envelope) :
    (call perform (planeAfter ops) op).outcome = .error .resultNonceReplay ∧
      SameLists (planeAfter ops) (call perform (planeAfter ops) op).after := by
  have node : attempt.submission.nodeId = attempt.identity.nodeId := by
    rw [honest.nodeId, honest.caller, entrusted.offered.1.node]
  have letIn : (planeAfter ops).requireAgent attempt.identity = .ok () := by
    rw [honest.caller]
    exact entrusted.authenticated
  have known : attempt.submission.nonce ∈ (planeAfter ops).acceptedResultNonces := by
    rw [honest.nonce]
    exact used
  have run : (submitResult attempt.identity attempt.submission attempt.nowUnixSeconds).run
      (planeAfter ops) = .error .resultNonceReplay ((planeAfter ops).logged
        (.agentResultRejected attempt.submission.envelopeId "result nonce replay")) := by
    simp only [submitResult, EStateM.run_bind, EStateM.run_get, letIn, run_ofExcept_ok, node,
      known, ne_eq, not_true_eq_false, if_false, if_true, run_auditResultRejection]
    rfl
  rw [call_of_refusal perform op (perform_of_attempt attempted) run]
  exact ⟨rfl, .logged _ _⟩

end Submission

/-- No honest result is lost. After the pull the agent's first result for the
envelope that is in time is accepted and kept, whatever is performed in between;
handing it in again is refused as a replay and changes no list. -/
theorem honest_result_kept {ops before between after : List Op} {identity : AgentIdentity}
    {pulledAt : Nat} {task : PendingAgentTask} {submit : Op} {attempt : SubmissionAttempt}
    (entrusted : Entrusted ops before (between ++ submit :: after) identity pulledAt task)
    (attempted : submit.attempt = some attempt)
    (honest : attempt.Honest identity task.envelope)
    (unexpired : attempt.nowUnixSeconds < task.envelope.expiresAtUnixSeconds)
    (first : ∀ op ∈ between, ∀ earlier, op.attempt = some earlier →
      earlier.submission.nonce = task.envelope.nonce →
        task.envelope.expiresAtUnixSeconds ≤ earlier.nowUnixSeconds) :
    let plane := planeAfter (before ++ .pullTask identity pulledAt :: between)
    (call perform plane submit).outcome = .ok submit.acknowledgement ∧
    (call perform plane submit).after.acceptedResults =
      plane.acceptedResults ++ [attempt.submission] ∧
    attempt.submission ∈ (planeAfter ops).acceptedResults ∧
    ∀ middle retry rest, after = middle ++ retry :: rest →
      ∀ again, retry.attempt = some again → again.submission.nonce = task.envelope.nonce →
        let later := planeAfter
          (before ++ .pullTask identity pulledAt :: (between ++ submit :: middle))
        (call perform later retry).outcome = .error .resultNonceReplay ∧
          SameLists later (call perform later retry).after := by
  have guard := (entrusted.upTo _ rfl).accepts first honest unexpired
  have accepted := call_of_answer perform submit (perform_of_attempt attempted)
    (submitResult_run guard)
  have stored : ∀ middle, attempt.submission ∈
      (planeAfter (before ++ .pullTask identity pulledAt ::
        (between ++ submit :: middle))).acceptedResults := by
    intro middle
    refine mem_acceptedResults.mpr ⟨call perform (planeAfter
      (before ++ .pullTask identity pulledAt :: between)) submit, ?_, attempt, ?_, rfl, task, ?_⟩
    · refine (mem_history_iff perform).mpr
        ⟨before ++ .pullTask identity pulledAt :: between, submit, middle, ?_, rfl⟩
      rw [List.append_assoc, List.cons_append]
    · rwa [call_op]
    · rwa [call_before]
  refine ⟨by rw [accepted], by rw [accepted]; rfl, ?_, ?_⟩
  · rw [entrusted.run]
    exact stored after
  · rintro middle retry rest rfl again retried sameNonce later
    have upTo : Entrusted _ before (between ++ submit :: middle) identity pulledAt task :=
      entrusted.upTo (retry :: rest) (by simp)
    have used : task.envelope.nonce ∈ later.acceptedResultNonces := by
      rw [(acceptedOnce _).nonces, ← honest.nonce]
      exact List.mem_map_of_mem (stored middle)
    have performed : retry ∈ ops := by
      rw [entrusted.run]
      simp
    exact upTo.replayed used retried (entrusted.own retry performed again retried sameNonce)

def enrollNode (node : String) : List Op := [
  .createEnrollmentToken ⟨node ++ "-token", node ++ "-secret", node, .linux, "root", 100, node⟩,
  .enrollAgent ⟨node ++ "-secret", node, .linux, node ++ "-fingerprint", "root", 1⟩]

def nodeTask (node : String) : PendingAgentTask where
  envelope := {
    envelopeId := node ++ "-envelope"
    runId := "run-1"
    taskId := "task-1"
    nodeId := node
    issuedAtUnixSeconds := 1
    expiresAtUnixSeconds := 100
    nonce := node ++ "-nonce"
    requiredCapabilities := []
    auditCorrelationId := "audit-1" }
  payload := .verify "check-1" "system:node"

/-- The agent of a node hands in its result. -/
def nodeAttempt (node : String) (now : Nat) : SubmissionAttempt where
  identity := ⟨node, node ++ "-fingerprint"⟩
  submission := {
    envelopeId := node ++ "-envelope"
    runId := "run-1"
    taskId := "task-1"
    nodeId := node
    nonce := node ++ "-nonce"
    status := .succeeded
    evidence := []
    auditCorrelationId := "audit-1" }
  nowUnixSeconds := now

def nodeSubmit (node : String) (now : Nat) : Op :=
  .submitResult (nodeAttempt node now).identity (nodeAttempt node now).submission now

theorem nodeAttempt_honest (node : String) (now : Nat) :
    (nodeAttempt node now).Honest ⟨node, node ++ "-fingerprint"⟩ (nodeTask node).envelope :=
  ⟨rfl, rfl, rfl, rfl, rfl, rfl⟩

/-- Two nodes; the first hands in late, then in time, then again from its spool, and
the second pulls and hands in between. -/
theorem honest_result_kept_interleaved :
    let before := enrollNode "a" ++ enrollNode "b" ++
      [.enqueueTask (nodeTask "a"), .enqueueTask (nodeTask "b")]
    let between : List Op := [nodeSubmit "a" 100, .pullTask ⟨"b", "b-fingerprint"⟩ 3,
      nodeSubmit "b" 4]
    let retry : Op := .replaySpool (nodeAttempt "a" 200).identity "spool-1"
      (nodeAttempt "a" 200).submission 200
    let ops := before ++ .pullTask ⟨"a", "a-fingerprint"⟩ 2 ::
      (between ++ nodeSubmit "a" 5 :: [retry])
    (nodeAttempt "a" 5).submission ∈ (planeAfter ops).acceptedResults ∧
      (call perform (planeAfter (before ++ .pullTask ⟨"a", "a-fingerprint"⟩ 2 ::
        (between ++ [nodeSubmit "a" 5]))) retry).outcome = .error .resultNonceReplay := by
  intro before between retry ops
  have attempts : ops.filterMap Op.attempt = [nodeAttempt "a" 100, nodeAttempt "b" 4,
      nodeAttempt "a" 5, nodeAttempt "a" 200] := rfl
  have entrusted : Entrusted ops before (between ++ nodeSubmit "a" 5 :: [retry])
      ⟨"a", "a-fingerprint"⟩ 2 (nodeTask "a") := by
    have distinct : DistinctEnvelopes ops :=
      List.pairwise_pair.mpr (by decide : "a-envelope" ≠ "b-envelope")
    refine ⟨rfl, distinct, rfl, ?_⟩
    intro op hop attempt attempted sameNonce
    have listed := List.mem_filterMap.mpr ⟨op, hop, attempted⟩
    rw [attempts] at listed
    simp only [List.mem_cons, List.not_mem_nil, or_false] at listed
    obtain rfl | rfl | rfl | rfl := listed
    · exact nodeAttempt_honest "a" 100
    · exact absurd sameNonce (by decide)
    · exact nodeAttempt_honest "a" 5
    · exact nodeAttempt_honest "a" 200
  have late : ∀ op ∈ between, ∀ earlier, op.attempt = some earlier →
      earlier.submission.nonce = (nodeTask "a").envelope.nonce →
        (nodeTask "a").envelope.expiresAtUnixSeconds ≤ earlier.nowUnixSeconds := by
    intro op hop attempt attempted sameNonce
    simp only [between, List.mem_cons, List.not_mem_nil, or_false] at hop
    obtain rfl | rfl | rfl := hop <;> cases attempted
    · exact Nat.le_refl _
    · exact absurd sameNonce (by decide)
  have kept := honest_result_kept entrusted rfl (nodeAttempt_honest "a" 5) (by decide) late
  obtain ⟨-, -, stored, refused⟩ := kept
  exact ⟨stored, (refused [] retry [] rfl _ rfl rfl).1⟩

end ControlPlane

end Runlane
