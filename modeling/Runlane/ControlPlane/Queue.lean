import Runlane.Lib.Fifo
import Runlane.ControlPlane.Steps

/-!
The task queue over whole runs.

Tasks for all nodes wait in one list, and what was pulled goes to another. For
each node the two lists hold a first-in-first-out queue of its own, so no task
is lost, handed out twice or overtaken. A pull looks at the oldest task of the
node only: when that one has expired the pull is refused and the task stays
where it is, in front of everything queued after it.
-/

namespace Runlane

namespace ControlPlane

open Calls KeyedList

/-- The tasks of a list that are addressed to the node. -/
def tasksFor (node : String) (tasks : List PendingAgentTask) : List PendingAgentTask :=
  tasks.filter fun task => decide (task.envelope.nodeId = node)

/-- The queue of one node. -/
def mailbox (plane : ControlPlane) (node : String) : Fifo PendingAgentTask :=
  Fifo.lane (fun task : PendingAgentTask => task.envelope.nodeId) plane.pulledTasks
    plane.pendingTasks node

theorem posted_mailbox (plane : ControlPlane) (node : String) :
    (plane.mailbox node).posted =
      tasksFor node plane.pulledTasks ++ tasksFor node plane.pendingTasks :=
  rfl

theorem Offers.oldest {plane : ControlPlane} {identity : AgentIdentity} {task : PendingAgentTask}
    (h : Offers plane identity task) :
    (plane.mailbox identity.nodeId).waiting.head? = some task := by
  rw [mailbox, Fifo.head?_lane]
  exact h.queued

theorem mailbox_delivered {plane : ControlPlane} {identity : AgentIdentity}
    {task : PendingAgentTask} (h : Offers plane identity task) (node : String) :
    (plane.delivered task).mailbox node =
      if node = identity.nodeId then (plane.mailbox node).take else plane.mailbox node := by
  have found := h.queued
  rw [← h.node] at found ⊢
  exact Fifo.lane_take (fun task : PendingAgentTask => task.envelope.nodeId) found node

/-- What a call does to the queue of a node. -/
def moved (node : String) (q : Fifo PendingAgentTask) :
    Op → Except RuntimeError Reply → Fifo PendingAgentTask
  | .enqueueTask task, _ => if node = task.envelope.nodeId then q.post task else q
  | .pullTask identity _, .ok _ => if node = identity.nodeId then q.take else q
  | _, _ => q

/-- The plane is a family of queues, one for each node. -/
theorem Step.mailbox {plane after : ControlPlane} {op : Op} {outcome : Except RuntimeError Reply}
    (h : Step plane op outcome after) (node : String) :
    after.mailbox node = moved node (plane.mailbox node) op outcome := by
  cases h with
  | enqueued task => exact Fifo.lane_post _ _ _ task node
  | delivered guard => exact mailbox_delivered guard node
  | accepted attempted | submissionRejected attempted | submissionRefused attempted =>
      cases op with
      | submitResult | replaySpool => rfl
      | _ => cases attempted
  | _ => rfl

def Op.enqueued : Op → List PendingAgentTask
  | .enqueueTask task => [task]
  | _ => []

theorem Step.posted {plane after : ControlPlane} {op : Op} {outcome : Except RuntimeError Reply}
    (h : Step plane op outcome after) (node : String) :
    (after.mailbox node).posted = (plane.mailbox node).posted ++ tasksFor node op.enqueued := by
  rw [h.mailbox]
  cases op with
  | enqueueTask task =>
      by_cases same : node = task.envelope.nodeId
      · simp [moved, tasksFor, Op.enqueued, same]
      · simp [moved, tasksFor, Op.enqueued, same, Ne.symm same]
  | pullTask identity now =>
      cases outcome with
      | ok reply =>
          by_cases same : node = identity.nodeId
          · simp [moved, tasksFor, Op.enqueued, same]
          · simp [moved, tasksFor, Op.enqueued, same]
      | error error => exact (List.append_nil _).symm
  | _ => exact (List.append_nil _).symm

theorem posted_eq_enqueued (ops : List Op) (node : String) :
    ((planeAfter ops).mailbox node).posted = tasksFor node (ops.flatMap Op.enqueued) := by
  let posted (plane : ControlPlane) := (plane.mailbox node).posted
  have step : ∀ plane op, posted (call perform plane op).after =
      posted plane ++ tasksFor node op.enqueued :=
    fun plane op => (call_step plane op).posted node
  rw [tasksFor, List.filter_flatMap]
  exact exec_log_op perform step empty ops

/-- The pull took the oldest task waiting for the caller's node, and that task
is unexpired. -/
structure TakesOldest (identity : AgentIdentity) (now : Nat)
    (c : Call RuntimeError ControlPlane Reply Op) (task : PendingAgentTask) : Prop where
  oldest : (tasksFor identity.nodeId c.before.pendingTasks).head? = some task
  unexpired : now < task.envelope.expiresAtUnixSeconds
  pulled : tasksFor identity.nodeId c.after.pulledTasks =
    tasksFor identity.nodeId c.before.pulledTasks ++ [task]
  pending : tasksFor identity.nodeId c.after.pendingTasks =
    (tasksFor identity.nodeId c.before.pendingTasks).tail

theorem Step.takesOldest {plane after : ControlPlane} {identity : AgentIdentity} {now : Nat}
    {reply : Reply} (h : Step plane (.pullTask identity now) (.ok reply) after) :
    ∃ task, reply = .pulled ⟨task.envelope, task.payload⟩ ∧
      TakesOldest identity now ⟨plane, .pullTask identity now, .ok reply, after⟩ task := by
  have moves := h.mailbox identity.nodeId
  simp only [moved, if_true] at moves
  cases h with
  | accepted attempted => cases attempted
  | @delivered _ _ task guard unexpired =>
      refine ⟨task, rfl, guard.oldest, unexpired, ?_, congrArg Fifo.waiting moves⟩
      have taken := congrArg Fifo.taken moves
      rw [Fifo.take, guard.oldest] at taken
      exact taken

/-- No task is lost, duplicated or reordered: for every node the pulled tasks
followed by the pending ones are the tasks enqueued for it. A successful pull
takes the oldest task that waits for the caller's node, and no pull, successful
or not, touches the queue of another node. -/
theorem tasks_conserved (ops : List Op) :
    (∀ node, tasksFor node (planeAfter ops).pulledTasks ++
        tasksFor node (planeAfter ops).pendingTasks =
      tasksFor node (ops.flatMap Op.enqueued)) ∧
    (∀ c ∈ history perform empty ops, ∀ identity now, c.op = .pullTask identity now →
      (∀ reply, c.outcome = .ok reply → ∃ task,
        reply = .pulled ⟨task.envelope, task.payload⟩ ∧ TakesOldest identity now c task) ∧
      ∀ node, node ≠ identity.nodeId →
        tasksFor node c.after.pulledTasks = tasksFor node c.before.pulledTasks ∧
        tasksFor node c.after.pendingTasks = tasksFor node c.before.pendingTasks) := by
  refine ⟨?_, ?_⟩
  · intro node
    rw [← posted_mailbox]
    exact posted_eq_enqueued ops node
  intro c hc identity now hop
  obtain ⟨before, op, outcome, after⟩ := c
  have step : Step before op outcome after := history_step hc
  cases hop
  refine ⟨?_, ?_⟩
  · intro reply houtcome
    cases houtcome
    exact step.takesOldest
  · intro node other
    have moves := step.mailbox node
    have same : moved node (before.mailbox node) (.pullTask identity now) outcome =
        before.mailbox node := by
      cases outcome with
      | ok reply => exact if_neg other
      | error error => rfl
    rw [same] at moves
    exact ⟨congrArg Fifo.taken moves, congrArg Fifo.waiting moves⟩

/-- The agent is let in, and an unexpired task waits for its node. -/
structure Due (plane : ControlPlane) (identity : AgentIdentity) (now : Nat) : Prop where
  authenticated : plane.requireAgent identity = .ok ()
  waiting : ∃ task ∈ plane.pendingTasks, task.envelope.nodeId = identity.nodeId ∧
    now < task.envelope.expiresAtUnixSeconds

def Delivers (plane : ControlPlane) (identity : AgentIdentity) (now : Nat) : Prop :=
  ∃ pulled after, (pullTask identity now).run plane = .ok pulled after ∧
    pulled.envelope.nodeId = identity.nodeId ∧ now < pulled.envelope.expiresAtUnixSeconds

/-- The oldest task that waits for the agent's node has expired, and an
unexpired one waits behind it. -/
structure Blocked (plane : ControlPlane) (identity : AgentIdentity) (now : Nat) : Prop
    extends Due plane identity now where
  expired : ∃ head, (tasksFor identity.nodeId plane.pendingTasks).head? = some head ∧
    head.envelope.expiresAtUnixSeconds ≤ now

theorem Due.offers {plane : ControlPlane} {identity : AgentIdentity} {now : Nat}
    (h : Due plane identity now) : ∃ head, Offers plane identity head := by
  obtain ⟨task, queued, node, -⟩ := h.waiting
  obtain ⟨head, oldest⟩ :=
    exists_of_mem (fun task : PendingAgentTask => task.envelope.nodeId) queued node
  exact ⟨head, h.authenticated, oldest⟩

/-- A due pull succeeds unless the oldest task of the node has expired. -/
theorem due_delivered_iff (ops : List Op) (identity : AgentIdentity) (now : Nat) :
    (Due (planeAfter ops) identity now → Delivers (planeAfter ops) identity now) ↔
      ¬ Blocked (planeAfter ops) identity now := by
  constructor
  · intro delivers blocked
    obtain ⟨pulled, after, run, -, -⟩ := delivers blocked.toDue
    obtain ⟨head, oldest, expired⟩ := blocked.expired
    obtain ⟨offered, guard⟩ := blocked.toDue.offers
    cases guard.oldest.symm.trans oldest
    rw [pullTask_expired guard expired] at run
    cases run
  · intro unblocked due
    obtain ⟨head, guard⟩ := due.offers
    have unexpired : now < head.envelope.expiresAtUnixSeconds := by
      by_contra expired
      exact unblocked ⟨due, head, guard.oldest, Nat.not_lt.mp expired⟩
    exact ⟨_, _, pullTask_run guard unexpired, guard.node, unexpired⟩

/-- An enrolled node with two queued tasks, of which the first expires early. -/
def expiredHead : List Op :=
  let envelope (id : String) (expiresAt : Nat) : AgentTaskEnvelope := {
    envelopeId := "envelope-" ++ id
    runId := "run-1"
    taskId := "task-" ++ id
    nodeId := "node-a"
    issuedAtUnixSeconds := 1
    expiresAtUnixSeconds := expiresAt
    nonce := "nonce-" ++ id
    requiredCapabilities := []
    auditCorrelationId := "audit-" ++ id }
  [ .createEnrollmentToken ⟨"token-1", "secret-1", "node-a", .linux, "root", 100, "enroll-1"⟩,
    .enrollAgent ⟨"secret-1", "node-a", .linux, "fingerprint-a", "root", 1⟩,
    .enqueueTask ⟨envelope "1" 10, .verify "check-1" "system:node/node-a"⟩,
    .enqueueTask ⟨envelope "2" 100, .verify "check-1" "system:node/node-a"⟩]

theorem expired_head_blocks :
    ¬ ∀ (ops : List Op) (identity : AgentIdentity) (now : Nat),
      Due (planeAfter ops) identity now → Delivers (planeAfter ops) identity now := by
  intro h
  have due : Due (planeAfter expiredHead) ⟨"node-a", "fingerprint-a"⟩ 50 := ⟨by decide, by decide⟩
  obtain ⟨pulled, after, run, -, -⟩ := h expiredHead ⟨"node-a", "fingerprint-a"⟩ 50 due
  cases run

end ControlPlane

end Runlane
