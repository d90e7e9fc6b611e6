import Runlane.ControlPlane.Queue

/-!
Tasks delivered twice.

The check of an envelope refuses a nonce that was seen before, but a pull hands it
an empty list of seen nonces. So a task that is queued again is delivered again,
and the deliveries to a node are apart only as long as no nonce is queued for it
twice.
-/

namespace Runlane

namespace ControlPlane

open Calls KeyedList

/-- The nonces of the tasks that were pulled for the node. -/
def pulledNonces (node : String) (plane : ControlPlane) : List String :=
  (tasksFor node plane.pulledTasks).map fun task => task.envelope.nonce

/-- The nonce that the call delivers to the node, if it does. -/
def deliveredBy (node : String) (c : Call RuntimeError ControlPlane Reply Op) : List String :=
  match c.op, c.outcome with
  | .pullTask identity _, .ok (.pulled task) =>
      if identity.nodeId = node then [task.envelope.nonce] else []
  | _, _ => []

def deliveredNonces (node : String) (calls : List (Call RuntimeError ControlPlane Reply Op)) :
    List String :=
  calls.flatMap (deliveredBy node)

theorem Step.pulledNonces {plane after : ControlPlane} {op : Op}
    {outcome : Except RuntimeError Reply} (h : Step plane op outcome after) (node : String) :
    after.pulledNonces node =
      plane.pulledNonces node ++ deliveredBy node ⟨plane, op, outcome, after⟩ := by
  cases h with
  | @delivered identity now task guard unexpired =>
      by_cases own : identity.nodeId = node
      · simp [ControlPlane.pulledNonces, tasksFor, ControlPlane.delivered, deliveredBy, own,
          guard.node]
      · simp [ControlPlane.pulledNonces, tasksFor, ControlPlane.delivered, deliveredBy, own,
          guard.node]
  | accepted attempted | submissionRejected attempted | submissionRefused attempted =>
      cases op with
      | submitResult | replaySpool => exact (List.append_nil _).symm
      | _ => cases attempted
  | _ => exact (List.append_nil _).symm

theorem pulledNonces_eq (ops : List Op) (node : String) :
    (planeAfter ops).pulledNonces node = deliveredNonces node (history perform empty ops) := by
  have logged : ∀ plane op, (call perform plane op).after.pulledNonces node =
      plane.pulledNonces node ++ deliveredBy node (call perform plane op) := by
    intro plane op
    rw [(call_step plane op).pulledNonces node]
    simp only [deliveredBy, call_op]
  exact exec_log perform logged empty ops

/-- What a call finds delivered is what the calls before it delivered. -/
theorem pulledNonces_before {ops : List Op}
    {earlier later : List (Call RuntimeError ControlPlane Reply Op)}
    {c : Call RuntimeError ControlPlane Reply Op}
    (split : history perform empty ops = earlier ++ c :: later) (node : String) :
    c.before.pulledNonces node = deliveredNonces node earlier := by
  obtain ⟨before, op, after, -, rfl, rfl⟩ := history_split split
  rw [call_before]
  exact pulledNonces_eq before node

/-- The task that the agent would be handed carries a nonce that its node was sent before. -/
structure Redelivers (plane : ControlPlane) (identity : AgentIdentity)
    (task : PendingAgentTask) : Prop extends Offers plane identity task where
  seen : task.envelope.nonce ∈ plane.pulledNonces identity.nodeId

structure NoReplayedDelivery (ops : List Op) : Prop where
  distinct : ∀ node, (deliveredNonces node (history perform empty ops)).Nodup
  refused : ∀ earlier c later, history perform empty ops = earlier ++ c :: later →
    ∀ identity now task, c.op = .pullTask identity now → Offers c.before identity task →
      task.envelope.nonce ∈ deliveredNonces identity.nodeId earlier →
      c.outcome = .error (.taskEnvelopeRejected .replayedNonce)

/-- A pull is never refused as replayed. -/
theorem Step.not_replayed {plane after : ControlPlane} {identity : AgentIdentity} {now : Nat}
    {task : PendingAgentTask} (offers : Offers plane identity task) :
    ¬ Step plane (.pullTask identity now) (.error (.taskEnvelopeRejected .replayedNonce))
      after := by
  intro h
  cases h with
  | deliveryRefused guard => exact guard task offers
  | submissionRejected attempted | submissionRefused attempted => cases attempted

/-- The deliveries to a node stay apart as long as no pull redelivers. -/
theorem Step.pulledNonces_nodup {plane after : ControlPlane} {op : Op}
    {outcome : Except RuntimeError Reply} (h : Step plane op outcome after)
    (fresh : ∀ identity now task, op = .pullTask identity now → ¬ Redelivers plane identity task)
    {node : String} (distinct : (plane.pulledNonces node).Nodup) :
    (after.pulledNonces node).Nodup := by
  have grown := h.pulledNonces node
  cases h with
  | @delivered identity now task guard unexpired =>
      rw [grown, deliveredBy]
      by_cases own : identity.nodeId = node
      · have unseen : task.envelope.nonce ∉ plane.pulledNonces node := by
          intro seen
          rw [← own] at seen
          exact fresh identity now task rfl ⟨guard, seen⟩
        simp only [own, if_true]
        exact List.nodup_append_comm.mp (List.nodup_cons.mpr ⟨unseen, distinct⟩)
      · simpa [own] using distinct
  | _ => exact distinct

/-- No task is delivered twice, exactly in the runs where no pull finds a nonce at the
head of its node's queue that was delivered to this node before. -/
theorem no_replayed_delivery_iff (ops : List Op) :
    NoReplayedDelivery ops ↔
      ∀ c ∈ history perform empty ops, ∀ identity now task,
        c.op = .pullTask identity now → ¬ Redelivers c.before identity task := by
  constructor
  · intro safe c hc identity now task hop redelivers
    obtain ⟨earlier, later, split⟩ := List.append_of_mem hc
    have seen := redelivers.seen
    rw [pulledNonces_before split] at seen
    have refused := safe.refused _ _ _ split identity now task hop redelivers.toOffers seen
    have step := history_step hc
    rw [hop, refused] at step
    exact Step.not_replayed redelivers.toOffers step
  · intro fresh
    constructor
    · intro node
      rw [← pulledNonces_eq]
      have step : ∀ c ∈ history perform empty ops,
          (c.before.pulledNonces node).Nodup → (c.after.pulledNonces node).Nodup :=
        fun c hc => (history_step hc).pulledNonces_nodup (fresh c hc)
      exact (history_induction (I := fun plane => (pulledNonces node plane).Nodup) step
        List.nodup_nil).2
    · intro earlier c later split identity now task hop offers seen
      have hc : c ∈ history perform empty ops := by rw [split]; simp
      rw [← pulledNonces_before split] at seen
      exact absurd ⟨offers, seen⟩ (fresh c hc identity now task hop)

/-- A node that is enrolled, sent the same task twice, and asks twice. -/
def repeatedTask : List Op :=
  let task : PendingAgentTask := {
    envelope := {
      envelopeId := "envelope-1"
      runId := "run-1"
      taskId := "task-1"
      nodeId := "node-a"
      issuedAtUnixSeconds := 1
      expiresAtUnixSeconds := 100
      nonce := "nonce-1"
      requiredCapabilities := []
      auditCorrelationId := "audit-1" }
    payload := .verify "check-1" "system:node/node-a" }
  [ .createEnrollmentToken ⟨"token-1", "secret-1", "node-a", .linux, "root", 100, "enroll-1"⟩,
    .enrollAgent ⟨"secret-1", "node-a", .linux, "fingerprint-a", "root", 1⟩,
    .enqueueTask task, .pullTask ⟨"node-a", "fingerprint-a"⟩ 10,
    .enqueueTask task, .pullTask ⟨"node-a", "fingerprint-a"⟩ 20]

theorem repeated_task_redelivered : ¬ ∀ ops, NoReplayedDelivery ops := by
  intro h
  have distinct := (h repeatedTask).distinct "node-a"
  have delivered : deliveredNonces "node-a" (history perform empty repeatedTask) =
      ["nonce-1", "nonce-1"] := by decide
  rw [delivered] at distinct
  simp at distinct

end ControlPlane

end Runlane
