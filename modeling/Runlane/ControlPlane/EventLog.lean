import Runlane.ControlPlane.Refusals

/-!
The ledger as a log of the plane.

Five of the lists of a plane are logged: read in order, the events of one kind
say what the entries of one list are. An operation that fails leaves every list
as it was, and the ledger too, unless the refusal is itself an event.
-/

namespace Runlane

namespace ControlPlane

open Calls KeyedList

def eventId (sequence : Nat) : String :=
  s!"runtime-event-{sequence}"

theorem eventId_injective : Function.Injective eventId :=
  AuditLedger.labelled_injective "runtime-event-" fun _ => rfl

def createdToken : AuditEventKind → Option (String × String)
  | .enrollmentTokenCreated tokenId nodeId => some (tokenId, nodeId)
  | _ => none

def tokenEntry (token : EnrollmentToken) : String × String :=
  (token.tokenId, token.nodeId)

def enrolledAgent : AuditEventKind → Option (String × OperatingSystem)
  | .agentEnrolled nodeId os => some (nodeId, os)
  | _ => none

def agentEntry (agent : AgentIdentityRecord) : String × OperatingSystem :=
  (agent.nodeId, agent.os)

def pulledEnvelope : AuditEventKind → Option (String × String × String)
  | .agentTaskPulled envelopeId taskId nodeId => some (envelopeId, taskId, nodeId)
  | _ => none

def taskEntry (task : PendingAgentTask) : String × String × String :=
  (task.envelope.envelopeId, task.envelope.taskId, task.envelope.nodeId)

def acceptedResult : AuditEventKind → Option (String × String × String)
  | .agentResultAccepted envelopeId taskId nodeId => some (envelopeId, taskId, nodeId)
  | _ => none

def resultEntry (result : AgentResultSubmission) : String × String × String :=
  (result.envelopeId, result.taskId, result.nodeId)

def spooledResult : AuditEventKind → Option (String × SpoolReason)
  | .agentResultSpooled spoolId reason => some (spoolId, reason)
  | _ => none

def spoolEntry (spool : LocalSpoolItem) : String × SpoolReason :=
  (spool.spoolId, spool.reason)

def isRejection : AuditEventKind → Bool
  | .agentTaskRejected _ _ | .agentResultRejected _ _ => true
  | _ => false

/-- The ledger is numbered, and mirrors the logged lists. -/
structure Faithful (plane : ControlPlane) : Prop where
  numbered : plane.ledger.Numbered eventId
  tokens : plane.ledger.project createdToken = plane.enrollmentTokens.map tokenEntry
  agents : plane.ledger.project enrolledAgent = plane.agents.map agentEntry
  pulled : plane.ledger.project pulledEnvelope = plane.pulledTasks.map taskEntry
  accepted : plane.ledger.project acceptedResult = plane.acceptedResults.map resultEntry
  spooled : plane.ledger.project spooledResult = plane.spooledResults.map spoolEntry

theorem Faithful.empty : Faithful empty :=
  ⟨.empty, rfl, rfl, rfl, rfl, rfl⟩

/-- One event is logged, and each list grows by the entry that the event is about. -/
theorem Faithful.extend {plane after : ControlPlane} {kind : AuditEventKind}
    (faithful : Faithful plane) (ledger : after.ledger = (plane.logged kind).ledger)
    (tokens : after.enrollmentTokens.map tokenEntry =
      plane.enrollmentTokens.map tokenEntry ++ (createdToken kind).toList)
    (agents : after.agents.map agentEntry =
      plane.agents.map agentEntry ++ (enrolledAgent kind).toList)
    (pulled : after.pulledTasks.map taskEntry =
      plane.pulledTasks.map taskEntry ++ (pulledEnvelope kind).toList)
    (accepted : after.acceptedResults.map resultEntry =
      plane.acceptedResults.map resultEntry ++ (acceptedResult kind).toList)
    (spooled : after.spooledResults.map spoolEntry =
      plane.spooledResults.map spoolEntry ++ (spooledResult kind).toList) : Faithful after where
  numbered := by
    rw [ledger]
    exact faithful.numbered.record "runtime" kind
  tokens := by rw [ledger, logged, AuditLedger.project_record, faithful.tokens, tokens]
  agents := by rw [ledger, logged, AuditLedger.project_record, faithful.agents, agents]
  pulled := by rw [ledger, logged, AuditLedger.project_record, faithful.pulled, pulled]
  accepted := by rw [ledger, logged, AuditLedger.project_record, faithful.accepted, accepted]
  spooled := by rw [ledger, logged, AuditLedger.project_record, faithful.spooled, spooled]

theorem Faithful.step {plane after : ControlPlane} {op : Op} {outcome : Except RuntimeError Reply}
    (faithful : Faithful plane) (h : Step plane op outcome after) : Faithful after := by
  have same {α : Type} {entries : List α} : entries = entries ++ [] :=
    (List.append_nil entries).symm
  cases h with
  | tokenCreated => exact faithful.extend rfl List.map_append same same same same
  | enrolled => exact faithful.extend rfl same List.map_append same same same
  | delivered => exact faithful.extend rfl same same List.map_append same same
  | accepted => exact faithful.extend rfl same same same List.map_append same
  | spooled => exact faithful.extend rfl same same same same List.map_append
  | deliveryExpired | submissionRejected => exact faithful.extend rfl same same same same same
  | enqueued =>
      exact ⟨faithful.numbered, faithful.tokens, faithful.agents, faithful.pulled,
        faithful.accepted, faithful.spooled⟩
  | enrollmentRefused | deliveryRefused | submissionRefused => exact faithful

theorem faithful (ops : List Op) : Faithful (planeAfter ops) :=
  exec_invariant (fun plane op faithful => faithful.step (call_step plane op)) .empty ops

/-- The two planes agree on everything but the ledger. -/
structure SameLists (plane after : ControlPlane) : Prop where
  enrollmentTokens : after.enrollmentTokens = plane.enrollmentTokens
  agents : after.agents = plane.agents
  pendingTasks : after.pendingTasks = plane.pendingTasks
  pulledTasks : after.pulledTasks = plane.pulledTasks
  acceptedResultNonces : after.acceptedResultNonces = plane.acceptedResultNonces
  acceptedResults : after.acceptedResults = plane.acceptedResults
  spooledResults : after.spooledResults = plane.spooledResults

theorem SameLists.refl (plane : ControlPlane) : SameLists plane plane :=
  ⟨rfl, rfl, rfl, rfl, rfl, rfl, rfl⟩

theorem SameLists.logged (plane : ControlPlane) (kind : AuditEventKind) :
    SameLists plane (plane.logged kind) :=
  ⟨rfl, rfl, rfl, rfl, rfl, rfl, rfl⟩

theorem Step.atomic {plane after : ControlPlane} {op : Op} {error : RuntimeError}
    (h : Step plane op (.error error) after) :
    SameLists plane after ∧ (after.ledger = plane.ledger ∨ ∃ event, isRejection event.kind ∧
      after.ledger.events = plane.ledger.events ++ [event]) := by
  cases h with
  | enrollmentRefused | deliveryRefused | submissionRefused =>
      exact ⟨.refl plane, .inl rfl⟩
  | deliveryExpired | submissionRejected =>
      exact ⟨.logged plane _, .inr ⟨_, rfl, rfl⟩⟩

/-- The ledger is numbered from one on under distinct ids, and its events of each
logged kind are the entries of one list. A call that fails changes no list and
appends at most a rejection, and no call fails on account of the ledger. -/
theorem event_log_faithful (ops : List Op) :
    Faithful (planeAfter ops) ∧ ((planeAfter ops).ledger.events.map AuditEvent.id).Nodup ∧
    ∀ c ∈ history perform empty ops, ∀ error, c.outcome = .error error →
      SameLists c.before c.after ∧
      (c.after.ledger = c.before.ledger ∨ ∃ event, isRejection event.kind ∧
        c.after.ledger.events = c.before.ledger.events ++ [event]) ∧
      ∀ append, error ≠ .auditAppend append := by
  refine ⟨faithful ops, (faithful ops).numbered.ids_nodup eventId_injective, ?_⟩
  intro c hc error failed
  have step := history_step hc
  rw [failed] at step
  obtain ⟨lists, ledger⟩ := step.atomic
  have outcome : (call perform c.before c.op).outcome = .error error := by
    rw [← eq_call_of_mem hc]
    exact failed
  exact ⟨lists, ledger, (call_refusal outcome).ne_auditAppend⟩

/-- One event is appended: the envelope was accepted if the submission succeeds, and
rejected if it fails. -/
def AuditedOnce (plane : ControlPlane) (attempt : SubmissionAttempt) : Prop :=
  match (submitResult attempt.identity attempt.submission attempt.nowUnixSeconds).run plane with
  | .ok _ after => ∃ event taskId nodeId,
      after.ledger.events = plane.ledger.events ++ [event] ∧
      event.kind = .agentResultAccepted attempt.submission.envelopeId taskId nodeId
  | .error _ after => ∃ event reason,
      after.ledger.events = plane.ledger.events ++ [event] ∧
      event.kind = .agentResultRejected attempt.submission.envelopeId reason

theorem auditedOnce_of_accepts {plane : ControlPlane} {attempt : SubmissionAttempt}
    {task : PendingAgentTask} (h : Accepts plane attempt task) : AuditedOnce plane attempt := by
  rw [AuditedOnce, submitResult_run h]
  exact ⟨_, attempt.submission.taskId, attempt.submission.nodeId, rfl, rfl⟩

/-- The one refusal of a known agent that is not recorded is that of an envelope nobody
pulled, sent by its own node with an unused nonce. -/
theorem submission_audited_iff (ops : List Op) (attempt : SubmissionAttempt)
    (authenticated : (planeAfter ops).requireAgent attempt.identity = .ok ()) :
    AuditedOnce (planeAfter ops) attempt ↔
      ¬ (attempt.submission.nodeId = attempt.identity.nodeId ∧
        attempt.submission.nonce ∉ (planeAfter ops).acceptedResultNonces ∧
        ∀ task ∈ (planeAfter ops).pulledTasks,
          task.envelope.envelopeId ≠ attempt.submission.envelopeId) := by
  generalize planeAfter ops = plane at authenticated ⊢
  have silent := untraced_iff authenticated
  rw [pulledTask, lookup_eq_none_iff] at silent
  rw [← silent]
  by_cases guard : ∃ task, Accepts plane attempt task
  · obtain ⟨task, guard⟩ := guard
    have known : ¬ Untraced plane attempt := by
      intro untraced
      exact (silent.mp untraced).2.2 task (mem_of_lookup _ guard.pulled) guard.envelopeId
    exact iff_of_true (auditedOnce_of_accepts guard) known
  · have guard := not_exists.mp guard
    obtain ⟨error, after, refused, trace⟩ := submitResult_refused guard
    rw [AuditedOnce, refused]
    cases trace with
    | inl silently =>
        obtain ⟨untraced, rfl⟩ := silently
        refine iff_of_false ?_ (not_not_intro untraced)
        rintro ⟨event, reason, appended, -⟩
        cases List.self_eq_append_right.mp appended
    | inr recorded =>
        obtain ⟨traced, reason, rfl⟩ := recorded
        exact iff_of_true ⟨_, reason, rfl, rfl⟩ traced

/-- An enrolled node that was sent nothing. -/
def idleNode : List Op := [
  .createEnrollmentToken ⟨"token-1", "secret-1", "node-a", .linux, "root", 100, "enroll-1"⟩,
  .enrollAgent ⟨"secret-1", "node-a", .linux, "fingerprint-a", "root", 1⟩]

/-- The node submits a result for the envelope, in the name of `nodeId`. -/
def idleAttempt (nodeId : String) : SubmissionAttempt where
  identity := ⟨"node-a", "fingerprint-a"⟩
  submission := {
    envelopeId := "envelope-1"
    runId := "run-1"
    taskId := "task-1"
    nodeId := nodeId
    nonce := "nonce-1"
    status := .succeeded
    evidence := []
    auditCorrelationId := "audit-1" }
  nowUnixSeconds := 5

theorem submission_audited_foreign :
    (planeAfter idleNode).requireAgent (idleAttempt "node-b").identity = .ok () ∧
      AuditedOnce (planeAfter idleNode) (idleAttempt "node-b") :=
  ⟨rfl, (submission_audited_iff idleNode (idleAttempt "node-b") rfl).mpr (by decide)⟩

theorem unknown_envelope_unaudited :
    ¬ ∀ (ops : List Op) (attempt : SubmissionAttempt),
      (planeAfter ops).requireAgent attempt.identity = .ok () →
        AuditedOnce (planeAfter ops) attempt := by
  intro h
  obtain ⟨event, reason, appended, -⟩ := h idleNode (idleAttempt "node-a") rfl
  rw [List.self_eq_append_right] at appended
  cases appended

end ControlPlane

end Runlane
