import Runlane.ControlPlane.Operations

/-!
What one call on the control plane can do.

Each operation that can refuse has its guard here, a structure with one field
for each check, and two equations: the run under the guard, and the run without
it. `Step` collects them. Everything said of runs later goes through `Step`, so
the bodies of the operations are opened in this module only.
-/

namespace Runlane

namespace ControlPlane

open Calls KeyedList

/-- The plane with one more audit event. -/
def logged (plane : ControlPlane) (kind : AuditEventKind) : ControlPlane :=
  { plane with
    ledger := plane.ledger.record s!"runtime-event-{plane.ledger.nextSequence}" "runtime" kind }

@[simp] theorem run_appendEvent (plane : ControlPlane) (kind : AuditEventKind) :
    (appendEvent kind).run plane = .ok () (plane.logged kind) := by
  simp [appendEvent, AuditLedger.append_next, logged]

@[simp] theorem run_auditResultRejection (plane : ControlPlane)
    (submission : AgentResultSubmission) (reason : String) :
    (auditResultRejection submission reason).run plane =
      .ok () (plane.logged (.agentResultRejected submission.envelopeId reason)) :=
  run_appendEvent _ _

structure Enrolls (plane : ControlPlane) (request : AgentEnrollmentRequest)
    (token : EnrollmentToken) : Prop where
  issued : lookup EnrollmentToken.token plane.enrollmentTokens request.token = some token
  unexpired : request.nowUnixSeconds < token.expiresAtUnixSeconds
  node : token.nodeId = request.nodeId
  os : token.os = request.os
  trustRoot : token.serverTrustRoot = request.serverTrustRoot

def enrolled (plane : ControlPlane) (record : AgentIdentityRecord) : ControlPlane :=
  { plane.logged (.agentEnrolled record.nodeId record.os) with agents := plane.agents ++ [record] }

theorem enrollAgent_run {plane : ControlPlane} {request : AgentEnrollmentRequest}
    {token : EnrollmentToken} (h : Enrolls plane request token) :
    ∃ record : AgentIdentityRecord,
      record = ⟨request.nodeId, request.os, request.certificateFingerprint,
        request.serverTrustRoot⟩ ∧
      (enrollAgent request).run plane = .ok record (plane.enrolled record) := by
  refine ⟨_, rfl, ?_⟩
  simp only [enrollAgent, EStateM.run_bind, EStateM.run_get, h.issued, run_okOr_some,
    Nat.not_le.mpr h.unexpired, h.node, h.os, h.trustRoot, ne_eq, not_true_eq_false, if_false,
    run_appendEvent, EStateM.run_modify, EStateM.run_pure]
  rfl

theorem enrollAgent_refused {plane : ControlPlane} {request : AgentEnrollmentRequest}
    (h : ∀ token, ¬ Enrolls plane request token) :
    ∃ error, (enrollAgent request).run plane = .error error plane := by
  simp only [enrollAgent, EStateM.run_bind, EStateM.run_get]
  cases issued : lookup EnrollmentToken.token plane.enrollmentTokens request.token with
  | none => exact ⟨_, rfl⟩
  | some token =>
      simp only [run_okOr_some]
      split_ifs with expired node os trustRoot
      · exact ⟨_, rfl⟩
      · exact ⟨_, rfl⟩
      · exact ⟨_, rfl⟩
      · exact ⟨_, rfl⟩
      · exact absurd ⟨issued, Nat.not_le.mp expired, not_not.mp node, not_not.mp os,
          not_not.mp trustRoot⟩ (h token)

/-- The agent is let in, and this is the oldest task queued for its node. -/
structure Offers (plane : ControlPlane) (identity : AgentIdentity)
    (task : PendingAgentTask) : Prop where
  authenticated : plane.requireAgent identity = .ok ()
  queued : lookup (fun task : PendingAgentTask => task.envelope.nodeId) plane.pendingTasks
    identity.nodeId = some task

theorem Offers.node {plane : ControlPlane} {identity : AgentIdentity} {task : PendingAgentTask}
    (h : Offers plane identity task) : task.envelope.nodeId = identity.nodeId :=
  key_of_lookup (fun task : PendingAgentTask => task.envelope.nodeId) h.queued

def delivered (plane : ControlPlane) (task : PendingAgentTask) : ControlPlane :=
  { plane.logged (.agentTaskPulled task.envelope.envelopeId task.envelope.taskId
      task.envelope.nodeId) with
    pendingTasks := plane.pendingTasks.eraseP fun queued =>
      decide (queued.envelope.nodeId = task.envelope.nodeId)
    pulledTasks := plane.pulledTasks ++ [task] }

section Delivery

variable {plane : ControlPlane} {identity : AgentIdentity} {now : Nat} {task : PendingAgentTask}

theorem pullTask_run (h : Offers plane identity task)
    (unexpired : now < task.envelope.expiresAtUnixSeconds) :
    (pullTask identity now).run plane =
      .ok ⟨task.envelope, task.payload⟩ (plane.delivered task) := by
  obtain ⟨index, found, rfl⟩ := findFinIdx_of_lookup h.queued
  obtain ⟨accepted, valid⟩ : ∃ accepted, validateAgentTaskEnvelope
      plane.pendingTasks[index].envelope ⟨identity.nodeId, now, []⟩ = .ok accepted :=
    validateAgentTaskEnvelope_isOk.mpr ⟨h.node, unexpired, List.not_mem_nil⟩
  have taken := eraseIdx_findFinIdx found
  rw [← h.node] at taken
  simp only [Fin.getElem_fin] at taken
  simp only [pullTask, EStateM.run_bind, EStateM.run_get, h.authenticated, run_ofExcept_ok, found,
    run_okOr_some, valid, EStateM.run_modify, run_appendEvent, EStateM.run_pure, taken]
  rfl

/-- An expired task stays at the head of its node's queue. -/
theorem pullTask_expired (h : Offers plane identity task)
    (expired : task.envelope.expiresAtUnixSeconds ≤ now) :
    (pullTask identity now).run plane = .error (.taskEnvelopeRejected .expiredEnvelope)
      (plane.logged (.agentTaskRejected identity.nodeId
        AgentTaskRejection.expiredEnvelope.debug)) := by
  obtain ⟨index, found, rfl⟩ := findFinIdx_of_lookup h.queued
  have invalid : validateAgentTaskEnvelope plane.pendingTasks[index].envelope
      ⟨identity.nodeId, now, []⟩ = .error .expiredEnvelope := by
    rw [validateAgentTaskEnvelope, if_neg (not_not.mpr h.node), if_pos expired]
  simp only [pullTask, EStateM.run_bind, EStateM.run_get, h.authenticated, run_ofExcept_ok, found,
    run_okOr_some, invalid, run_appendEvent]
  rfl

theorem pullTask_refused (now : Nat) (h : ∀ task, ¬ Offers plane identity task) :
    ∃ error, (pullTask identity now).run plane = .error error plane := by
  simp only [pullTask, EStateM.run_bind, EStateM.run_get]
  cases authenticated : plane.requireAgent identity with
  | error error => exact ⟨error, rfl⟩
  | ok done =>
      simp only [run_ofExcept_ok]
      cases found : plane.pendingTasks.findFinIdx? fun task =>
          decide (task.envelope.nodeId = identity.nodeId) with
      | none => exact ⟨.noTaskAvailable, rfl⟩
      | some index => exact absurd ⟨authenticated, lookup_of_findFinIdx found⟩ (h _)

end Delivery

/-- What a submission or a spool replay hands to the plane. -/
structure SubmissionAttempt where
  identity : AgentIdentity
  submission : AgentResultSubmission
  nowUnixSeconds : Nat

/-- The pulled task that a result for this envelope is compared with. -/
abbrev pulledTask (plane : ControlPlane) (envelopeId : String) : Option PendingAgentTask :=
  lookup (fun task : PendingAgentTask => task.envelope.envelopeId) plane.pulledTasks envelopeId

structure Accepts (plane : ControlPlane) (attempt : SubmissionAttempt)
    (task : PendingAgentTask) : Prop where
  authenticated : plane.requireAgent attempt.identity = .ok ()
  submitter : attempt.submission.nodeId = attempt.identity.nodeId
  fresh : attempt.submission.nonce ∉ plane.acceptedResultNonces
  pulled : plane.pulledTask attempt.submission.envelopeId = some task
  unexpired : attempt.nowUnixSeconds < task.envelope.expiresAtUnixSeconds
  taskId : task.envelope.taskId = attempt.submission.taskId
  runId : task.envelope.runId = attempt.submission.runId
  nonce : task.envelope.nonce = attempt.submission.nonce

theorem Accepts.envelopeId {plane : ControlPlane} {attempt : SubmissionAttempt}
    {task : PendingAgentTask} (h : Accepts plane attempt task) :
    task.envelope.envelopeId = attempt.submission.envelopeId :=
  key_of_lookup (fun task : PendingAgentTask => task.envelope.envelopeId) h.pulled

def accepted (plane : ControlPlane) (submission : AgentResultSubmission) : ControlPlane :=
  { plane.logged (.agentResultAccepted submission.envelopeId submission.taskId
      submission.nodeId) with
    acceptedResultNonces := plane.acceptedResultNonces ++ [submission.nonce]
    acceptedResults := plane.acceptedResults ++ [submission] }

theorem submitResult_run {plane : ControlPlane} {attempt : SubmissionAttempt}
    {task : PendingAgentTask} (h : Accepts plane attempt task) :
    (submitResult attempt.identity attempt.submission attempt.nowUnixSeconds).run plane =
      .ok () (plane.accepted attempt.submission) := by
  simp only [submitResult, EStateM.run_bind, EStateM.run_get, h.authenticated, run_ofExcept_ok,
    h.submitter, h.fresh, h.pulled, run_okOr_some, Nat.not_le.mpr h.unexpired, h.taskId, h.runId,
    h.nonce, ne_eq, not_true_eq_false, if_false, run_appendEvent, EStateM.run_modify]
  simp only [accepted, logged, h.submitter]

/-- The refusals that leave no audit event: an agent that is not let in, and an
envelope that nobody pulled. -/
def Untraced (plane : ControlPlane) (attempt : SubmissionAttempt) : Prop :=
  plane.requireAgent attempt.identity ≠ .ok () ∨
    (attempt.submission.nodeId = attempt.identity.nodeId ∧
      attempt.submission.nonce ∉ plane.acceptedResultNonces ∧
      plane.pulledTask attempt.submission.envelopeId = none)

theorem untraced_iff {plane : ControlPlane} {attempt : SubmissionAttempt}
    (authenticated : plane.requireAgent attempt.identity = .ok ()) :
    Untraced plane attempt ↔
      attempt.submission.nodeId = attempt.identity.nodeId ∧
        attempt.submission.nonce ∉ plane.acceptedResultNonces ∧
        plane.pulledTask attempt.submission.envelopeId = none := by
  simp [Untraced, authenticated]

theorem run_rejection (plane : ControlPlane) (submission : AgentResultSubmission) (reason : String)
    (error : RuntimeError) :
    (do
      auditResultRejection submission reason
      throw error : Runtime Unit).run plane =
      .error error (plane.logged (.agentResultRejected submission.envelopeId reason)) := by
  simp only [EStateM.run_bind, run_auditResultRejection]
  rfl

/-- A refusal is recorded with its reason, or is one of the untraced kind. -/
theorem submitResult_refused {plane : ControlPlane} {attempt : SubmissionAttempt}
    (h : ∀ task, ¬ Accepts plane attempt task) :
    ∃ error after,
      (submitResult attempt.identity attempt.submission attempt.nowUnixSeconds).run plane =
        .error error after ∧
      ((Untraced plane attempt ∧ after = plane) ∨ (¬ Untraced plane attempt ∧ ∃ reason,
        after = plane.logged (.agentResultRejected attempt.submission.envelopeId reason))) := by
  have audited : ∀ (reason : String) (error : RuntimeError), ¬ Untraced plane attempt →
      ∃ error' after, (do
        auditResultRejection attempt.submission reason
        throw error : Runtime Unit).run plane = .error error' after ∧
      ((Untraced plane attempt ∧ after = plane) ∨ (¬ Untraced plane attempt ∧ ∃ reason,
        after = plane.logged (.agentResultRejected attempt.submission.envelopeId reason))) := by
    intro reason error traced
    exact ⟨error, _, run_rejection plane attempt.submission reason error,
      .inr ⟨traced, reason, rfl⟩⟩
  simp only [submitResult, EStateM.run_bind, EStateM.run_get]
  cases authenticated : plane.requireAgent attempt.identity with
  | error error =>
      have untraced : Untraced plane attempt := .inl (by simp [authenticated])
      exact ⟨error, plane, rfl, .inl ⟨untraced, rfl⟩⟩
  | ok done =>
      have silent := untraced_iff authenticated
      simp only [run_ofExcept_ok]
      split_ifs with submitter replay
      · exact audited _ _ fun untraced => submitter (silent.mp untraced).1
      · exact audited _ _ fun untraced => (silent.mp untraced).2.1 replay
      · simp only [EStateM.run_bind]
        cases pulled : lookup (fun task : PendingAgentTask => task.envelope.envelopeId)
            plane.pulledTasks attempt.submission.envelopeId with
        | none =>
            have untraced := silent.mpr ⟨not_not.mp submitter, replay, pulled⟩
            exact ⟨.unknownEnvelope, plane, rfl, .inl ⟨untraced, rfl⟩⟩
        | some task =>
            have traced : ¬ Untraced plane attempt := by
              intro untraced
              cases pulled.symm.trans (silent.mp untraced).2.2
            simp only [run_okOr_some]
            split_ifs with expired taskId runId nonce
            · exact audited _ _ traced
            · exact audited _ _ traced
            · exact audited _ _ traced
            · exact audited _ _ traced
            · exact absurd ⟨authenticated, not_not.mp submitter, replay, pulled,
                Nat.not_le.mp expired, not_not.mp taskId, not_not.mp runId, not_not.mp nonce⟩
                (h task)

def Op.attempt : Op → Option SubmissionAttempt
  | .submitResult identity submission now => some ⟨identity, submission, now⟩
  | .replaySpool identity _ result now => some ⟨identity, result, now⟩
  | _ => none

/-- What an accepted attempt is answered with. -/
def Op.acknowledgement : Op → Reply
  | .replaySpool _ spoolId _ _ => .replayed spoolId
  | _ => .done

def spooled (plane : ControlPlane) (spool : LocalSpoolItem) : ControlPlane :=
  { plane.logged (.agentResultSpooled spool.spoolId spool.reason) with
    spooledResults := plane.spooledResults ++ [spool] }

def tokenCreated (plane : ControlPlane) (token : EnrollmentToken) : ControlPlane :=
  { plane.logged (.enrollmentTokenCreated token.tokenId token.nodeId) with
    enrollmentTokens := plane.enrollmentTokens ++ [token] }

theorem createEnrollmentToken_run (plane : ControlPlane) (token : EnrollmentToken) :
    (createEnrollmentToken token).run plane = .ok () (plane.tokenCreated token) := by
  simp only [createEnrollmentToken, EStateM.run_bind, run_appendEvent, EStateM.run_modify]
  rfl

inductive Step (plane : ControlPlane) : Op → Except RuntimeError Reply → ControlPlane → Prop where
  | tokenCreated (token : EnrollmentToken) :
      Step plane (.createEnrollmentToken token) (.ok .done) (plane.tokenCreated token)
  | enrolled {request : AgentEnrollmentRequest} {token : EnrollmentToken}
      {record : AgentIdentityRecord} (guard : Enrolls plane request token)
      (same : record = ⟨request.nodeId, request.os, request.certificateFingerprint,
        request.serverTrustRoot⟩) :
      Step plane (.enrollAgent request) (.ok (.enrolled record)) (plane.enrolled record)
  | enrollmentRefused {request : AgentEnrollmentRequest} {error : RuntimeError}
      (guard : ∀ token, ¬ Enrolls plane request token) :
      Step plane (.enrollAgent request) (.error error) plane
  | enqueued (task : PendingAgentTask) :
      Step plane (.enqueueTask task) (.ok .done)
        { plane with pendingTasks := plane.pendingTasks ++ [task] }
  | delivered {identity : AgentIdentity} {now : Nat} {task : PendingAgentTask}
      (guard : Offers plane identity task)
      (unexpired : now < task.envelope.expiresAtUnixSeconds) :
      Step plane (.pullTask identity now) (.ok (.pulled ⟨task.envelope, task.payload⟩))
        (plane.delivered task)
  | deliveryExpired {identity : AgentIdentity} {now : Nat} {task : PendingAgentTask}
      (guard : Offers plane identity task)
      (expired : task.envelope.expiresAtUnixSeconds ≤ now) :
      Step plane (.pullTask identity now) (.error (.taskEnvelopeRejected .expiredEnvelope))
        (plane.logged (.agentTaskRejected identity.nodeId
          AgentTaskRejection.expiredEnvelope.debug))
  | deliveryRefused {identity : AgentIdentity} {now : Nat} {error : RuntimeError}
      (guard : ∀ task, ¬ Offers plane identity task) :
      Step plane (.pullTask identity now) (.error error) plane
  | accepted {op : Op} {attempt : SubmissionAttempt} {task : PendingAgentTask}
      (attempted : op.attempt = some attempt) (guard : Accepts plane attempt task) :
      Step plane op (.ok op.acknowledgement) (plane.accepted attempt.submission)
  | submissionRejected {op : Op} {attempt : SubmissionAttempt} {error : RuntimeError}
      {reason : String} (attempted : op.attempt = some attempt)
      (guard : ∀ task, ¬ Accepts plane attempt task) (traced : ¬ Untraced plane attempt) :
      Step plane op (.error error)
        (plane.logged (.agentResultRejected attempt.submission.envelopeId reason))
  | submissionRefused {op : Op} {attempt : SubmissionAttempt} {error : RuntimeError}
      (attempted : op.attempt = some attempt)
      (guard : ∀ task, ¬ Accepts plane attempt task) (untraced : Untraced plane attempt) :
      Step plane op (.error error) plane
  | spooled (spool : LocalSpoolItem) :
      Step plane (.spoolResult spool) (.ok (.spooled spool)) (plane.spooled spool)

/-- A direct submission and a spool replay run the same code. -/
theorem perform_of_attempt {op : Op} {attempt : SubmissionAttempt}
    (attempted : op.attempt = some attempt) :
    perform op = do
      submitResult attempt.identity attempt.submission attempt.nowUnixSeconds
      return op.acknowledgement := by
  cases op with
  | submitResult | replaySpool =>
      cases attempted
      rfl
  | _ => cases attempted

theorem submission_step {plane : ControlPlane} {op : Op} {attempt : SubmissionAttempt}
    (attempted : op.attempt = some attempt) :
    Step plane op (call perform plane op).outcome (call perform plane op).after := by
  by_cases guard : ∃ task, Accepts plane attempt task
  · obtain ⟨task, guard⟩ := guard
    rw [call_of_answer perform op (perform_of_attempt attempted) (submitResult_run guard)]
    exact .accepted attempted guard
  · have guard := not_exists.mp guard
    obtain ⟨error, after, refused, trace⟩ := submitResult_refused guard
    rw [call_of_refusal perform op (perform_of_attempt attempted) refused]
    cases trace with
    | inl silent =>
        rw [silent.2]
        exact .submissionRefused attempted guard silent.1
    | inr recorded =>
        obtain ⟨traced, reason, rfl⟩ := recorded
        exact .submissionRejected attempted guard traced

/-- The operations take these steps and no others. -/
theorem call_step (plane : ControlPlane) (op : Op) :
    Step plane op (call perform plane op).outcome (call perform plane op).after := by
  cases op with
  | createEnrollmentToken token =>
      rw [call_of_answer perform (.createEnrollmentToken token) rfl (createEnrollmentToken_run _ _)]
      exact .tokenCreated token
  | enrollAgent request =>
      by_cases guard : ∃ token, Enrolls plane request token
      · obtain ⟨token, guard⟩ := guard
        obtain ⟨record, same, enrolls⟩ := enrollAgent_run guard
        rw [call_of_answer perform (.enrollAgent request) rfl enrolls]
        exact .enrolled guard same
      · have guard := not_exists.mp guard
        obtain ⟨error, refused⟩ := enrollAgent_refused guard
        rw [call_of_refusal perform (.enrollAgent request) rfl refused]
        exact .enrollmentRefused guard
  | enqueueTask task =>
      exact .enqueued task
  | pullTask identity now =>
      by_cases guard : ∃ task, Offers plane identity task
      · obtain ⟨task, guard⟩ := guard
        cases Nat.lt_or_ge now task.envelope.expiresAtUnixSeconds with
        | inl unexpired =>
            rw [call_of_answer perform (.pullTask identity now) rfl (pullTask_run guard unexpired)]
            exact .delivered guard unexpired
        | inr expired =>
            rw [call_of_refusal perform (.pullTask identity now) rfl
              (pullTask_expired guard expired)]
            exact .deliveryExpired guard expired
      · have guard := not_exists.mp guard
        obtain ⟨error, refused⟩ := pullTask_refused now guard
        rw [call_of_refusal perform (.pullTask identity now) rfl refused]
        exact .deliveryRefused guard
  | submitResult => exact submission_step rfl
  | replaySpool => exact submission_step rfl
  | spoolResult spool =>
      have run : (spoolResult spool).run plane = .ok spool (plane.spooled spool) := by
        simp only [spoolResult, EStateM.run_bind, run_appendEvent, EStateM.run_modify,
          EStateM.run_pure]
        rfl
      rw [call_of_answer perform (.spoolResult spool) rfl run]
      exact .spooled spool

theorem history_step {plane : ControlPlane} {ops : List Op}
    {c : Call RuntimeError ControlPlane Reply Op} (hc : c ∈ history perform plane ops) :
    Step c.before c.op c.outcome c.after :=
  of_mem_history call_step hc

/-- An attempt succeeds exactly when every check passes. -/
theorem Step.isOk_iff {plane after : ControlPlane} {op : Op} {outcome : Except RuntimeError Reply}
    (h : Step plane op outcome after) {attempt : SubmissionAttempt}
    (attempted : op.attempt = some attempt) :
    (∃ reply, outcome = .ok reply) ↔ ∃ task, Accepts plane attempt task := by
  cases h with
  | accepted same guard =>
      cases attempted.symm.trans same
      exact ⟨fun _ => ⟨_, guard⟩, fun _ => ⟨_, rfl⟩⟩
  | submissionRejected same guard | submissionRefused same guard =>
      cases attempted.symm.trans same
      exact ⟨nofun, fun ⟨task, accepts⟩ => absurd accepts (guard task)⟩
  | _ => cases attempted

end ControlPlane

end Runlane
