import Runlane.Lib.Failure
import Runlane.ControlPlane.Steps

/-!
Which error a refused call returns.

Each check of an operation has its own error, and the error names the first
check that failed. The ledger never refuses an event, so nothing is refused on
its account.
-/

namespace Runlane

namespace ControlPlane

open Calls KeyedList

inductive EnrollmentRefusal (plane : ControlPlane) (request : AgentEnrollmentRequest) :
    RuntimeError → Prop where
  | unknown (absent : lookup EnrollmentToken.token plane.enrollmentTokens request.token = none) :
      EnrollmentRefusal plane request .enrollmentTokenMismatch
  | expired {token : EnrollmentToken}
      (issued : lookup EnrollmentToken.token plane.enrollmentTokens request.token = some token)
      (expired : token.expiresAtUnixSeconds ≤ request.nowUnixSeconds) :
      EnrollmentRefusal plane request .expiredEnrollmentToken
  | node {token : EnrollmentToken}
      (issued : lookup EnrollmentToken.token plane.enrollmentTokens request.token = some token)
      (other : token.nodeId ≠ request.nodeId) :
      EnrollmentRefusal plane request .enrollmentNodeMismatch
  | os {token : EnrollmentToken}
      (issued : lookup EnrollmentToken.token plane.enrollmentTokens request.token = some token)
      (other : token.os ≠ request.os) :
      EnrollmentRefusal plane request .enrollmentOsMismatch
  | trustRoot {token : EnrollmentToken}
      (issued : lookup EnrollmentToken.token plane.enrollmentTokens request.token = some token)
      (other : token.serverTrustRoot ≠ request.serverTrustRoot) :
      EnrollmentRefusal plane request .enrollmentTrustRootMismatch

inductive AgentRefusal (plane : ControlPlane) (identity : AgentIdentity) :
    RuntimeError → Prop where
  | unknown (absent : lookup AgentIdentityRecord.nodeId plane.agents identity.nodeId = none) :
      AgentRefusal plane identity .unknownAgent
  | mismatch {agent : AgentIdentityRecord}
      (enrolled : lookup AgentIdentityRecord.nodeId plane.agents identity.nodeId = some agent)
      (other : agent.certificateFingerprint ≠ identity.certificateFingerprint) :
      AgentRefusal plane identity .agentIdentityMismatch

inductive DeliveryRefusal (plane : ControlPlane) (identity : AgentIdentity) (now : Nat) :
    RuntimeError → Prop where
  | agent {error : RuntimeError} (refused : AgentRefusal plane identity error) :
      DeliveryRefusal plane identity now error
  | noTask (absent : lookup (fun task : PendingAgentTask => task.envelope.nodeId)
      plane.pendingTasks identity.nodeId = none) :
      DeliveryRefusal plane identity now .noTaskAvailable
  | expired {task : PendingAgentTask} (guard : Offers plane identity task)
      (expired : task.envelope.expiresAtUnixSeconds ≤ now) :
      DeliveryRefusal plane identity now (.taskEnvelopeRejected .expiredEnvelope)

inductive SubmissionRefusal (plane : ControlPlane) (attempt : SubmissionAttempt) :
    RuntimeError → Prop where
  | agent {error : RuntimeError} (refused : AgentRefusal plane attempt.identity error) :
      SubmissionRefusal plane attempt error
  | node (other : attempt.submission.nodeId ≠ attempt.identity.nodeId) :
      SubmissionRefusal plane attempt .resultNodeMismatch
  | replay (used : attempt.submission.nonce ∈ plane.acceptedResultNonces) :
      SubmissionRefusal plane attempt .resultNonceReplay
  | unknownEnvelope (absent : plane.pulledTask attempt.submission.envelopeId = none) :
      SubmissionRefusal plane attempt .unknownEnvelope
  | expired {task : PendingAgentTask}
      (pulled : plane.pulledTask attempt.submission.envelopeId = some task)
      (expired : task.envelope.expiresAtUnixSeconds ≤ attempt.nowUnixSeconds) :
      SubmissionRefusal plane attempt .resultExpired
  | task {task : PendingAgentTask}
      (pulled : plane.pulledTask attempt.submission.envelopeId = some task)
      (other : task.envelope.taskId ≠ attempt.submission.taskId) :
      SubmissionRefusal plane attempt .resultTaskMismatch
  | run {task : PendingAgentTask}
      (pulled : plane.pulledTask attempt.submission.envelopeId = some task)
      (other : task.envelope.runId ≠ attempt.submission.runId) :
      SubmissionRefusal plane attempt .resultRunMismatch
  | nonce {task : PendingAgentTask}
      (pulled : plane.pulledTask attempt.submission.envelopeId = some task)
      (other : task.envelope.nonce ≠ attempt.submission.nonce) :
      SubmissionRefusal plane attempt .resultEnvelopeMismatch

inductive Refusal (plane : ControlPlane) : Op → RuntimeError → Prop where
  | enrollment {request : AgentEnrollmentRequest} {error : RuntimeError}
      (refused : EnrollmentRefusal plane request error) :
      Refusal plane (.enrollAgent request) error
  | delivery {identity : AgentIdentity} {now : Nat} {error : RuntimeError}
      (refused : DeliveryRefusal plane identity now error) :
      Refusal plane (.pullTask identity now) error
  | submission {op : Op} {attempt : SubmissionAttempt} {error : RuntimeError}
      (attempted : op.attempt = some attempt)
      (refused : SubmissionRefusal plane attempt error) : Refusal plane op error

section Operations

variable {plane : ControlPlane}

theorem requireAgent_error {identity : AgentIdentity} {error : RuntimeError}
    (h : plane.requireAgent identity = .error error) : AgentRefusal plane identity error := by
  unfold requireAgent at h
  cases enrolled : lookup AgentIdentityRecord.nodeId plane.agents identity.nodeId with
  | none =>
      rw [enrolled] at h
      cases h
      exact .unknown enrolled
  | some agent =>
      rw [enrolled] at h
      by_cases same : agent.certificateFingerprint = identity.certificateFingerprint
      · simp [same] at h
      · simp only [same, if_false] at h
        cases h
        exact .mismatch enrolled same

theorem enrollAgent_fails (request : AgentEnrollmentRequest) :
    FailsOnly (EnrollmentRefusal plane request) (enrollAgent request) plane := by
  refine .after (EStateM.run_get plane) (.okOr_bind .unknown ?_)
  intro token issued
  refine .ite (fun expired => .throws (.expired issued expired)) fun _ => ?_
  refine .ite (fun other => .throws (.node issued other)) fun _ => ?_
  refine .ite (fun other => .throws (.os issued other)) fun _ => ?_
  refine .ite (fun other => .throws (.trustRoot issued other)) fun _ => ?_
  exact .after (run_appendEvent _ _) (.of_ok rfl)

theorem pullTask_fails (identity : AgentIdentity) (now : Nat) :
    FailsOnly (DeliveryRefusal plane identity now) (pullTask identity now) plane := by
  by_cases guard : ∃ task, Offers plane identity task
  · obtain ⟨task, guard⟩ := guard
    cases Nat.lt_or_ge now task.envelope.expiresAtUnixSeconds with
    | inl unexpired => exact .of_ok (pullTask_run guard unexpired)
    | inr expired =>
        intro error after failed
        cases (pullTask_expired guard expired).symm.trans failed
        exact .expired guard expired
  · refine .after (EStateM.run_get plane) (.ofExcept_bind ?_ ?_)
    · intro error refused
      exact .agent (requireAgent_error refused)
    intro _ authenticated
    refine .okOr_bind (fun absent => .noTask (findFinIdx_eq_none.mp absent)) ?_
    intro index found
    exact absurd ⟨_, authenticated, lookup_of_findFinIdx found⟩ guard

theorem submitResult_fails (attempt : SubmissionAttempt) :
    FailsOnly (SubmissionRefusal plane attempt)
      (submitResult attempt.identity attempt.submission attempt.nowUnixSeconds) plane := by
  have audited {reason : String} {error : RuntimeError}
      (refused : SubmissionRefusal plane attempt error) :
      FailsOnly (SubmissionRefusal plane attempt) (do
        auditResultRejection attempt.submission reason
        throw error : Runtime Unit) plane :=
    .after (run_auditResultRejection _ _ _) (.throws refused)
  refine .after (EStateM.run_get plane) (.ofExcept_bind ?_ ?_)
  · intro error refused
    exact .agent (requireAgent_error refused)
  intro _ _
  refine .ite (fun other => audited (.node other)) fun _ => ?_
  refine .ite (fun used => audited (.replay used)) fun _ => ?_
  refine .okOr_bind .unknownEnvelope ?_
  intro task pulled
  refine .ite (fun expired => audited (.expired pulled expired)) fun _ => ?_
  refine .ite (fun other => audited (.task pulled other)) fun _ => ?_
  refine .ite (fun other => audited (.run pulled other)) fun _ => ?_
  refine .ite (fun other => audited (.nonce pulled other)) fun _ => ?_
  exact .after (run_appendEvent _ _) (.of_ok rfl)

end Operations

/-- A call that fails was refused by one of the checks of its operation. -/
theorem call_refusal {plane : ControlPlane} {op : Op} {error : RuntimeError}
    (h : (call perform plane op).outcome = .error error) : Refusal plane op error := by
  have submission {attempt : SubmissionAttempt} (attempted : op.attempt = some attempt) :
      Refusal plane op error := by
    have fails : FailsOnly (SubmissionRefusal plane attempt) (perform op) plane := by
      rw [perform_of_attempt attempted]
      exact (submitResult_fails attempt).returning _
    exact .submission attempted (fails.of_call h)
  have step := call_step plane op
  rw [h] at step
  generalize (call perform plane op).after = after at step
  cases op with
  | createEnrollmentToken | enqueueTask | spoolResult =>
      cases step with
      | submissionRejected attempted | submissionRefused attempted => cases attempted
  | enrollAgent request =>
      have fails : FailsOnly (EnrollmentRefusal plane request)
          (perform (.enrollAgent request)) plane :=
        (enrollAgent_fails request).returning _
      exact .enrollment (fails.of_call h)
  | pullTask identity now =>
      have fails : FailsOnly (DeliveryRefusal plane identity now)
          (perform (.pullTask identity now)) plane :=
        (pullTask_fails identity now).returning _
      exact .delivery (fails.of_call h)
  | submitResult | replaySpool => exact submission rfl

theorem Refusal.ne_auditAppend {plane : ControlPlane} {op : Op} {error : RuntimeError}
    (h : Refusal plane op error) (append : AuditAppendError) : error ≠ .auditAppend append := by
  intro same
  rw [same] at h
  cases h with
  | enrollment refused => cases refused
  | delivery refused =>
      cases refused with
      | agent refused => cases refused
  | submission _ refused =>
      cases refused with
      | agent refused => cases refused

end ControlPlane

end Runlane
