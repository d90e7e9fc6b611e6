import Runlane.ControlPlane.Refusals
import Runlane.ControlPlane.Enrollment
import Runlane.ControlPlane.Results

/-!
Expiry over whole runs.

The plane has no clock. Every request brings the time it is judged at, and the
times of a run need not increase. What one call refuses as expired, a later call
that names an earlier time may therefore still get. It never does at or after
the expiry, whatever happened in between, because what a secret or an envelope
id stands for does not change.
-/

namespace Runlane

namespace ControlPlane

open Calls KeyedList

/-- What a call is about and may be refused for having expired. -/
inductive Subject where
  | token (token : EnrollmentToken)
  | envelope (envelope : AgentTaskEnvelope)
deriving DecidableEq

def Subject.expiresAtUnixSeconds : Subject → Nat
  | .token issued => issued.expiresAtUnixSeconds
  | .envelope sealed => sealed.expiresAtUnixSeconds

/-- How a request names a token or an envelope that was pulled. -/
inductive Reference where
  | secret (secret : String)
  | envelopeId (envelopeId : String)
deriving DecidableEq

def Op.reference : Op → Option Reference
  | .enrollAgent request => some (.secret request.token)
  | .submitResult _ submission _ => some (.envelopeId submission.envelopeId)
  | .replaySpool _ _ result _ => some (.envelopeId result.envelopeId)
  | _ => none

def resolve (plane : ControlPlane) : Reference → Option Subject
  | .secret secret =>
      (lookup EnrollmentToken.token plane.enrollmentTokens secret).map .token
  | .envelopeId envelopeId => (plane.pulledTask envelopeId).map fun task => .envelope task.envelope

/-- The token or envelope that an operation is about: a pull takes the oldest
task queued for the node, the others name theirs. -/
def Op.subject (plane : ControlPlane) : Op → Option Subject
  | .pullTask identity _ =>
      (lookup (fun task : PendingAgentTask => task.envelope.nodeId) plane.pendingTasks
        identity.nodeId).map fun task => .envelope task.envelope
  | op => op.reference.bind plane.resolve

/-- The time that a request brings. -/
def Op.now : Op → Option Nat
  | .enrollAgent request => some request.nowUnixSeconds
  | .pullTask _ now | .submitResult _ _ now | .replaySpool _ _ _ now => some now
  | _ => none

def RefusedExpired (outcome : Except RuntimeError Reply) : Prop :=
  outcome = .error .expiredEnrollmentToken ∨
    outcome = .error (.taskEnvelopeRejected .expiredEnvelope) ∨ outcome = .error .resultExpired

theorem SubmissionAttempt.subject (plane : ControlPlane) {op : Op} {attempt : SubmissionAttempt}
    (attempted : op.attempt = some attempt) :
    op.subject plane = (plane.pulledTask attempt.submission.envelopeId).map
      (fun task => .envelope task.envelope) ∧ op.now = some attempt.nowUnixSeconds := by
  cases op with
  | submitResult | replaySpool =>
      cases attempted
      exact ⟨rfl, rfl⟩
  | _ => cases attempted

/-- A call refused as expired was about something that had expired by its own time. -/
theorem Refusal.expired {plane : ControlPlane} {op : Op} {error : RuntimeError}
    (h : Refusal plane op error) (refused : RefusedExpired (.error error)) :
    ∃ subject now, op.subject plane = some subject ∧ op.now = some now ∧
      subject.expiresAtUnixSeconds ≤ now := by
  cases h with
  | enrollment refusal =>
      cases refusal with
      | @expired token issued expired =>
          refine ⟨.token token, _, ?_, rfl, expired⟩
          simp only [Op.subject, Op.reference, Option.bind_some, resolve, issued, Option.map_some]
      | _ => simp [RefusedExpired] at refused
  | @delivery identity now error refusal =>
      cases refusal with
      | @expired task guard expired =>
          refine ⟨.envelope task.envelope, now, ?_, rfl, expired⟩
          rw [Op.subject, guard.queued, Option.map_some]
      | agent refusal =>
          cases refusal with
          | _ => simp [RefusedExpired] at refused
      | noTask => simp [RefusedExpired] at refused
  | submission attempted refusal =>
      obtain ⟨subject, time⟩ := SubmissionAttempt.subject plane attempted
      cases refusal with
      | @expired task pulled expired =>
          rw [pulled, Option.map_some] at subject
          exact ⟨_, _, subject, time, expired⟩
      | agent refusal =>
          cases refusal with
          | _ => simp [RefusedExpired] at refused
      | _ => simp [RefusedExpired] at refused

/-- A call that succeeds is about something unexpired at its own time. -/
theorem Step.unexpired {plane after : ControlPlane} {op : Op} {reply : Reply}
    (h : Step plane op (.ok reply) after) {subject : Subject}
    (about : op.subject plane = some subject) :
    ∃ now, op.now = some now ∧ now < subject.expiresAtUnixSeconds := by
  cases h with
  | enrolled guard =>
      simp only [Op.subject, Op.reference, Option.bind_some, resolve, guard.issued,
        Option.map_some] at about
      cases about
      exact ⟨_, rfl, guard.unexpired⟩
  | delivered guard unexpired =>
      rw [Op.subject, guard.queued, Option.map_some] at about
      cases about
      exact ⟨_, rfl, unexpired⟩
  | accepted attempted guard =>
      obtain ⟨subject, time⟩ := SubmissionAttempt.subject plane attempted
      rw [about, guard.pulled, Option.map_some] at subject
      cases subject
      exact ⟨_, time, guard.unexpired⟩
  | tokenCreated | enqueued | spooled => cases about

theorem Step.resolves {plane after : ControlPlane} {op : Op} {outcome : Except RuntimeError Reply}
    (h : Step plane op outcome after) {reference : Reference} {subject : Subject}
    (found : plane.resolve reference = some subject) : after.resolve reference = some subject := by
  cases reference with
  | secret secret =>
      obtain ⟨token, issued, rfl⟩ := Option.map_eq_some_iff.mp found
      rw [resolve, h.enrollmentTokens, lookup_append_of_some _ issued, Option.map_some]
  | envelopeId envelopeId =>
      obtain ⟨task, pulled, rfl⟩ := Option.map_eq_some_iff.mp found
      obtain ⟨more, grown⟩ := h.pulledTasks_grow
      rw [resolve, pulledTask, ← grown, lookup_append_of_some _ pulled, Option.map_some]

/-- What a secret or an envelope id stands for does not change. -/
theorem resolve_stays {before : List Op} {reference : Reference} {subject : Subject}
    (found : (planeAfter before).resolve reference = some subject) (more : List Op) :
    (planeAfter (before ++ more)).resolve reference = some subject := by
  rw [planeAfter, exec_append]
  exact exec_invariant (I := fun plane => plane.resolve reference = some subject)
    (fun plane op found => (call_step plane op).resolves found) found more

theorem Op.subject_of_reference {op : Op} {reference : Reference}
    (named : op.reference = some reference) (plane : ControlPlane) :
    op.subject plane = plane.resolve reference := by
  cases op with
  | enrollAgent | submitResult | replaySpool =>
      cases named
      rfl
  | _ => cases named

/-- No call succeeds on what an earlier call refused as expired. -/
def ExpiryFinal (ops : List Op) : Prop :=
  (history perform empty ops).Pairwise fun refused later =>
    RefusedExpired refused.outcome → ∀ subject, refused.op.subject refused.before = some subject →
      later.op.subject later.before = some subject → ¬ ∃ reply, later.outcome = .ok reply

/-- What was refused as expired is refused at every time from the expiry on, so
at the time of the refusal and after it. It can be asked for by the same secret
or envelope id, and the answer is the same for the same token or envelope. -/
theorem expiry_final_from_expiry (ops : List Op) :
    (history perform empty ops).Pairwise fun refused later =>
      RefusedExpired refused.outcome → ∃ subject now,
        refused.op.subject refused.before = some subject ∧ refused.op.now = some now ∧
        subject.expiresAtUnixSeconds ≤ now ∧
        (∀ reference, refused.op.reference = some reference →
          later.op.reference = some reference → later.op.subject later.before = some subject) ∧
        (later.op.subject later.before = some subject → ∀ reply, later.outcome = .ok reply →
          ∃ time, later.op.now = some time ∧ time < subject.expiresAtUnixSeconds) := by
  rw [history_pairwise_iff]
  intro before op between op' after _ refused
  obtain ⟨error, failed⟩ :
      ∃ error, (call perform (planeAfter before) op).outcome = .error error := by
    obtain same | same | same := refused
    · exact ⟨_, same⟩
    · exact ⟨_, same⟩
    · exact ⟨_, same⟩
  rw [failed] at refused
  obtain ⟨subject, now, about, time, expired⟩ := (call_refusal failed).expired refused
  simp only [call_op, call_before]
  refine ⟨subject, now, about, time, expired, ?_, ?_⟩
  · intro reference named named'
    rw [Op.subject_of_reference named] at about
    rw [Op.subject_of_reference named']
    exact resolve_stays about (op :: between)
  · intro about' reply succeeded
    have step := call_step (planeAfter (before ++ op :: between)) op'
    rw [succeeded] at step
    exact step.unexpired about'

/-- A token refused as expired, and a second request that names an earlier time. -/
def backdatedEnrollment : List Op := [
  .createEnrollmentToken ⟨"token-1", "secret-1", "node-a", .linux, "root", 100, "enroll-1"⟩,
  .enrollAgent ⟨"secret-1", "node-a", .linux, "fingerprint-a", "root", 101⟩,
  .enrollAgent ⟨"secret-1", "node-a", .linux, "fingerprint-a", "root", 99⟩]

theorem backdated_enrollment_succeeds : ¬ ∀ ops : List Op, ExpiryFinal ops := by
  intro h
  have final := List.rel_of_pairwise_cons (List.pairwise_cons.mp (h backdatedEnrollment)).2
    List.mem_cons_self
  exact final (.inl rfl) _ rfl rfl ⟨_, rfl⟩

end ControlPlane

end Runlane
