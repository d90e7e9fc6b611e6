import Runlane.ControlPlane.Refusals
import Runlane.Server.Boundary

/-!
What a request that fails leaves behind.

A handler turns a request away before it takes the lock, or the plane refuses it;
then at most the record of the refusal is written, and only for an answer with
status 409. No request is answered with the status of a fault of the server.
-/

namespace Runlane

namespace Http

open Calls ControlPlane

variable {debug : DebugTexts}

/-- The events that the plane writes when it refuses. -/
inductive Rejection : AuditEventKind → Prop where
  | task (nodeId reason : String) : Rejection (.agentTaskRejected nodeId reason)
  | result (envelopeId reason : String) : Rejection (.agentResultRejected envelopeId reason)

/-- The plane is as it was, apart from the record of a refusal. -/
def OnlyRejects (before after : ControlPlane) : Prop :=
  after = before ∨ ∃ kind, Rejection kind ∧ after = before.logged kind

theorem OnlyRejects.lists {before after : ControlPlane} (h : OnlyRejects before after) :
    after.enrollmentTokens = before.enrollmentTokens ∧ after.agents = before.agents ∧
      after.pendingTasks = before.pendingTasks ∧ after.pulledTasks = before.pulledTasks ∧
      after.acceptedResults = before.acceptedResults ∧
      after.spooledResults = before.spooledResults := by
  cases h with
  | inl same =>
      rw [same]
      exact ⟨rfl, rfl, rfl, rfl, rfl, rfl⟩
  | inr logged =>
      obtain ⟨kind, _, rfl⟩ := logged
      exact ⟨rfl, rfl, rfl, rfl, rfl, rfl⟩

theorem append_singleton_ne {α : Type} (items : List α) (item : α) : items ++ [item] ≠ items := by
  intro same
  have lengths := congrArg List.length same
  rw [List.length_append, List.length_singleton] at lengths
  omega

/-- The plane fails exactly when it does nothing that is not a record of a refusal. -/
theorem step_fails_iff {before after : ControlPlane} {op : Op} {outcome : Except RuntimeError Reply}
    (h : Step before op outcome after) :
    (∃ error, outcome = .error error) ↔ OnlyRejects before after := by
  cases h with
  | tokenCreated token =>
      exact ⟨nofun, fun only => absurd only.lists.1 (append_singleton_ne _ _)⟩
  | enrolled =>
      exact ⟨nofun, fun only => absurd only.lists.2.1 (append_singleton_ne _ _)⟩
  | enqueued task =>
      exact ⟨nofun, fun only => absurd only.lists.2.2.1 (append_singleton_ne _ _)⟩
  | delivered =>
      exact ⟨nofun, fun only => absurd only.lists.2.2.2.1 (append_singleton_ne _ _)⟩
  | accepted =>
      exact ⟨nofun, fun only => absurd only.lists.2.2.2.2.1 (append_singleton_ne _ _)⟩
  | spooled spool =>
      exact ⟨nofun, fun only => absurd only.lists.2.2.2.2.2 (append_singleton_ne _ _)⟩
  | enrollmentRefused | deliveryRefused | submissionRefused =>
      exact ⟨fun _ => .inl rfl, fun _ => ⟨_, rfl⟩⟩
  | deliveryExpired =>
      exact ⟨fun _ => .inr ⟨_, .task _ _, rfl⟩, fun _ => ⟨_, rfl⟩⟩
  | submissionRejected =>
      exact ⟨fun _ => .inr ⟨_, .result _ _, rfl⟩, fun _ => ⟨_, rfl⟩⟩

theorem requireAgent_of_refusal {plane : ControlPlane} {identity : AgentIdentity}
    {error : RuntimeError} (refused : AgentRefusal plane identity error) :
    plane.requireAgent identity ≠ .ok () := by
  cases refused with
  | unknown absent => simp [requireAgent, absent]
  | mismatch enrolled other => simp [requireAgent, enrolled, other]

/-- A refusal that is recorded is answered as a conflict. -/
theorem unrecorded_of_status {before after : ControlPlane} {op : Op} {error : RuntimeError}
    (h : Step before op (.error error) after) (refused : Refusal before op error)
    (status : (runtimeError debug error).status ≠ .conflict) : after = before := by
  cases h with
  | enrollmentRefused | deliveryRefused | submissionRefused => rfl
  | deliveryExpired => exact absurd rfl status
  | submissionRejected attempted guard traced =>
      cases refused with
      | enrollment => cases attempted
      | delivery => cases attempted
      | submission attempted' refused =>
          cases attempted.symm.trans attempted'
          cases refused with
          | agent refused => exact absurd (.inl (requireAgent_of_refusal refused)) traced
          | _ => exact absurd rfl status

theorem runtimeError_status (debug : DebugTexts) {error : RuntimeError}
    (other : ∀ append, error ≠ .auditAppend append) :
    (runtimeError debug error).status ≠ .internalServerError ∧
      (runtimeError debug error).status ≠ .ok := by
  cases error with
  | auditAppend append => exact absurd rfl (other append)
  | _ => exact ⟨nofun, nofun⟩

theorem requiredHeader_status {headers : HeaderMap} {name : String} {error : HttpApiError}
    (refused : requiredHeader headers name = .error error) :
    error.status = .unauthorized ∨ error.status = .badRequest := by
  unfold requiredHeader at refused
  split at refused
  · cases refused
    exact .inl rfl
  · split at refused
    · cases refused
      exact .inr rfl
    · cases refused

theorem identityFromHeaders_status {headers : HeaderMap} {error : HttpApiError}
    (refused : identityFromHeaders headers = .error error) :
    error.status = .unauthorized ∨ error.status = .badRequest := by
  simp only [identityFromHeaders, Fallible.bind_eq_error] at refused
  rcases refused with node | ⟨_, _, fingerprint | ⟨_, _, done⟩⟩
  · exact requiredHeader_status node
  · exact requiredHeader_status fingerprint
  · cases done

theorem parseOperatingSystem_status {value : String} {error : HttpApiError}
    (refused : parseOperatingSystem debug value = .error error) : error.status = .badRequest := by
  unfold parseOperatingSystem at refused
  split at refused
  case h_4 =>
      cases refused
      rfl
  all_goals cases refused

theorem intoCore_status {body : AgentResultSubmissionDto} {error : HttpApiError}
    (refused : body.intoCore debug = .error error) : error.status = .badRequest := by
  simp only [AgentResultSubmissionDto.intoCore, Fallible.bind_eq_error] at refused
  rcases refused with status | ⟨_, _, done⟩
  · unfold parseResultStatus at status
    split at status
    case h_3 =>
        cases status
        rfl
    all_goals cases status
  · cases done

theorem decode_status {request : Request} {error : HttpApiError}
    (unread : decode debug request = .error error) :
    error.status = .unauthorized ∨ error.status = .badRequest ∨ error.status = .forbidden := by
  have header {headers : HeaderMap} (refused : identityFromHeaders headers = .error error) :
      error.status = .unauthorized ∨ error.status = .badRequest ∨ error.status = .forbidden :=
    (identityFromHeaders_status refused).imp_right .inl
  cases request with
  | createEnrollmentToken body | enrollAgent body =>
      simp only [decode, Fallible.bind_eq_error] at unread
      rcases unread with os | ⟨_, _, done⟩
      · exact .inr (.inl (parseOperatingSystem_status os))
      · cases done
  | pullTask headers body =>
      simp only [decode, Fallible.bind_eq_error] at unread
      rcases unread with identity | ⟨identity', _, rest⟩
      · exact header identity
      · split at rest
        · cases rest
          exact .inr (.inr rfl)
        · cases rest
  | submitResult headers body =>
      simp only [decode, Fallible.bind_eq_error] at unread
      rcases unread with identity | ⟨identity', _, rest⟩
      · exact header identity
      · split at rest
        · cases rest
          exact .inr (.inl rfl)
        · rcases Fallible.bind_eq_error.mp rest with result | ⟨_, _, done⟩
          · exact .inr (.inl (intoCore_status result))
          · cases done
  | replaySpool headers body =>
      simp only [decode, Fallible.bind_eq_error] at unread
      rcases unread with identity | ⟨_, _, result | ⟨_, _, done⟩⟩
      · exact header identity
      · exact .inr (.inl (intoCore_status result))
      · cases done

/-- In every run a request fails exactly when the plane is afterwards what it was,
up to one recorded refusal; the record is written for a conflict only, and no
failure is one of the server. -/
theorem failed_request_effect (plane : ControlPlane) (requests : List Request)
    (c : Call HttpApiError HttpState Response Request)
    (recorded : c ∈ history (router debug) (.new plane) requests) :
    ∃ before after, c.before = .new before ∧ c.after = .new after ∧
      ((∃ error, c.outcome = .error error) ↔ OnlyRejects before after) ∧
      ∀ error, c.outcome = .error error →
        error.status ≠ .internalServerError ∧ error.status ≠ .ok ∧
          (error.status ≠ .conflict → after = before) := by
  obtain ⟨earlier, later, -, hcall⟩ := mem_history recorded
  rw [router_serves.exec] at hcall
  generalize exec perform plane (earlier.filterMap (boundary debug).admits) = before at hcall
  cases read : decode debug c.op with
  | error error =>
      rw [router_of_error read] at hcall
      rw [hcall]
      refine ⟨before, before, rfl, rfl, ⟨fun _ => .inl rfl, fun _ => ⟨error, rfl⟩⟩, ?_⟩
      intro error' failed
      cases failed
      refine ⟨?_, ?_, fun _ => rfl⟩
      · intro status
        simpa [status] using decode_status read
      · intro status
        simpa [status] using decode_status read
  | ok op =>
      have forwards := router_of_ok read before
      rw [← hcall] at forwards
      have step := call_step before op
      have place := forwards.before
      rw [call_before] at place
      refine ⟨before, _, place, forwards.after, ?_, ?_⟩
      · rw [← step_fails_iff step, ← forwards.worded.fails_iff]
      · intro error failed
        have worded := forwards.worded
        rw [failed, call_op] at worded
        obtain ⟨inner, outcome, rfl⟩ := worded.of_error
        have refused := call_refusal outcome
        have status := runtimeError_status debug refused.ne_auditAppend
        rw [outcome] at step
        exact ⟨status.1, status.2, unrecorded_of_status step refused⟩

/-- An agent whose task has expired in the queue. -/
def expiredTask : List Op := [
  .createEnrollmentToken ⟨"token-prod-web-01", "demo-token", "prod-web-01", .linux, "trust-root",
    200, "enroll-nonce"⟩,
  .enrollAgent ⟨"demo-token", "prod-web-01", .linux, "cert-fingerprint", "trust-root", 100⟩,
  .enqueueTask ⟨⟨"env-1", "run-1", "task-1", "prod-web-01", 100, 100, "nonce-1",
      [⟨"service.systemd"⟩], "audit-1"⟩,
    .collectEvidence ⟨"service.systemd"⟩ "system:node/prod-web-01/service/sshd"⟩]

def webHeaders : HeaderMap where
  get name :=
    if name = headerNodeId then some ⟨some "prod-web-01"⟩
    else if name = headerCertFingerprint then some ⟨some "cert-fingerprint"⟩
    else none

def webPull : Request :=
  .pullTask webHeaders ⟨"prod-web-01", 101, none, none⟩

/-- The refusal of an expired task is a conflict, and the plane is left with its record. -/
theorem expired_pull_effect :
    let c := call (router .silent) (.new (planeAfter expiredTask)) webPull
    statusOf c.outcome = .conflict ∧
      c.after = .new ((planeAfter expiredTask).logged
        (.agentTaskRejected "prod-web-01" AgentTaskRejection.expiredEnvelope.debug)) ∧
      ∃ before after, c.before = .new before ∧ c.after = .new after ∧
        ((∃ error, c.outcome = .error error) ↔ OnlyRejects before after) ∧
        ∀ error, c.outcome = .error error →
          error.status ≠ .internalServerError ∧ error.status ≠ .ok ∧
            (error.status ≠ .conflict → after = before) := by
  intro c
  refine ⟨by decide +kernel, by decide +kernel, ?_⟩
  exact failed_request_effect (planeAfter expiredTask) [webPull] c List.mem_cons_self

end Http

end Runlane
