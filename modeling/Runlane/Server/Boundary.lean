import Runlane.Lib.Gateway
import Runlane.Lib.Fallible
import Runlane.Server.Http

/-!
The HTTP boundary as a gateway in front of the control plane.

Every handler makes one call on the plane, under the lock, and what it does
before that depends on the request alone. So a run of the server is a run of the
plane on the requests that were let through, and what is known of runs of the
plane is known of the server.
-/

namespace Runlane

namespace Http

open Calls ControlPlane

section Boundary

variable (debug : DebugTexts)

/-- The operation that a request asks the plane for. -/
def decode : Request → Except HttpApiError Op
  | .createEnrollmentToken body => do
      let os ← parseOperatingSystem debug body.platformFamily
      return .createEnrollmentToken {
        tokenId := body.tokenId
        token := body.token
        nodeId := body.nodeId
        os
        serverTrustRoot := body.serverTrustRoot
        expiresAtUnixSeconds := body.expiresAtUnixSeconds
        nonce := body.nonce }
  | .enrollAgent body => do
      let os ← parseOperatingSystem debug body.platformFamily
      return .enrollAgent {
        token := body.token
        nodeId := body.nodeId
        os
        certificateFingerprint := body.certificateFingerprint
        serverTrustRoot := body.serverTrustRoot
        nowUnixSeconds := body.nowUnixSeconds }
  | .pullTask headers body => do
      let identity ← identityFromHeaders headers
      if identity.nodeId ≠ body.nodeId then
        .error ⟨.forbidden, "identity_node_mismatch",
          "request node_id does not match extracted agent identity"⟩
      else
        return .pullTask identity body.nowUnixSeconds
  | .submitResult headers body => do
      let identity ← identityFromHeaders headers
      match body.nowUnixSeconds with
      | none => .error (.badRequest "missing_result_time"
          "result submission requires now_unix_seconds")
      | some now =>
          let result ← body.intoCore debug
          return .submitResult identity result now
  | .replaySpool headers body => do
      let identity ← identityFromHeaders headers
      let result ← body.result.intoCore debug
      return .replaySpool identity body.spoolId result body.nowUnixSeconds

/-- What a request has to look like to be read as an operation. -/
inductive Reads : Request → Op → Prop where
  | createEnrollmentToken {body : CreateEnrollmentTokenRequest} {os : OperatingSystem}
      (platform : parseOperatingSystem debug body.platformFamily = .ok os) :
      Reads (.createEnrollmentToken body) (.createEnrollmentToken
        ⟨body.tokenId, body.token, body.nodeId, os, body.serverTrustRoot,
          body.expiresAtUnixSeconds, body.nonce⟩)
  | enrollAgent {body : EnrollmentRequestDto} {os : OperatingSystem}
      (platform : parseOperatingSystem debug body.platformFamily = .ok os) :
      Reads (.enrollAgent body) (.enrollAgent
        ⟨body.token, body.nodeId, os, body.certificateFingerprint, body.serverTrustRoot,
          body.nowUnixSeconds⟩)
  | pullTask {headers : HeaderMap} {body : PullTaskRequest} {identity : AgentIdentity}
      (named : identityFromHeaders headers = .ok identity) (node : identity.nodeId = body.nodeId) :
      Reads (.pullTask headers body) (.pullTask identity body.nowUnixSeconds)
  | submitResult {headers : HeaderMap} {body : AgentResultSubmissionDto}
      {identity : AgentIdentity} {now : Nat} {submission : AgentResultSubmission}
      (named : identityFromHeaders headers = .ok identity) (time : body.nowUnixSeconds = some now)
      (result : body.intoCore debug = .ok submission) :
      Reads (.submitResult headers body) (.submitResult identity submission now)
  | replaySpool {headers : HeaderMap} {body : SpoolReplayRequest} {identity : AgentIdentity}
      {submission : AgentResultSubmission} (named : identityFromHeaders headers = .ok identity)
      (result : body.result.intoCore debug = .ok submission) :
      Reads (.replaySpool headers body)
        (.replaySpool identity body.spoolId submission body.nowUnixSeconds)

/-- How a handler words what the plane has done for it. -/
inductive Answers : Op → Reply → Response → Prop where
  | tokenCreated (token : EnrollmentToken) :
      Answers (.createEnrollmentToken token) .done
        (.tokenCreated ⟨"created", token.tokenId, token.nodeId⟩)
  | enrolled (request : AgentEnrollmentRequest) (record : AgentIdentityRecord) :
      Answers (.enrollAgent request) (.enrolled record)
        (.enrolled ⟨record.nodeId, formatOperatingSystem record.os,
          record.certificateFingerprint, record.serverTrustRoot⟩)
  | pulled (identity : AgentIdentity) (now : Nat) (task : PulledAgentTask) :
      Answers (.pullTask identity now) (.pulled task)
        (.pulled ⟨.ofEnvelope task.envelope, .ofPayload task.payload⟩)
  | accepted (identity : AgentIdentity) (submission : AgentResultSubmission) (now : Nat) :
      Answers (.submitResult identity submission now) .done
        (.accepted ⟨"accepted", submission.envelopeId, submission.taskId, submission.nodeId⟩)
  | replayed (identity : AgentIdentity) (spoolId : String) (submission : AgentResultSubmission)
      (now : Nat) :
      Answers (.replaySpool identity spoolId submission now) (.replayed spoolId)
        (.replayed ⟨"accepted", spoolId⟩)

def boundary : Gateway RuntimeError HttpApiError Reply Response Op Request where
  decode := decode debug
  Answers := Answers
  refusal := runtimeError debug

variable {debug}

theorem decode_eq_ok {request : Request} {op : Op} :
    decode debug request = .ok op ↔ Reads debug request op := by
  constructor
  · intro read
    cases request with
    | createEnrollmentToken body =>
        simp only [decode, Fallible.bind_eq_ok, Fallible.pure_eq_ok] at read
        obtain ⟨os, platform, rfl⟩ := read
        exact .createEnrollmentToken platform
    | enrollAgent body =>
        simp only [decode, Fallible.bind_eq_ok, Fallible.pure_eq_ok] at read
        obtain ⟨os, platform, rfl⟩ := read
        exact .enrollAgent platform
    | pullTask headers body =>
        simp only [decode, Fallible.bind_eq_ok, Fallible.ite_error_eq_ok, Fallible.pure_eq_ok,
          not_not] at read
        obtain ⟨identity, named, node, rfl⟩ := read
        exact .pullTask named node
    | submitResult headers body =>
        simp only [decode, Fallible.bind_eq_ok] at read
        obtain ⟨identity, named, rest⟩ := read
        cases time : body.nowUnixSeconds with
        | none => simp only [time, reduceCtorEq] at rest
        | some now =>
            simp only [time, Fallible.bind_eq_ok, Fallible.pure_eq_ok] at rest
            obtain ⟨submission, result, rfl⟩ := rest
            exact .submitResult named time result
    | replaySpool headers body =>
        simp only [decode, Fallible.bind_eq_ok, Fallible.pure_eq_ok] at read
        obtain ⟨identity, named, submission, result, rfl⟩ := read
        exact .replaySpool named result
  · intro reads
    cases reads with
    | createEnrollmentToken platform | enrollAgent platform =>
        simp only [decode, platform]
        rfl
    | pullTask named node =>
        simp only [decode, named]
        exact if_neg (not_not.mpr node)
    | submitResult named time result =>
        simp only [decode, named, time, result]
        rfl
    | replaySpool named result =>
        simp only [decode, named, result]
        rfl

@[simp] theorem run_lock (plane : ControlPlane) :
    lock.run (.new plane) = .ok () (.new plane) := rfl

theorem run_onPlane_ok {α : Type} {method : Runtime α} {plane after : ControlPlane} {a : α}
    (run : method.run plane = .ok a after) :
    (onPlane debug method).run (.new plane) = .ok a (.new after) := by
  simp only [onPlane, EStateM.run, HttpState.new] at run ⊢
  rw [run]

theorem run_onPlane_error {α : Type} {method : Runtime α} {plane after : ControlPlane}
    {error : RuntimeError} (run : method.run plane = .error error after) :
    (onPlane debug method).run (.new plane) = .error (runtimeError debug error) (.new after) := by
  simp only [onPlane, EStateM.run, HttpState.new] at run ⊢
  rw [run]

/-- The router does with a request what the gateway says. -/
def Mirrors (debug : DebugTexts) (plane : ControlPlane) (request : Request) : Prop :=
  match decode debug request with
  | .error error => call (router debug) (.new plane) request =
      ⟨.new plane, request, .error error, .new plane⟩
  | .ok op => (boundary debug).Forwards .new (call (router debug) (.new plane) request)
      (call perform plane op)

/-- A handler that fails before it takes the lock leaves the plane alone. -/
theorem Mirrors.refused {γ : Type} {request : Request} {handler : Handler γ}
    {respond : γ → Response} {plane : ControlPlane} (error : HttpApiError)
    (unread : decode debug request = .error error)
    (handles : router debug request = do return respond (← handler))
    (fails : handler.run (.new plane) = .error error (.new plane)) :
    Mirrors debug plane request := by
  rw [Mirrors, unread]
  exact call_of_refusal _ request handles fails

/-- A handler that comes down to one method of the plane forwards to it. -/
theorem Mirrors.forwarded {β γ : Type} {request : Request} {method : Runtime β}
    {reply : β → Reply} {handler : Handler γ} {respond : γ → Response} {plane : ControlPlane}
    (op : Op) (wording : β → γ) (read : decode debug request = .ok op)
    (performs : perform op = do return reply (← method))
    (handles : router debug request = do return respond (← handler))
    (runs : handler.run (.new plane) =
      (do return wording (← onPlane debug method)).run (.new plane))
    (answers : ∀ b, Answers op (reply b) (respond (wording b))) :
    Mirrors debug plane request := by
  rw [Mirrors, read]
  change (boundary debug).Forwards HttpState.new _ _
  cases run : method.run plane with
  | ok b after =>
      have handled : handler.run (.new plane) = .ok (wording b) (.new after) := by
        rw [runs, EStateM.run_bind, run_onPlane_ok run]
        rfl
      rw [call_of_answer _ request handles handled, call_of_answer _ op performs run]
      exact ⟨read, rfl, rfl, .ok (answers b)⟩
  | error error after =>
      have handled : handler.run (.new plane) = .error (runtimeError debug error) (.new after) := by
        rw [runs, EStateM.run_bind, run_onPlane_error run]
      rw [call_of_refusal _ request handles handled, call_of_refusal _ op performs run]
      exact ⟨read, rfl, rfl, .error error⟩

theorem mirrors_createEnrollmentToken (plane : ControlPlane)
    (body : CreateEnrollmentTokenRequest) :
    Mirrors debug plane (.createEnrollmentToken body) := by
  cases os : parseOperatingSystem debug body.platformFamily with
  | error error =>
      refine .refused error ?_ rfl ?_
      · simp only [decode, os]
        rfl
      · simp only [createEnrollmentToken, os, EStateM.run_bind, run_ofExcept_error]
  | ok os' =>
      refine .forwarded (.createEnrollmentToken ⟨body.tokenId, body.token, body.nodeId, os',
          body.serverTrustRoot, body.expiresAtUnixSeconds, body.nonce⟩)
        (fun _ => ⟨"created", body.tokenId, body.nodeId⟩) ?_ rfl rfl ?_ fun _ => .tokenCreated _
      · simp only [decode, os]
        rfl
      · simp only [createEnrollmentToken, os, EStateM.run_bind, run_ofExcept_ok, run_lock]

theorem mirrors_enrollAgent (plane : ControlPlane) (body : EnrollmentRequestDto) :
    Mirrors debug plane (.enrollAgent body) := by
  cases os : parseOperatingSystem debug body.platformFamily with
  | error error =>
      refine .refused error ?_ rfl ?_
      · simp only [decode, os]
        rfl
      · simp only [enrollAgent, os, EStateM.run_bind, run_ofExcept_error]
  | ok os' =>
      refine .forwarded (.enrollAgent ⟨body.token, body.nodeId, os', body.certificateFingerprint,
          body.serverTrustRoot, body.nowUnixSeconds⟩)
        (fun record => ⟨record.nodeId, formatOperatingSystem record.os,
          record.certificateFingerprint, record.serverTrustRoot⟩) ?_ rfl rfl ?_
        fun record => .enrolled _ record
      · simp only [decode, os]
        rfl
      · simp only [enrollAgent, os, EStateM.run_bind, run_ofExcept_ok, run_lock]

theorem mirrors_pullTask (plane : ControlPlane) (headers : HeaderMap) (body : PullTaskRequest) :
    Mirrors debug plane (.pullTask headers body) := by
  cases identity : identityFromHeaders headers with
  | error error =>
      refine .refused error ?_ rfl ?_
      · simp only [decode, identity]
        rfl
      · simp only [pullTask, identity, EStateM.run_bind, run_ofExcept_error]
  | ok identity' =>
      by_cases node : identity'.nodeId = body.nodeId
      · refine .forwarded (.pullTask identity' body.nowUnixSeconds)
          (fun pulled => ⟨.ofEnvelope pulled.envelope, .ofPayload pulled.payload⟩) ?_ rfl rfl ?_
          fun pulled => .pulled identity' body.nowUnixSeconds pulled
        · simp only [decode, identity]
          exact if_neg (not_not.mpr node)
        · simp only [pullTask, identity, node, EStateM.run_bind, run_ofExcept_ok, ne_eq,
            not_true_eq_false, if_false, EStateM.run_pure, run_lock]
      · refine .refused ⟨.forbidden, "identity_node_mismatch",
          "request node_id does not match extracted agent identity"⟩ ?_ rfl ?_
        · simp only [decode, identity]
          exact if_pos node
        · simp only [pullTask, identity, node, EStateM.run_bind, run_ofExcept_ok, ne_eq,
            not_false_eq_true, if_true, EStateM.run_throw]

theorem resultResponse_intoCore {body : AgentResultSubmissionDto}
    {submission : AgentResultSubmission} (read : body.intoCore debug = .ok submission)
    (status : String) : resultResponse status body =
      ⟨status, submission.envelopeId, submission.taskId, submission.nodeId⟩ := by
  simp only [AgentResultSubmissionDto.intoCore, Fallible.bind_eq_ok, Fallible.pure_eq_ok] at read
  obtain ⟨parsed, _, rfl⟩ := read
  rfl

theorem mirrors_submitResult (plane : ControlPlane) (headers : HeaderMap)
    (body : AgentResultSubmissionDto) : Mirrors debug plane (.submitResult headers body) := by
  cases identity : identityFromHeaders headers with
  | error error =>
      refine .refused error ?_ rfl ?_
      · simp only [decode, identity]
        rfl
      · simp only [submitResult, identity, EStateM.run_bind, run_ofExcept_error]
  | ok identity' =>
      cases time : body.nowUnixSeconds with
      | none =>
          refine .refused (.badRequest "missing_result_time"
            "result submission requires now_unix_seconds") ?_ rfl ?_
          · simp only [decode, identity, time]
            rfl
          · simp only [submitResult, identity, time, EStateM.run_bind, run_ofExcept_ok,
              run_okOr_none]
      | some now =>
          cases result : body.intoCore debug with
          | error error =>
              refine .refused error ?_ rfl ?_
              · simp only [decode, identity, time, result]
                rfl
              · simp only [submitResult, identity, time, result, EStateM.run_bind,
                  run_ofExcept_ok, run_okOr_some, run_ofExcept_error]
          | ok submission =>
              refine .forwarded (.submitResult identity' submission now)
                (fun _ => resultResponse "accepted" body) ?_ rfl rfl ?_ ?_
              · simp only [decode, identity, time, result]
                rfl
              · simp only [submitResult, identity, time, result, EStateM.run_bind,
                  run_ofExcept_ok, run_okOr_some, run_lock]
              · intro _
                rw [resultResponse_intoCore result]
                exact .accepted identity' submission now

theorem mirrors_replaySpool (plane : ControlPlane) (headers : HeaderMap)
    (body : SpoolReplayRequest) : Mirrors debug plane (.replaySpool headers body) := by
  cases identity : identityFromHeaders headers with
  | error error =>
      refine .refused error ?_ rfl ?_
      · simp only [decode, identity]
        rfl
      · simp only [replaySpool, identity, EStateM.run_bind, run_ofExcept_error]
  | ok identity' =>
      cases result : body.result.intoCore debug with
      | error error =>
          refine .refused error ?_ rfl ?_
          · simp only [decode, identity, result]
            rfl
          · simp only [replaySpool, identity, result, EStateM.run_bind, run_ofExcept_ok,
              run_ofExcept_error]
      | ok submission =>
          refine .forwarded (.replaySpool identity' body.spoolId submission body.nowUnixSeconds)
            (fun _ => ⟨"accepted", body.spoolId⟩) ?_ rfl rfl ?_
            fun _ => .replayed identity' body.spoolId submission body.nowUnixSeconds
          · simp only [decode, identity, result]
            rfl
          · simp only [replaySpool, identity, result, EStateM.run_bind, run_ofExcept_ok, run_lock]

theorem mirrors (plane : ControlPlane) (request : Request) : Mirrors debug plane request := by
  cases request with
  | createEnrollmentToken body => exact mirrors_createEnrollmentToken plane body
  | enrollAgent body => exact mirrors_enrollAgent plane body
  | pullTask headers body => exact mirrors_pullTask plane headers body
  | submitResult headers body => exact mirrors_submitResult plane headers body
  | replaySpool headers body => exact mirrors_replaySpool plane headers body

theorem router_of_error {request : Request} {error : HttpApiError}
    (unread : decode debug request = .error error) (plane : ControlPlane) :
    call (router debug) (.new plane) request =
      ⟨.new plane, request, .error error, .new plane⟩ := by
  have mirrors : Mirrors debug plane request := mirrors plane request
  rwa [Mirrors, unread] at mirrors

theorem router_of_ok {request : Request} {op : Op} (read : decode debug request = .ok op)
    (plane : ControlPlane) :
    (boundary debug).Forwards .new (call (router debug) (.new plane) request)
      (call perform plane op) := by
  have mirrors : Mirrors debug plane request := mirrors plane request
  rwa [Mirrors, read] at mirrors

theorem router_serves : (boundary debug).Serves perform (router debug) .new where
  refuses plane _ _ unread := router_of_error unread plane
  forwards plane _ _ read := router_of_ok read plane

/-- A server that starts on a plane does what the plane does on the requests that
were let through: every request is answered with an error and changes nothing, or
is the next call on the plane, answered with what the plane returned or with the
status of its error. -/
theorem server_follows_plane (plane : ControlPlane) (requests : List Request) :
    (boundary debug).Follows .new (history (router debug) (.new plane) requests)
        (history perform plane (requests.filterMap (boundary debug).admits)) ∧
      exec (router debug) (.new plane) requests =
        .new (exec perform plane (requests.filterMap (boundary debug).admits)) :=
  ⟨router_serves.follows plane requests, router_serves.exec plane requests⟩

end Boundary

end Http

end Runlane
