import Runlane.ControlPlane.Enrollment
import Runlane.Server.Refusals

/-!
Who is served over HTTP, and by which route.

An agent names itself in two headers. A server starts on a plane that calls have
set up, and a run that serves an agent has enrolled it before, over HTTP unless
the set-up did. A result is the same to the server whether it is submitted or
replayed from a spool at that time.
-/

namespace Runlane

namespace Http

open Calls ControlPlane

/-- The headers by which the caller of a route is told. -/
def Request.headers : Request → Option HeaderMap
  | .createEnrollmentToken _ | .enrollAgent _ => none
  | .pullTask headers _ | .submitResult headers _ | .replaySpool headers _ => some headers

variable (debug : DebugTexts)

/-- What a request is answered with by a server that has served others before. -/
def outcomeAfter (setup : List Op) (before : List Request) (request : Request) :
    Except HttpApiError Response :=
  (call (router debug) (exec (router debug) (.new (planeAfter setup)) before) request).outcome

/-- The request is served, under this identity. -/
def ServedAs (setup : List Op) (before : List Request) (request : Request)
    (identity : AgentIdentity) : Prop :=
  (∃ headers, request.headers = some headers ∧ identityFromHeaders headers = .ok identity) ∧
    ∃ response, outcomeAfter debug setup before request = .ok response

/-- The set-up or a request created a token that this enrollment presents in time. -/
def TokenFor (setup : List Op) (before : List Request) (enrollment : EnrollmentRequestDto) : Prop :=
  (∃ token, .createEnrollmentToken token ∈ setup ∧ token.token = enrollment.token ∧
    token.nodeId = enrollment.nodeId ∧
    formatOperatingSystem token.os = enrollment.platformFamily ∧
    token.serverTrustRoot = enrollment.serverTrustRoot ∧
    enrollment.nowUnixSeconds < token.expiresAtUnixSeconds) ∨
  ∃ creation, .createEnrollmentToken creation ∈ before ∧ creation.token = enrollment.token ∧
    creation.nodeId = enrollment.nodeId ∧
    creation.platformFamily = enrollment.platformFamily ∧
    creation.serverTrustRoot = enrollment.serverTrustRoot ∧
    enrollment.nowUnixSeconds < creation.expiresAtUnixSeconds

/-- The enrollment is served, and its node was not enrolled before. -/
structure ServedFirst (setup : List Op) (before : List Request)
    (enrollment : EnrollmentRequestDto) : Prop where
  served : ∃ response, outcomeAfter debug setup before (.enrollAgent enrollment) = .ok response
  first : ∀ earlier other between, before = earlier ++ .enrollAgent other :: between →
    other.nodeId = enrollment.nodeId →
      ∃ error, outcomeAfter debug setup earlier (.enrollAgent other) = .error error
  setUp : ∀ c ∈ history perform empty setup, ∀ other, c.op = .enrollAgent other →
    other.nodeId = enrollment.nodeId → ∃ error, c.outcome = .error error
  token : TokenFor setup before enrollment

/-- The first enrollment of the node that succeeded named this identity. -/
inductive Enrolled (setup : List Op) (before : List Request) (identity : AgentIdentity) : Prop where
  | setUp {earlier between : List Op} {enrollment : AgentEnrollmentRequest}
      (split : setup = earlier ++ .enrollAgent enrollment :: between)
      (node : enrollment.nodeId = identity.nodeId)
      (fingerprint : enrollment.certificateFingerprint = identity.certificateFingerprint)
      (first : EnrollsFirst earlier enrollment) : Enrolled setup before identity
  | served {earlier between : List Request} {enrollment : EnrollmentRequestDto}
      (split : before = earlier ++ .enrollAgent enrollment :: between)
      (node : enrollment.nodeId = identity.nodeId)
      (fingerprint : enrollment.certificateFingerprint = identity.certificateFingerprint)
      (first : ServedFirst debug setup earlier enrollment) : Enrolled setup before identity

/-- The calls on the plane by which the server has come so far. -/
def callsOf (setup : List Op) (before : List Request) : List Op :=
  setup ++ before.filterMap (boundary debug).admits

variable {debug}

theorem parseOperatingSystem_eq_ok {value : String} {os : OperatingSystem}
    (parsed : parseOperatingSystem debug value = .ok os) : value = formatOperatingSystem os := by
  unfold parseOperatingSystem at parsed
  split at parsed
  case h_4 => cases parsed
  all_goals
    cases parsed
    rfl

variable {setup : List Op}

theorem exec_router (before : List Request) :
    exec (router debug) (.new (planeAfter setup)) before =
      .new (planeAfter (callsOf debug setup before)) := by
  rw [router_serves.exec, callsOf, planeAfter, planeAfter, exec_append]

theorem outcomeAfter_of_unread {before : List Request} {request : Request} {error : HttpApiError}
    (unread : decode debug request = .error error) :
    outcomeAfter debug setup before request = .error error := by
  rw [outcomeAfter, exec_router, router_of_error unread]

theorem outcomeAfter_of_read (setup : List Op) (before : List Request) {request : Request} {op : Op}
    (read : decode debug request = .ok op) :
    (boundary debug).Worded op
      (call perform (planeAfter (callsOf debug setup before)) op).outcome
      (outcomeAfter debug setup before request) := by
  rw [outcomeAfter, exec_router]
  have worded := (router_of_ok read (planeAfter (callsOf debug setup before))).worded
  rwa [call_op] at worded

/-- An operation that was let through came from a request at the same place. -/
theorem exists_request {requests : List Request} {before after : List Op} {op : Op}
    (split : requests.filterMap (boundary debug).admits = before ++ op :: after) :
    ∃ earlier request later, requests = earlier ++ request :: later ∧
      earlier.filterMap (boundary debug).admits = before ∧ Reads debug request op := by
  obtain ⟨front, back, rfl, rfl, rest⟩ := List.filterMap_eq_append_iff.mp split
  obtain ⟨skipped, request, later, rfl, none, read, -⟩ := List.filterMap_eq_cons_iff.mp rest
  refine ⟨front ++ skipped, request, later, ?_, ?_, ?_⟩
  · rw [List.append_assoc]
  · rw [List.filterMap_append, List.filterMap_eq_nil_iff.mpr none, List.append_nil]
  · exact decode_eq_ok.mp (Gateway.admits_eq_some.mp read)

/-- An enrollment among the calls is one of the set-up or of a request. -/
theorem split_callsOf {before : List Request} {front back : List Op} {op : Op}
    (split : callsOf debug setup before = front ++ op :: back) :
    (∃ rest, setup = front ++ op :: rest) ∨
      ∃ earlier request later, before = earlier ++ request :: later ∧
        callsOf debug setup earlier = front ∧ Reads debug request op := by
  have requested {behind : List Op}
      (inRequests : before.filterMap (boundary debug).admits = behind ++ op :: back)
      (place : front = setup ++ behind) :
      ∃ earlier request later, before = earlier ++ request :: later ∧
        callsOf debug setup earlier = front ∧ Reads debug request op := by
    obtain ⟨earlier, request, later, split, admitted, reads⟩ := exists_request inRequests
    exact ⟨earlier, request, later, split, by rw [callsOf, admitted, place], reads⟩
  cases List.append_eq_append_iff.mp split with
  | inl after =>
      obtain ⟨behind, place, inRequests⟩ := after
      exact .inr (requested inRequests place)
  | inr inside =>
      obtain ⟨rest, place, inRequests⟩ := inside
      cases rest with
      | nil =>
          have first : before.filterMap (boundary debug).admits = [] ++ op :: back :=
            inRequests.symm
          exact .inr (requested first (by rw [place, List.append_nil, List.append_nil]))
      | cons other rest =>
          cases inRequests
          exact .inl ⟨rest, place⟩

theorem tokenFor_of_redeemable {before : List Request} {body : EnrollmentRequestDto}
    {os : OperatingSystem} (platform : parseOperatingSystem debug body.platformFamily = .ok os)
    (redeemable : Redeemable (callsOf debug setup before)
      ⟨body.token, body.nodeId, os, body.certificateFingerprint, body.serverTrustRoot,
        body.nowUnixSeconds⟩) : TokenFor setup before body := by
  obtain ⟨token, created, secret, node, sameOs, trustRoot, unexpired⟩ := redeemable
  have named := parseOperatingSystem_eq_ok platform
  cases List.mem_append.mp created with
  | inl setUp =>
      refine .inl ⟨token, setUp, secret, node, ?_, trustRoot, unexpired⟩
      rw [named]
      exact congrArg formatOperatingSystem sameOs
  | inr admitted =>
      obtain ⟨request, requested, read⟩ := List.mem_filterMap.mp admitted
      cases decode_eq_ok.mp (Gateway.admits_eq_some.mp read) with
      | createEnrollmentToken platform' =>
          refine .inr ⟨_, requested, secret, node, ?_, trustRoot, unexpired⟩
          rw [named, parseOperatingSystem_eq_ok platform']
          exact congrArg formatOperatingSystem sameOs

theorem servedFirst_of_enrollsFirst {before : List Request} {body : EnrollmentRequestDto}
    {os : OperatingSystem} (platform : parseOperatingSystem debug body.platformFamily = .ok os)
    (first : EnrollsFirst (callsOf debug setup before)
      ⟨body.token, body.nodeId, os, body.certificateFingerprint, body.serverTrustRoot,
        body.nowUnixSeconds⟩) : ServedFirst debug setup before body := by
  have read := decode_eq_ok.mpr (Reads.enrollAgent platform)
  refine ⟨?_, ?_, ?_, tokenFor_of_redeemable platform first.redeemable⟩
  · obtain ⟨reply, outcome⟩ := first.succeeds
    have worded := outcomeAfter_of_read setup before read
    rw [outcome] at worded
    exact worded.to_ok
  · intro earlier other between split node
    cases read' : decode debug (.enrollAgent other) with
    | error error => exact ⟨error, outcomeAfter_of_unread read'⟩
    | ok op =>
        have worded := outcomeAfter_of_read setup earlier read'
        rw [worded.fails_iff]
        have performed : callsOf debug setup before = callsOf debug setup earlier ++
            op :: between.filterMap (boundary debug).admits := by
          rw [callsOf, split, List.filterMap_append, callsOf,
            List.filterMap_cons_some (Gateway.admits_eq_some.mpr read'), List.append_assoc]
        have recorded : call perform (planeAfter (callsOf debug setup earlier)) op ∈
            history perform .empty (callsOf debug setup before) :=
          (mem_history_iff perform).mpr ⟨_, _, _, performed, rfl⟩
        cases decode_eq_ok.mp read' with
        | enrollAgent => exact first.first _ recorded _ (call_op perform _ _) node
  · intro c recorded other named node
    refine first.first c ?_ other named node
    rw [callsOf, history_append]
    exact List.mem_append_left _ recorded

/-- A request is served only if the plane lets in the agent that it names. -/
theorem letIn_of_served {before : List Request} {request : Request} {identity : AgentIdentity}
    (served : ServedAs debug setup before request identity) :
    (planeAfter (callsOf debug setup before)).requireAgent identity = .ok () := by
  obtain ⟨⟨headers, carried, named⟩, response, answered⟩ := served
  cases read : decode debug request with
  | error error =>
      rw [outcomeAfter_of_unread read] at answered
      cases answered
  | ok op =>
      have worded := outcomeAfter_of_read setup before read
      rw [answered] at worded
      obtain ⟨reply, outcome, -⟩ := worded.of_ok
      have step := call_step (planeAfter (callsOf debug setup before)) op
      rw [outcome] at step
      generalize (call perform (planeAfter (callsOf debug setup before)) op).after = after at step
      cases decode_eq_ok.mp read with
      | createEnrollmentToken | enrollAgent => cases carried
      | pullTask named' =>
          cases carried
          cases named.symm.trans named'
          cases step with
          | delivered guard => exact guard.authenticated
          | accepted attempted => cases attempted
      | submitResult named' | replaySpool named' =>
          cases carried
          cases named.symm.trans named'
          cases step with
          | accepted attempted guard =>
              cases attempted
              exact guard.authenticated

/-- Whom a node was served as is whom the plane knows it as at the end of the run. -/
theorem requireAgent_of_served {requests before after : List Request} {request : Request}
    {identity : AgentIdentity} (split : requests = before ++ request :: after)
    (served : ServedAs debug setup before request identity) (other : AgentIdentity)
    (sameNode : other.nodeId = identity.nodeId) :
    (planeAfter (callsOf debug setup requests)).requireAgent other =
      if identity.certificateFingerprint = other.certificateFingerprint then .ok ()
      else .error .agentIdentityMismatch := by
  rw [callsOf, split, List.filterMap_append, ← List.append_assoc]
  exact requireAgent_stays (letIn_of_served served) _ other sameNode

/-- A server that starts on a plane that calls have set up serves an agent only
after the first enrollment of its node bound its fingerprint, over HTTP under a
token that was created before, or in the set-up; and in one run a node is served
under one fingerprint. -/
theorem served_agents_enrolled (setup : List Op) (requests : List Request) :
    (∀ before request after, requests = before ++ request :: after →
      ∀ identity, ServedAs debug setup before request identity →
        Enrolled debug setup before identity) ∧
    (∀ before request after, requests = before ++ request :: after →
      ∀ identity, ServedAs debug setup before request identity →
        ∀ before' request' after', requests = before' ++ request' :: after' →
          ∀ identity', ServedAs debug setup before' request' identity' →
            identity'.nodeId = identity.nodeId → identity' = identity) := by
  refine ⟨?_, ?_⟩
  · intro before request after _ identity served
    obtain ⟨agent, found, same⟩ := requireAgent_eq_ok.mp (letIn_of_served served)
    obtain ⟨ops, enrolls, rest, split, node, fingerprint, first⟩ := enrolled_of_found found
    cases split_callsOf split with
    | inl inSetup =>
        obtain ⟨between, setUp⟩ := inSetup
        exact .setUp setUp node (fingerprint.trans same) first
    | inr requested =>
        obtain ⟨earlier, enrollment, between, rfl, rfl, reads⟩ := requested
        cases reads with
        | enrollAgent platform =>
            exact .served rfl node (fingerprint.trans same)
              (servedFirst_of_enrollsFirst platform first)
  · intro before request after split identity served before' request' after' split' identity'
      served' node
    have own := requireAgent_of_served split' served' identity' rfl
    rw [if_pos rfl, requireAgent_of_served split served identity' node] at own
    have fingerprint : identity.certificateFingerprint = identity'.certificateFingerprint := by
      by_contra other
      rw [if_neg other] at own
      cases own
    obtain ⟨_, _⟩ := identity
    obtain ⟨_, _⟩ := identity'
    cases node
    cases fingerprint
    rfl

/-- A token and a task, as the server is given them before it listens. -/
def queuedTask : List Op := [
  .createEnrollmentToken ⟨"token-prod-web-01", "demo-token", "prod-web-01", .linux, "trust-root",
    200, "enroll-nonce"⟩,
  .enqueueTask ⟨⟨"env-1", "run-1", "task-1", "prod-web-01", 100, 200, "nonce-1",
      [⟨"service.systemd"⟩], "audit-1"⟩,
    .collectEvidence ⟨"service.systemd"⟩ "system:node/prod-web-01/service/sshd"⟩]

def webEnrollment : EnrollmentRequestDto :=
  ⟨"demo-token", "prod-web-01", "linux", "cert-fingerprint", "trust-root", 100⟩

/-- The agent that enrolled pulls the task. -/
theorem served_agents_enrolled_pull :
    let identity : AgentIdentity := ⟨"prod-web-01", "cert-fingerprint"⟩
    ServedAs .silent queuedTask [.enrollAgent webEnrollment] webPull identity ∧
      Enrolled .silent queuedTask [.enrollAgent webEnrollment] identity := by
  intro identity
  have pulled : (outcomeAfter .silent queuedTask [.enrollAgent webEnrollment] webPull).isOk :=
    by decide +kernel
  have served : ServedAs .silent queuedTask [.enrollAgent webEnrollment] webPull identity := by
    refine ⟨⟨webHeaders, rfl, by decide +kernel⟩, ?_⟩
    cases answer : outcomeAfter .silent queuedTask [.enrollAgent webEnrollment] webPull with
    | ok response => exact ⟨response, rfl⟩
    | error error =>
        rw [answer] at pulled
        cases pulled
  exact ⟨served, (served_agents_enrolled queuedTask [.enrollAgent webEnrollment, webPull]).1
    [.enrollAgent webEnrollment] webPull [] rfl identity served⟩

/-- A replay of the result at the time that its submission names. The replay does not
read what time the spooled record names. -/
structure ReplayOf (body : AgentResultSubmissionDto) (spool : SpoolReplayRequest) : Prop where
  time : body.nowUnixSeconds = some spool.nowUnixSeconds
  result : { spool.result with nowUnixSeconds := body.nowUnixSeconds } = body

/-- The same request, or the same result at the same time by the other route. -/
inductive Rerouted : Request → Request → Prop where
  | same (request : Request) : Rerouted request request
  | spooled (headers : HeaderMap) {body : AgentResultSubmissionDto} {spool : SpoolReplayRequest}
      (replay : ReplayOf body spool) :
      Rerouted (.submitResult headers body) (.replaySpool headers spool)
  | submitted (headers : HeaderMap) {body : AgentResultSubmissionDto} {spool : SpoolReplayRequest}
      (replay : ReplayOf body spool) :
      Rerouted (.replaySpool headers spool) (.submitResult headers body)

/-- Two calls that differ in the wording of an acceptance at most. -/
structure SameEffect (c d : Call HttpApiError HttpState Response Request) : Prop where
  before : c.before = d.before
  after : c.after = d.after
  status : statusOf c.outcome = statusOf d.outcome
  failure : ∀ error, c.outcome = .error error ↔ d.outcome = .error error

theorem SameEffect.symm {c d : Call HttpApiError HttpState Response Request}
    (same : SameEffect c d) : SameEffect d c :=
  ⟨same.before.symm, same.after.symm, same.status.symm, fun error => (same.failure error).symm⟩

theorem SameEffect.refl (c : Call HttpApiError HttpState Response Request) : SameEffect c c :=
  ⟨rfl, rfl, rfl, fun _ => Iff.rfl⟩

/-- Two operations that make one attempt leave the plane in one state. -/
theorem call_of_attempt (plane : ControlPlane) {op op' : Op} {attempt : SubmissionAttempt}
    (attempted : op.attempt = some attempt) (attempted' : op'.attempt = some attempt) :
    (call perform plane op).after = (call perform plane op').after ∧
      (((call perform plane op).outcome = .ok op.acknowledgement ∧
          (call perform plane op').outcome = .ok op'.acknowledgement) ∨
        ∃ error, (call perform plane op).outcome = .error error ∧
          (call perform plane op').outcome = .error error) := by
  cases run : (ControlPlane.submitResult attempt.identity attempt.submission
      attempt.nowUnixSeconds).run plane with
  | ok done after =>
      rw [call_of_answer perform op (perform_of_attempt attempted) run,
        call_of_answer perform op' (perform_of_attempt attempted') run]
      exact ⟨rfl, .inl ⟨rfl, rfl⟩⟩
  | error error after =>
      rw [call_of_refusal perform op (perform_of_attempt attempted) run,
        call_of_refusal perform op' (perform_of_attempt attempted') run]
      exact ⟨rfl, .inr ⟨error, rfl, rfl⟩⟩

/-- What the plane is given of a result does not depend on the time that it names. -/
theorem ReplayOf.intoCore {body : AgentResultSubmissionDto} {spool : SpoolReplayRequest}
    (replay : ReplayOf body spool) (debug : DebugTexts) :
    spool.result.intoCore debug = body.intoCore debug := by
  rw [← replay.result]
  rfl

theorem ReplayOf.decode (debug : DebugTexts) (headers : HeaderMap)
    {body : AgentResultSubmissionDto} {spool : SpoolReplayRequest} (replay : ReplayOf body spool) :
    (∃ error, decode debug (.submitResult headers body) = .error error ∧
      decode debug (.replaySpool headers spool) = .error error) ∨
    ∃ identity submission,
      decode debug (.submitResult headers body) =
        .ok (.submitResult identity submission spool.nowUnixSeconds) ∧
      decode debug (.replaySpool headers spool) =
        .ok (.replaySpool identity spool.spoolId submission spool.nowUnixSeconds) := by
  cases named : identityFromHeaders headers with
  | error error =>
      refine .inl ⟨error, ?_, ?_⟩
      · simp only [Http.decode, named]
        rfl
      · simp only [Http.decode, named]
        rfl
  | ok identity =>
      cases result : body.intoCore debug with
      | error error =>
          refine .inl ⟨error, ?_, ?_⟩
          · simp only [Http.decode, named, replay.time, result]
            rfl
          · simp only [Http.decode, named, replay.intoCore, result]
            rfl
      | ok submission =>
          exact .inr ⟨identity, submission,
            decode_eq_ok.mpr (.submitResult named replay.time result),
            decode_eq_ok.mpr (.replaySpool named ((replay.intoCore debug).trans result))⟩

theorem sameEffect_of_attempt {request request' : Request} {op op' : Op}
    {attempt : SubmissionAttempt} (attempted : op.attempt = some attempt)
    (attempted' : op'.attempt = some attempt) (read : decode debug request = .ok op)
    (read' : decode debug request' = .ok op') (plane : ControlPlane) :
    SameEffect (call (router debug) (.new plane) request)
      (call (router debug) (.new plane) request') := by
  have one := router_of_ok read plane
  have other := router_of_ok read' plane
  obtain ⟨same, outcome⟩ := call_of_attempt plane attempted attempted'
  have after : (call (router debug) (.new plane) request).after =
      (call (router debug) (.new plane) request').after := by
    rw [one.after, other.after, same]
  have before : (call (router debug) (.new plane) request).before =
      (call (router debug) (.new plane) request').before := by
    rw [call_before, call_before]
  cases outcome with
  | inl accepted =>
      have worded := one.worded
      have worded' := other.worded
      rw [accepted.1] at worded
      rw [accepted.2] at worded'
      obtain ⟨reply, answered⟩ := worded.to_ok
      obtain ⟨reply', answered'⟩ := worded'.to_ok
      refine ⟨before, after, ?_, ?_⟩
      · rw [answered, answered']
        rfl
      · intro error
        rw [answered, answered']
        exact ⟨nofun, nofun⟩
  | inr refused =>
      obtain ⟨error, failed, failed'⟩ := refused
      have worded := one.worded
      have worded' := other.worded
      rw [failed] at worded
      rw [failed'] at worded'
      have alike := worded.to_error.trans worded'.to_error.symm
      refine ⟨before, after, ?_, ?_⟩
      · rw [alike]
      · intro error
        rw [alike]

theorem ReplayOf.sameEffect (debug : DebugTexts) (headers : HeaderMap)
    {body : AgentResultSubmissionDto} {spool : SpoolReplayRequest} (replay : ReplayOf body spool)
    (plane : ControlPlane) :
    SameEffect (call (router debug) (.new plane) (.submitResult headers body))
      (call (router debug) (.new plane) (.replaySpool headers spool)) := by
  cases replay.decode debug headers with
  | inl refused =>
      obtain ⟨error, direct, replayed⟩ := refused
      rw [router_of_error direct, router_of_error replayed]
      exact ⟨rfl, rfl, rfl, fun _ => Iff.rfl⟩
  | inr accepted =>
      obtain ⟨identity, submission, direct, replayed⟩ := accepted
      exact sameEffect_of_attempt rfl rfl direct replayed plane

theorem call_rerouted (debug : DebugTexts) {request request' : Request}
    (rerouted : Rerouted request request') (plane : ControlPlane) :
    SameEffect (call (router debug) (.new plane) request)
      (call (router debug) (.new plane) request') := by
  cases rerouted with
  | same => exact .refl _
  | spooled headers replay => exact replay.sameEffect debug headers plane
  | submitted headers replay => exact (replay.sameEffect debug headers plane).symm

/-- A result may be replayed in place of being submitted, and submitted in place of
being replayed, at any points of a run if the times agree: the server passes through
the same states, refuses the same requests with the same errors and answers the
others with the same status. -/
theorem spool_replay_is_submission (plane : ControlPlane) (requests requests' : List Request)
    (rerouted : List.Forall₂ Rerouted requests requests') :
    exec (router debug) (.new plane) requests = exec (router debug) (.new plane) requests' ∧
      List.Forall₂ SameEffect (history (router debug) (.new plane) requests)
        (history (router debug) (.new plane) requests') := by
  refine history_forall₂ (router debug) (I := fun state => ∃ plane, state = HttpState.new plane)
    ?_ rerouted ⟨plane, rfl⟩
  intro state request request' housed related
  obtain ⟨plane', rfl⟩ := housed
  have effect := call_rerouted debug related plane'
  have housed : exec (router debug) (.new plane') [request] = _ :=
    router_serves.exec plane' [request]
  exact ⟨⟨_, housed⟩, effect.after, effect⟩

def webResult : AgentResultSubmissionDto :=
  ⟨"env-1", "run-1", "task-1", "prod-web-01", "nonce-1", "succeeded", some 102, [], "audit-1"⟩

/-- The record in the spool names no time. -/
def webSpool : SpoolReplayRequest :=
  ⟨"spool-1", none, { webResult with nowUnixSeconds := none }, 102⟩

/-- An agent has pulled its task, and its result is accepted either way. -/
theorem spooled_result_replayed :
    let plane := (exec (router .silent) (.new (planeAfter queuedTask))
      [.enrollAgent webEnrollment, webPull]).controlPlane
    statusOf (call (router .silent) (.new plane) (.replaySpool webHeaders webSpool)).outcome =
        .ok ∧
      exec (router .silent) (.new plane) [.submitResult webHeaders webResult] =
        exec (router .silent) (.new plane) [.replaySpool webHeaders webSpool] ∧
      List.Forall₂ SameEffect
        (history (router .silent) (.new plane) [.submitResult webHeaders webResult])
        (history (router .silent) (.new plane) [.replaySpool webHeaders webSpool]) := by
  intro plane
  refine ⟨by decide +kernel, ?_⟩
  exact spool_replay_is_submission plane _ _ (.cons (.spooled webHeaders ⟨rfl, rfl⟩) .nil)

end Http

end Runlane
