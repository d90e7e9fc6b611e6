import Runlane.ControlPlane.Steps

/-!
Enrollment and authentication over whole runs.

Tokens and agent records are both found by first match in lists that only grow.
What a node was enrolled with first is therefore what it is authenticated by
ever after, and no later token or enrollment takes its place. The other side of
this is that a later enrollment of the node succeeds without being of any use,
and that nothing marks a token as used.
-/

namespace Runlane

namespace ControlPlane

open Calls KeyedList

theorem requireAgent_eq_ok {plane : ControlPlane} {identity : AgentIdentity} :
    plane.requireAgent identity = .ok () ↔
      ∃ agent, lookup AgentIdentityRecord.nodeId plane.agents identity.nodeId = some agent ∧
        agent.certificateFingerprint = identity.certificateFingerprint := by
  unfold requireAgent
  cases lookup AgentIdentityRecord.nodeId plane.agents identity.nodeId with
  | none => simp
  | some agent => simp

def Op.tokens : Op → List EnrollmentToken
  | .createEnrollmentToken token => [token]
  | _ => []

/-- The agent that the call enrolled, if it enrolled one. -/
def enrolledBy (c : Call RuntimeError ControlPlane Reply Op) : Option AgentIdentityRecord :=
  match c.outcome with
  | .ok (.enrolled record) => some record
  | _ => none

namespace Step

variable {plane after : ControlPlane} {op : Op} {outcome : Except RuntimeError Reply}

theorem enrollmentTokens (h : Step plane op outcome after) :
    after.enrollmentTokens = plane.enrollmentTokens ++ op.tokens := by
  cases h with
  | tokenCreated token => rfl
  | accepted attempted | submissionRejected attempted | submissionRefused attempted =>
      cases op with
      | submitResult | replaySpool => exact (List.append_nil _).symm
      | _ => cases attempted
  | _ => exact (List.append_nil _).symm

theorem agents (h : Step plane op outcome after) :
    after.agents = plane.agents ++ (enrolledBy ⟨plane, op, outcome, after⟩).toList := by
  cases h with
  | enrolled => rfl
  | accepted attempted =>
      cases op with
      | submitResult | replaySpool => exact (List.append_nil _).symm
      | _ => cases attempted
  | _ => exact (List.append_nil _).symm

theorem of_enrollAgent {request : AgentEnrollmentRequest} {reply : Reply}
    (h : Step plane (.enrollAgent request) (.ok reply) after) :
    ∃ token record, Enrolls plane request token ∧ reply = .enrolled record ∧
      record = ⟨request.nodeId, request.os, request.certificateFingerprint,
        request.serverTrustRoot⟩ := by
  cases h with
  | enrolled guard same => exact ⟨_, _, guard, rfl, same⟩
  | accepted attempted => cases attempted

/-- Only an enrollment enrolls, and it enrolls what was requested. -/
theorem of_enrolledBy {record : AgentIdentityRecord} (h : Step plane op outcome after)
    (enrolled : enrolledBy ⟨plane, op, outcome, after⟩ = some record) :
    ∃ request token, op = .enrollAgent request ∧ outcome = .ok (.enrolled record) ∧
      Enrolls plane request token ∧
      record = ⟨request.nodeId, request.os, request.certificateFingerprint,
        request.serverTrustRoot⟩ := by
  cases h with
  | enrolled guard same =>
      cases enrolled
      exact ⟨_, _, rfl, rfl, guard, same⟩
  | accepted attempted =>
      cases op with
      | submitResult | replaySpool => cases enrolled
      | _ => cases attempted
  | _ => cases enrolled

theorem enrolls_iff {request : AgentEnrollmentRequest}
    (h : Step plane (.enrollAgent request) outcome after) :
    (∃ reply, outcome = .ok reply) ↔ ∃ token, Enrolls plane request token := by
  cases h with
  | enrolled guard => exact ⟨fun _ => ⟨_, guard⟩, fun _ => ⟨_, rfl⟩⟩
  | enrollmentRefused guard => exact ⟨nofun, fun ⟨token, enrolls⟩ => absurd enrolls (guard token)⟩
  | accepted attempted | submissionRejected attempted | submissionRefused attempted =>
      cases attempted

end Step

theorem enrollmentTokens_eq (ops : List Op) :
    (planeAfter ops).enrollmentTokens = ops.flatMap Op.tokens :=
  exec_log_op perform (fun plane op => (call_step plane op).enrollmentTokens) empty ops

theorem agents_eq (ops : List Op) :
    (planeAfter ops).agents = (history perform empty ops).filterMap enrolledBy := by
  have logged : ∀ plane op, (call perform plane op).after.agents =
      plane.agents ++ (enrolledBy (call perform plane op)).toList := by
    intro plane op
    have step := (call_step plane op).agents
    rw [step]
    simp only [enrolledBy]
  rw [List.filterMap_eq_flatMap_toList]
  exact exec_log perform logged empty ops

theorem agents_grow (ops more : List Op) :
    (planeAfter ops).agents <+: (planeAfter (ops ++ more)).agents := by
  rw [agents_eq, agents_eq, history_append, List.filterMap_append]
  exact List.prefix_append _ _

/-- A record found for a node is found for it ever after. -/
theorem agent_stays {ops : List Op} {node : String} {agent : AgentIdentityRecord}
    (found : lookup AgentIdentityRecord.nodeId (planeAfter ops).agents node = some agent)
    (more : List Op) :
    lookup AgentIdentityRecord.nodeId (planeAfter (ops ++ more)).agents node = some agent := by
  obtain ⟨later, grown⟩ := agents_grow ops more
  rw [← grown]
  exact lookup_append_of_some _ found later

/-- A token for this request was created in these operations and is unexpired at
the time that the request names. -/
def Redeemable (ops : List Op) (request : AgentEnrollmentRequest) : Prop :=
  ∃ token, .createEnrollmentToken token ∈ ops ∧ token.token = request.token ∧
    token.nodeId = request.nodeId ∧ token.os = request.os ∧
    token.serverTrustRoot = request.serverTrustRoot ∧
    request.nowUnixSeconds < token.expiresAtUnixSeconds

theorem mem_tokens {ops : List Op} {token : EnrollmentToken} :
    token ∈ ops.flatMap Op.tokens ↔ .createEnrollmentToken token ∈ ops := by
  rw [List.mem_flatMap]
  constructor
  · intro issued
    obtain ⟨op, hop, created⟩ := issued
    cases op with
    | createEnrollmentToken other =>
        rw [List.mem_singleton.mp created]
        exact hop
    | _ => cases created
  · intro created
    exact ⟨_, created, List.mem_singleton.mpr rfl⟩

theorem Enrolls.redeemable {ops : List Op} {request : AgentEnrollmentRequest}
    {token : EnrollmentToken} (h : Enrolls (planeAfter ops) request token) :
    Redeemable ops request := by
  have issued := mem_of_lookup _ h.issued
  rw [enrollmentTokens_eq] at issued
  exact ⟨token, mem_tokens.mp issued, key_of_lookup _ h.issued, h.node, h.os, h.trustRoot,
    h.unexpired⟩

/-- After these operations the request succeeds, as the first one for its node,
and it presents a token that was created for it. -/
structure EnrollsFirst (ops : List Op) (request : AgentEnrollmentRequest) : Prop where
  succeeds : ∃ reply, (call perform (planeAfter ops) (.enrollAgent request)).outcome = .ok reply
  first : ∀ c ∈ history perform empty ops, ∀ earlier, c.op = .enrollAgent earlier →
    earlier.nodeId = request.nodeId → ∃ error, c.outcome = .error error
  redeemable : Redeemable ops request

/-- The agent that the call is made for. -/
def Op.caller : Op → Option AgentIdentity
  | .pullTask identity _ => some identity
  | .submitResult identity _ _ | .replaySpool identity _ _ _ => some identity
  | _ => none

/-- The operation is made for this agent after the others, and the agent is let in. -/
def LetIn (ops : List Op) (op : Op) (identity : AgentIdentity) : Prop :=
  op.caller = some identity ∧ (planeAfter ops).requireAgent identity = .ok ()

theorem enrolled_of_found {ops : List Op} {node : String} {agent : AgentIdentityRecord}
    (found : lookup AgentIdentityRecord.nodeId (planeAfter ops).agents node = some agent) :
    ∃ before request after, ops = before ++ .enrollAgent request :: after ∧
      request.nodeId = node ∧ request.certificateFingerprint = agent.certificateFingerprint ∧
      EnrollsFirst before request := by
  rw [agents_eq] at found
  have named := key_of_lookup _ found
  obtain ⟨earlier, c, later, split, enrolled, others⟩ := exists_of_lookup_filterMap _ found
  obtain ⟨before, op, after, rfl, rfl, rfl⟩ := history_split split
  have step := call_step (planeAfter before) op
  rw [enrolledBy] at enrolled
  obtain ⟨request, token, rfl, outcome, guard, rfl⟩ := step.of_enrolledBy enrolled
  refine ⟨before, request, after, rfl, named, rfl, ⟨_, outcome⟩, ?_, guard.redeemable⟩
  intro d hd request' hop sameNode
  obtain ⟨plane, op', outcome', plane'⟩ := d
  have step' : Step plane op' outcome' plane' := history_step hd
  cases hop
  cases outcome' with
  | error error => exact ⟨error, rfl⟩
  | ok reply =>
      obtain ⟨_, record, _, rfl, rfl⟩ := step'.of_enrollAgent
      exact absurd (sameNode.trans named) (others _ hd _ rfl)

theorem requireAgent_stays {ops : List Op} {identity : AgentIdentity}
    (accepted : (planeAfter ops).requireAgent identity = .ok ()) (more : List Op)
    (other : AgentIdentity) (sameNode : other.nodeId = identity.nodeId) :
    (planeAfter (ops ++ more)).requireAgent other =
      if identity.certificateFingerprint = other.certificateFingerprint then .ok ()
      else .error .agentIdentityMismatch := by
  obtain ⟨agent, found, same⟩ := requireAgent_eq_ok.mp accepted
  have stays := agent_stays found more
  rw [← sameNode] at stays
  rw [requireAgent, stays, ← same]

/-- Whoever is let in for a node was enrolled under the same fingerprint earlier
in the run, by the first enrollment of that node that succeeded, with a token
created for it before. One fingerprint at most is let in for a node, and it is
let in ever after: no operation hands the node to another. -/
theorem authentication_provenance (ops : List Op) :
    (∀ before op after, ops = before ++ op :: after → ∀ identity, LetIn before op identity →
      ∃ earlier request between, before = earlier ++ .enrollAgent request :: between ∧
        request.nodeId = identity.nodeId ∧
        request.certificateFingerprint = identity.certificateFingerprint ∧
        EnrollsFirst earlier request) ∧
    (∀ before op after, ops = before ++ op :: after → ∀ identity, LetIn before op identity →
      ∀ before' op' after', ops = before' ++ op' :: after' →
        ∀ identity', LetIn before' op' identity' → identity'.nodeId = identity.nodeId →
          identity'.certificateFingerprint = identity.certificateFingerprint) ∧
    (∀ before after, ops = before ++ after → ∀ identity,
      (planeAfter before).requireAgent identity = .ok () →
        (planeAfter ops).requireAgent identity = .ok () ∧
        ∀ other, other.nodeId = identity.nodeId →
          other.certificateFingerprint ≠ identity.certificateFingerprint →
            (planeAfter ops).requireAgent other = .error .agentIdentityMismatch) := by
  have stays : ∀ before after, ops = before ++ after → ∀ identity,
      (planeAfter before).requireAgent identity = .ok () →
        ∀ other, other.nodeId = identity.nodeId → (planeAfter ops).requireAgent other =
          if identity.certificateFingerprint = other.certificateFingerprint then .ok ()
          else .error .agentIdentityMismatch := by
    intro before after hops identity accepted other sameNode
    rw [hops]
    exact requireAgent_stays accepted after other sameNode
  refine ⟨?_, ?_, ?_⟩
  · intro before op after _ identity letIn
    obtain ⟨agent, found, same⟩ := requireAgent_eq_ok.mp letIn.2
    obtain ⟨earlier, request, between, split, node, fingerprint, first⟩ := enrolled_of_found found
    exact ⟨earlier, request, between, split, node, fingerprint.trans same, first⟩
  · intro before op after hops identity letIn before' op' after' hops' identity' letIn' sameNode
    have one := stays before _ hops identity letIn.2 identity' sameNode
    have other := stays before' _ hops' identity' letIn'.2 identity' rfl
    rw [other, if_pos rfl] at one
    by_contra apart
    rw [if_neg (Ne.symm apart)] at one
    cases one
  · intro before after hops identity accepted
    have one := stays before after hops identity accepted
    refine ⟨?_, ?_⟩
    · rw [one identity rfl, if_pos rfl]
    · intro other sameNode apart
      rw [one other sameNode, if_neg (Ne.symm apart)]

/-- The call is an enrollment that presents this secret and succeeds. -/
def Redeems (c : Call RuntimeError ControlPlane Reply Op) (secret : String) : Prop :=
  ∃ request, c.op = .enrollAgent request ∧ request.token = secret ∧
    ∃ reply, c.outcome = .ok reply

/-- No two enrollments of the run succeed with one secret. -/
def TokensRedeemedOnce (ops : List Op) : Prop :=
  (history perform empty ops).Pairwise fun earlier later =>
    ∀ secret, Redeems earlier secret → ¬ Redeems later secret

/-- Two requests of the run present one secret, each at a time at which a token
created for it before is unexpired. -/
def PresentsTwice (ops : List Op) : Prop :=
  ∃ before first between second after,
    ops = before ++ .enrollAgent first :: (between ++ .enrollAgent second :: after) ∧
      first.token = second.token ∧ Redeemable before first ∧
      Redeemable (before ++ .enrollAgent first :: between) second

/-- With distinct secrets a request succeeds exactly when a token was created for it. -/
theorem redeemable_iff {ops : List Op} {request : AgentEnrollmentRequest}
    (distinct : ((ops.flatMap Op.tokens).map EnrollmentToken.token).Nodup) :
    Redeemable ops request ↔ ∃ token, Enrolls (planeAfter ops) request token := by
  constructor
  · intro redeemable
    obtain ⟨token, created, secret, node, os, trustRoot, unexpired⟩ := redeemable
    rw [List.nodup_iff_pairwise_ne, List.pairwise_map] at distinct
    have found := lookup_of_pairwise EnrollmentToken.token distinct (mem_tokens.mpr created)
    rw [← enrollmentTokens_eq, secret] at found
    exact ⟨token, found, unexpired, node, os, trustRoot⟩
  · intro enrolls
    obtain ⟨token, guard⟩ := enrolls
    exact guard.redeemable

theorem redeems_call {ops : List Op} {op : Op} {secret : String} :
    Redeems (call perform (planeAfter ops) op) secret ↔
      ∃ request, op = .enrollAgent request ∧ request.token = secret ∧
        ∃ token, Enrolls (planeAfter ops) request token := by
  rw [Redeems, call_op]
  constructor
  · intro redeems
    obtain ⟨request, rfl, presented, succeeds⟩ := redeems
    exact ⟨request, rfl, presented, (call_step _ _).enrolls_iff.mp succeeds⟩
  · intro enrolls
    obtain ⟨request, rfl, presented, guard⟩ := enrolls
    exact ⟨request, rfl, presented, (call_step _ _).enrolls_iff.mpr guard⟩

/-- Nothing in the plane records that a token was used, so a token is used once
as long as nobody presents it again in time. -/
theorem tokens_redeemed_once_iff (ops : List Op)
    (distinct : ((ops.flatMap Op.tokens).map EnrollmentToken.token).Nodup) :
    TokensRedeemedOnce ops ↔ ¬ PresentsTwice ops := by
  have initial : ∀ before after, ops = before ++ after →
      ((before.flatMap Op.tokens).map EnrollmentToken.token).Nodup := by
    intro before after hops
    rw [hops, List.flatMap_append, List.map_append] at distinct
    exact (List.nodup_append.mp distinct).1
  rw [TokensRedeemedOnce, history_pairwise_iff]
  constructor
  · intro once twice
    obtain ⟨before, first, between, second, after, hops, same, present, again⟩ := twice
    have split : ops =
        (before ++ .enrollAgent first :: between) ++ .enrollAgent second :: after := by
      rw [hops, List.append_assoc, List.cons_append]
    refine once before _ between _ after hops first.token ?_ ?_
    · exact redeems_call.mpr ⟨first, rfl, rfl, (redeemable_iff (initial before _ hops)).mp present⟩
    · exact redeems_call.mpr ⟨second, rfl, same.symm, (redeemable_iff (initial _ _ split)).mp again⟩
  · intro once before op between op' after hops secret redeems redeems'
    obtain ⟨first, rfl, presented, token, guard⟩ := redeems_call.mp redeems
    obtain ⟨second, rfl, presented', token', guard'⟩ := redeems_call.mp redeems'
    exact once ⟨before, first, between, second, after, hops, presented.trans presented'.symm,
      guard.redeemable, guard'.redeemable⟩

/-- One token, presented for two certificates. -/
def reusedToken : List Op := [
  .createEnrollmentToken ⟨"token-1", "secret-1", "node-a", .linux, "root", 100, "enroll-1"⟩,
  .enrollAgent ⟨"secret-1", "node-a", .linux, "fingerprint-a", "root", 1⟩,
  .enrollAgent ⟨"secret-1", "node-a", .linux, "fingerprint-b", "root", 2⟩]

theorem reused_token_redeemed_once :
    TokensRedeemedOnce reusedToken ↔ ¬ PresentsTwice reusedToken :=
  tokens_redeemed_once_iff reusedToken (by decide)

theorem token_redeemed_twice :
    ¬ ∀ ops : List Op, ((ops.flatMap Op.tokens).map EnrollmentToken.token).Nodup →
      TokensRedeemedOnce ops := by
  intro h
  let token : EnrollmentToken :=
    ⟨"token-1", "secret-1", "node-a", .linux, "root", 100, "enroll-1"⟩
  let request (fingerprint : String) (now : Nat) : AgentEnrollmentRequest :=
    ⟨"secret-1", "node-a", .linux, fingerprint, "root", now⟩
  have once := (history_pairwise_iff perform).mp (h reusedToken (by decide))
    [.createEnrollmentToken token] (.enrollAgent (request "fingerprint-a" 1)) []
    (.enrollAgent (request "fingerprint-b" 2)) [] rfl "secret-1"
  refine once ?_ ?_
  · exact redeems_call.mpr ⟨_, rfl, rfl, token, rfl, by decide, rfl, rfl, rfl⟩
  · exact redeems_call.mpr ⟨_, rfl, rfl, token, rfl, by decide, rfl, rfl, rfl⟩

/-- No enrollment of the run has succeeded with this secret. -/
def Unused (ops : List Op) (secret : String) : Prop :=
  ∀ c ∈ history perform empty ops, ¬ Redeems c secret

/-- The token was issued, and the request presents it in time with all that it names. -/
structure Presents (ops : List Op) (token : EnrollmentToken)
    (request : AgentEnrollmentRequest) : Prop where
  issued : token ∈ (planeAfter ops).enrollmentTokens
  secret : token.token = request.token
  node : token.nodeId = request.nodeId
  os : token.os = request.os
  trustRoot : token.serverTrustRoot = request.serverTrustRoot
  unexpired : request.nowUnixSeconds < token.expiresAtUnixSeconds

/-- The enrollment succeeds, and the agent it returns is let in afterwards. -/
def EnrollsUsably (plane : ControlPlane) (request : AgentEnrollmentRequest) : Prop :=
  ∃ record after, (enrollAgent request).run plane = .ok record after ∧
    after.requireAgent record.identity = .ok ()

/-- An earlier token has the same secret and does not fit the request, or an
earlier record of the node has another fingerprint. -/
inductive Shadowed (plane : ControlPlane) (request : AgentEnrollmentRequest) : Prop where
  | token {first : EnrollmentToken}
      (found : lookup EnrollmentToken.token plane.enrollmentTokens request.token = some first)
      (unfit : first.expiresAtUnixSeconds ≤ request.nowUnixSeconds ∨
        first.nodeId ≠ request.nodeId ∨ first.os ≠ request.os ∨
        first.serverTrustRoot ≠ request.serverTrustRoot)
  | agent {agent : AgentIdentityRecord}
      (found : lookup AgentIdentityRecord.nodeId plane.agents request.nodeId = some agent)
      (other : agent.certificateFingerprint ≠ request.certificateFingerprint)

theorem requireAgent_enrolled {plane : ControlPlane} {record : AgentIdentityRecord} :
    (plane.enrolled record).requireAgent record.identity = .ok () ↔
      ∀ agent, lookup AgentIdentityRecord.nodeId plane.agents record.nodeId = some agent →
        agent.certificateFingerprint = record.certificateFingerprint := by
  rw [requireAgent_eq_ok]
  simp only [enrolled, AgentIdentityRecord.identity, lookup_append]
  cases lookup AgentIdentityRecord.nodeId plane.agents record.nodeId with
  | none => simp [lookup]
  | some agent => simp

theorem Presents.enrollsUsably_iff {ops : List Op} {token : EnrollmentToken}
    {request : AgentEnrollmentRequest} (h : Presents ops token request) :
    EnrollsUsably (planeAfter ops) request ↔ ¬ Shadowed (planeAfter ops) request := by
  obtain ⟨first, found⟩ := exists_of_mem EnrollmentToken.token h.issued h.secret
  constructor
  · intro usable shadowed
    obtain ⟨record, after, run, letIn⟩ := usable
    by_cases guard : Enrolls (planeAfter ops) request first
    · obtain ⟨record', rfl, run'⟩ := enrollAgent_run guard
      cases run'.symm.trans run
      cases shadowed with
      | token found' unfit =>
          cases found.symm.trans found'
          have expired := Nat.not_le.mpr guard.unexpired
          simp [expired, guard.node, guard.os, guard.trustRoot] at unfit
      | agent found other => exact other (requireAgent_enrolled.mp letIn _ found)
    · have refused : ∀ token, ¬ Enrolls (planeAfter ops) request token := by
        intro other enrolls
        cases found.symm.trans enrolls.issued
        exact guard enrolls
      obtain ⟨error, run'⟩ := enrollAgent_refused refused
      cases run'.symm.trans run
  · intro clear
    have guard : Enrolls (planeAfter ops) request first := by
      by_contra refused
      refine clear (.token found ?_)
      by_contra fits
      simp only [not_or, not_not, Nat.not_le] at fits
      exact refused ⟨found, fits.1, fits.2.1, fits.2.2.1, fits.2.2.2⟩
    obtain ⟨record, rfl, run⟩ := enrollAgent_run guard
    refine ⟨_, _, run, requireAgent_enrolled.mpr ?_⟩
    intro agent found
    by_contra other
    exact clear (.agent found other)

/-- An issued token, used or not, enrolls an agent that is let in unless an
earlier token or an earlier record of the node stands before it. -/
theorem presented_token_enrolls_iff (ops : List Op) (token : EnrollmentToken)
    (request : AgentEnrollmentRequest) :
    (Presents ops token request → EnrollsUsably (planeAfter ops) request) ↔
      (Presents ops token request → ¬ Shadowed (planeAfter ops) request) := by
  constructor
  · intro usable presents
    exact presents.enrollsUsably_iff.mp (usable presents)
  · intro clear presents
    exact presents.enrollsUsably_iff.mpr (clear presents)

/-- A node that is enrolled, and a new token for it. -/
def renewal : List Op := [
  .createEnrollmentToken ⟨"token-1", "secret-1", "node-a", .linux, "root", 100, "enroll-1"⟩,
  .enrollAgent ⟨"secret-1", "node-a", .linux, "fingerprint-a", "root", 1⟩,
  .createEnrollmentToken ⟨"token-2", "secret-2", "node-a", .linux, "root", 200, "enroll-2"⟩]

theorem renewed_certificate_refused :
    ¬ ∀ (ops : List Op) (token : EnrollmentToken) (request : AgentEnrollmentRequest),
      Unused ops token.token → Presents ops token request →
        EnrollsUsably (planeAfter ops) request := by
  intro h
  let token : EnrollmentToken :=
    ⟨"token-2", "secret-2", "node-a", .linux, "root", 200, "enroll-2"⟩
  let request : AgentEnrollmentRequest :=
    ⟨"secret-2", "node-a", .linux, "fingerprint-b", "root", 150⟩
  have unused : Unused renewal "secret-2" := by
    intro c hc redeems
    obtain ⟨earlier, hop, presented, -⟩ := redeems
    obtain ⟨before, after, split, -⟩ := mem_history hc
    have performed : Op.enrollAgent earlier ∈ renewal := by
      rw [split, hop]
      exact List.mem_append_right _ List.mem_cons_self
    simp only [renewal, List.mem_cons, reduceCtorEq, Op.enrollAgent.injEq, List.not_mem_nil,
      or_false, false_or] at performed
    rw [performed] at presented
    exact absurd presented (by decide)
  have presents : Presents renewal token request :=
    ⟨by decide, rfl, rfl, rfl, rfl, by decide⟩
  obtain ⟨record, after, run, letIn⟩ := h renewal token request unused presents
  cases run
  cases letIn

end ControlPlane

end Runlane
