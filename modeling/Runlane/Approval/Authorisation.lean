import Runlane.Core.HelperContract
import Runlane.Approval.Lifecycle

/-!
What an approved lease lets the helper do. The claims that an approval returns
are signed and presented; the helper accepts a request under them exactly when
the request is for the approved action and target, on the node of that target.
-/

namespace Runlane

theorem isPrefixOf?_append {α : Type} [BEq α] [LawfulBEq α] (l more : List α) :
    l.isPrefixOf? (l ++ more) = some more := by
  induction l with
  | nil => rfl
  | cons a l ih =>
      simp only [List.cons_append, List.isPrefixOf?, beq_self_eq_true, if_true]
      exact ih

/-- The node of a resource on a node is the part up to the next slash. -/
theorem nodeFromTarget_of_node {node : String} (simple : '/' ∉ node.toList) (rest : String) :
    nodeFromTarget ("system:node/" ++ node ++ "/" ++ rest) = node := by
  have plain : ∀ c ∈ node.toList, decide (c ≠ '/') = true := by
    intro c hc
    refine decide_eq_true ?_
    rintro rfl
    exact simple hc
  have text : ("system:node/" ++ node ++ "/" ++ rest).toList =
      "system:node/".toList ++ (node.toList ++ '/' :: rest.toList) := by
    simp only [String.toList_append, List.append_assoc]
    rfl
  rw [nodeFromTarget, text, isPrefixOf?_append]
  dsimp only
  rw [List.takeWhile_append_of_pos plain, List.takeWhile_cons_of_neg (by decide), List.append_nil,
    String.ofList_toList]

namespace ApprovalStore

open Calls

/-- The request is the one that was approved: its lease, its action and its
target are those of the record, it is made on the record's node before the record
expires, under a fresh nonce, and the node allows it under the entry granted. -/
structure AsApproved (record : ApprovalRecord) (node entry nonce : String)
    (request : HelperActionRequest) (context : HelperValidationContext) : Prop where
  leaseId : request.leaseId = s!"lease-{record.id}"
  action : record.action.helperAction = some request.action
  target : request.target = record.target
  node : context.nodeId = node
  unexpired : context.nowUnixSeconds < record.expiresAtUnixSeconds
  unseen : nonce ∉ context.seenNonces
  allowed : ∃ allow ∈ context.allowlist.entries, allow.id = entry ∧ allow.action = request.action ∧
    allow.targetResourceId = record.target.resourceId

/-- The claims returned are those of the record that the id shows. -/
theorem approve_claims {store after : ApprovalStore} {id expectedActionId actor : String}
    {now : Nat} {entry nonce : String} {claims : CapabilityLeaseClaims} {record : ApprovalRecord}
    (shown : store.showApproval id = some record)
    (approved : (approve id expectedActionId actor now entry nonce).run store = .ok claims after) :
    record.id = id ∧ ∃ helperAction, record.action.helperAction = some helperAction ∧
      claims = leaseClaims id record helperAction entry nonce := by
  have step := call_step store (.approve id expectedActionId actor now entry nonce)
  simp only [call, perform, EStateM.run_bind, approved, EStateM.run_pure] at step
  obtain ⟨record', helperAction, guard, leased⟩ := step.of_approve
  obtain rfl : record = record' := Option.some.inj (shown.symm.trans guard.found)
  exact ⟨KeyedList.key_of_lookup _ shown, helperAction, guard.supported, Reply.leased.inj leased⟩

/-- The helper's checks on the claims of a record, read as checks against the
record itself. -/
theorem helperChecks_leaseClaims {record : ApprovalRecord} {helperAction : ActionKind}
    {node rest entry nonce keyId signature : String} {request : HelperActionRequest}
    {context : HelperValidationContext} (supported : record.action.helperAction = some helperAction)
    (target : record.target.resourceId = "system:node/" ++ node ++ "/" ++ rest)
    (simple : '/' ∉ node.toList) (valid : context.signatureStatus = .valid) :
    HelperChecks request ⟨leaseClaims record.id record helperAction entry nonce, keyId, signature⟩
        context ∧ nonce ∉ context.seenNonces ↔
      AsApproved record node entry nonce request context := by
  have home : nodeFromTarget record.target.resourceId = node := by
    rw [target, nodeFromTarget_of_node simple]
  constructor
  · rintro ⟨checks, unseen⟩
    have action : helperAction = request.action := checks.action
    have same : record.target = request.target := checks.target
    have allowed := HelperAllowlist.permits_iff.mp checks.allowed
    rw [← same] at allowed
    exact ⟨checks.leaseId.symm, by rw [supported, action], same.symm,
      checks.node.symm.trans home, checks.unexpired, unseen, allowed⟩
  · intro h
    have action : helperAction = request.action :=
      Option.some.inj (supported.symm.trans h.action)
    refine ⟨⟨valid, h.unexpired, home.trans h.node.symm, h.leaseId.symm, action, h.target.symm,
      HelperAllowlist.permits_iff.mpr ?_⟩, h.unseen⟩
    rw [h.target]
    exact h.allowed

/-- The helper accepts a request under the claims that an approval returned
exactly when it is the one approved, and reports the run and the approval. -/
theorem approved_lease_authorises {store after : ApprovalStore} {record : ApprovalRecord}
    {id expectedActionId actor : String} {now : Nat} {entry nonce : String}
    {claims : CapabilityLeaseClaims} {node rest : String}
    (shown : store.showApproval id = some record)
    (approved : (approve id expectedActionId actor now entry nonce).run store = .ok claims after)
    (target : record.target.resourceId = "system:node/" ++ node ++ "/" ++ rest)
    (simple : '/' ∉ node.toList) (keyId signature : String) (request : HelperActionRequest)
    (context : HelperValidationContext) (valid : context.signatureStatus = .valid) :
    ((∃ invocation,
        validateHelperRequest request ⟨claims, keyId, signature⟩ context = .ok invocation) ↔
      AsApproved record node entry nonce request context) ∧
    ∀ invocation, validateHelperRequest request ⟨claims, keyId, signature⟩ context = .ok invocation →
      invocation.runId = record.runId ∧ invocation.approvalId = record.id := by
  obtain ⟨rfl, helperAction, supported, rfl⟩ := approve_claims shown approved
  refine ⟨?_, ?_⟩
  · rw [← helperChecks_leaseClaims supported target simple valid]
    simp only [validateHelperRequest_eq_ok, exists_and_left, exists_eq', and_true]
    rfl
  · intro invocation accepted
    obtain ⟨-, -, rfl⟩ := validateHelperRequest_eq_ok.mp accepted
    exact ⟨rfl, rfl⟩

/-- A restart approved on node-1 is accepted there under the entry granted. -/
theorem approved_restart_accepted :
    ∃ claims after,
      (approve "approval-1" "restart-sshd" "operator" 150 "allow-1" "nonce-1").run
        (storeAfter [.request (restartRequest "restart-sshd" "sshd")]) = .ok claims after ∧
      ∃ invocation, validateHelperRequest
        ⟨"lease-approval-1", .serviceRestart, ⟨"system:node/node-1/service/sshd", "sshd"⟩, []⟩
        ⟨claims, "key-1", "signature-1"⟩
        ⟨"node-1", 160, .valid, ["nonce-0"],
          ⟨[⟨"allow-1", .serviceRestart, "system:node/node-1/service/sshd"⟩]⟩⟩ =
        .ok invocation := by
  have shown : (storeAfter [.request (restartRequest "restart-sshd" "sshd")]).showApproval
      "approval-1" = some (restartRequest "restart-sshd" "sshd") := rfl
  have target : (restartRequest "restart-sshd" "sshd").target.resourceId =
      "system:node/" ++ "node-1" ++ "/" ++ "service/sshd" := rfl
  obtain ⟨after, approved⟩ : ∃ after,
      (approve "approval-1" "restart-sshd" "operator" 150 "allow-1" "nonce-1").run
        (storeAfter [.request (restartRequest "restart-sshd" "sshd")]) =
      .ok (leaseClaims "approval-1" (restartRequest "restart-sshd" "sshd") .serviceRestart
        "allow-1" "nonce-1") after := ⟨_, rfl⟩
  refine ⟨_, after, approved, ?_⟩
  refine (approved_lease_authorises shown approved target (by decide) _ _ _ _ rfl).1.mpr ?_
  exact ⟨rfl, rfl, rfl, rfl, by decide, by decide, _, List.mem_singleton.mpr rfl, rfl, rfl, rfl⟩

end ApprovalStore

end Runlane
