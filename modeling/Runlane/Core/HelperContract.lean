import Runlane.Core.Proposal
import Mathlib.Tactic.SplitIfs
import Mathlib.Logic.Basic

/-!
The helper side of a privileged action: the typed request, the signed lease, the
local allowlist and the fail-closed validation of the one against the others.
Cryptographic verification has happened before and is only a status here.
-/

namespace Runlane

/-- Signed lease envelope. The signature bytes are opaque to the domain model. -/
structure SignedCapabilityLease where
  claims : CapabilityLeaseClaims
  keyId : String
  signature : String
deriving DecidableEq

inductive LeaseSignatureStatus where
  | valid
  | invalid
deriving DecidableEq

structure HelperAllowlistEntry where
  id : String
  action : ActionKind
  targetResourceId : String
deriving DecidableEq

def HelperAllowlistEntry.permits (entry : HelperAllowlistEntry) (action : ActionKind)
    (target : ActionTarget) : Bool :=
  entry.action = action && entry.targetResourceId = target.resourceId

structure HelperAllowlist where
  entries : List HelperAllowlistEntry
deriving DecidableEq

def HelperAllowlist.permits (allowlist : HelperAllowlist) (entryId : String)
    (action : ActionKind) (target : ActionTarget) : Bool :=
  allowlist.entries.any fun entry => entry.id = entryId && entry.permits action target

theorem HelperAllowlist.permits_iff {allowlist : HelperAllowlist} {entryId : String}
    {action : ActionKind} {target : ActionTarget} :
    allowlist.permits entryId action target = true ↔
      ∃ entry ∈ allowlist.entries, entry.id = entryId ∧ entry.action = action ∧
        entry.targetResourceId = target.resourceId := by
  simp [HelperAllowlist.permits, HelperAllowlistEntry.permits]

structure HelperArgument where
  name : String
  value : String
deriving DecidableEq

/-- Typed helper action request. It contains no shell command string. -/
structure HelperActionRequest where
  leaseId : String
  action : ActionKind
  target : ActionTarget
  arguments : List HelperArgument
deriving DecidableEq

structure HelperValidationContext where
  nodeId : String
  nowUnixSeconds : Nat
  signatureStatus : LeaseSignatureStatus
  seenNonces : List String
  allowlist : HelperAllowlist
deriving DecidableEq

inductive HelperRejection where
  | invalidSignature
  | expiredLease
  | replayedNonce
  | nodeMismatch
  | leaseMismatch
  | actionMismatch
  | targetMismatch
  | localAllowlistDenied
deriving DecidableEq

structure AcceptedHelperInvocation where
  leaseId : String
  runId : String
  approvalId : String
  action : ActionKind
  target : ActionTarget
deriving DecidableEq

/-- What the helper reports of the claims it has accepted. -/
def CapabilityLeaseClaims.invocation (claims : CapabilityLeaseClaims) :
    AcceptedHelperInvocation where
  leaseId := claims.leaseId
  runId := claims.runId
  approvalId := claims.approvalId
  action := claims.action
  target := claims.target

def validateHelperRequest (request : HelperActionRequest) (lease : SignedCapabilityLease)
    (context : HelperValidationContext) : Except HelperRejection AcceptedHelperInvocation :=
  if context.signatureStatus ≠ .valid then .error .invalidSignature
  else if lease.claims.expiresAtUnixSeconds ≤ context.nowUnixSeconds then .error .expiredLease
  else if lease.claims.nonce ∈ context.seenNonces then .error .replayedNonce
  else if lease.claims.nodeId ≠ context.nodeId then .error .nodeMismatch
  else if lease.claims.leaseId ≠ request.leaseId then .error .leaseMismatch
  else if lease.claims.action ≠ request.action then .error .actionMismatch
  else if lease.claims.target ≠ request.target then .error .targetMismatch
  else if ¬ context.allowlist.permits lease.claims.allowlistEntryId request.action request.target
  then .error .localAllowlistDenied
  else .ok lease.claims.invocation

/-- Every check of the helper but the one for a replayed nonce. -/
structure HelperChecks (request : HelperActionRequest) (lease : SignedCapabilityLease)
    (context : HelperValidationContext) : Prop where
  signature : context.signatureStatus = .valid
  unexpired : context.nowUnixSeconds < lease.claims.expiresAtUnixSeconds
  node : lease.claims.nodeId = context.nodeId
  leaseId : lease.claims.leaseId = request.leaseId
  action : lease.claims.action = request.action
  target : lease.claims.target = request.target
  allowed : context.allowlist.permits lease.claims.allowlistEntryId request.action
    request.target = true

/-- The helper accepts what passes its checks under a nonce it has not seen, and
reports the claims of the lease. -/
theorem validateHelperRequest_eq_ok {request : HelperActionRequest}
    {lease : SignedCapabilityLease} {context : HelperValidationContext}
    {invocation : AcceptedHelperInvocation} :
    validateHelperRequest request lease context = .ok invocation ↔
      HelperChecks request lease context ∧ lease.claims.nonce ∉ context.seenNonces ∧
        lease.claims.invocation = invocation := by
  unfold validateHelperRequest
  constructor
  · intro accepted
    split_ifs at accepted with signature expired replayed node leaseId action target allowed
    refine ⟨⟨not_not.mp signature, Nat.not_le.mp expired, not_not.mp node, not_not.mp leaseId,
      not_not.mp action, not_not.mp target, allowed⟩, replayed, ?_⟩
    exact Except.ok.inj accepted
  · rintro ⟨checks, unseen, rfl⟩
    rw [if_neg (not_not.mpr checks.signature), if_neg (Nat.not_le.mpr checks.unexpired),
      if_neg unseen, if_neg (not_not.mpr checks.node), if_neg (not_not.mpr checks.leaseId),
      if_neg (not_not.mpr checks.action), if_neg (not_not.mpr checks.target),
      if_neg (not_not.mpr checks.allowed)]

/-- The helper acts on the target of the signed lease, which is the one requested, and
the allowlist entry of the lease lists the action and the resource. -/
structure Pinned (request : HelperActionRequest) (lease : SignedCapabilityLease)
    (context : HelperValidationContext) (invocation : AcceptedHelperInvocation) : Prop where
  requested : request.target = lease.claims.target
  action : invocation.action = request.action
  target : invocation.target = lease.claims.target
  entry : ∃ entry ∈ context.allowlist.entries, entry.id = lease.claims.allowlistEntryId ∧
    entry.action = request.action ∧ entry.targetResourceId = request.target.resourceId

section Acceptance

variable {request : HelperActionRequest} {lease : SignedCapabilityLease}
  {context : HelperValidationContext} {invocation : AcceptedHelperInvocation}

theorem pinned_of_accepted (accepted : validateHelperRequest request lease context =
    .ok invocation) : Pinned request lease context invocation := by
  obtain ⟨checks, -, rfl⟩ := validateHelperRequest_eq_ok.mp accepted
  exact ⟨checks.target.symm, checks.action, rfl, HelperAllowlist.permits_iff.mp checks.allowed⟩

theorem validateHelperRequest_arguments (accepted : validateHelperRequest request lease context =
    .ok invocation) (arguments : List HelperArgument) :
    validateHelperRequest { request with arguments } lease context = .ok invocation := by
  obtain ⟨checks, unseen, same⟩ := validateHelperRequest_eq_ok.mp accepted
  exact validateHelperRequest_eq_ok.mpr ⟨⟨checks.signature, checks.unexpired, checks.node,
    checks.leaseId, checks.action, checks.target, checks.allowed⟩, unseen, same⟩

/-- The allowlist pins the action and the resource, and the signed lease the subject. So
two acceptances for one action on one resource agree on the subject exactly when their
leases do, and then the helper acts on the same target. The arguments pin nothing and
change nothing: what is accepted does not carry them. -/
theorem accepted_target_pinned {request' : HelperActionRequest} {lease' : SignedCapabilityLease}
    {invocation' : AcceptedHelperInvocation}
    (accepted : validateHelperRequest request lease context = .ok invocation)
    (accepted' : validateHelperRequest request' lease' context = .ok invocation')
    (action : request.action = request'.action)
    (resource : request.target.resourceId = request'.target.resourceId) :
    Pinned request lease context invocation ∧
      (request.target.subject = request'.target.subject ↔
        lease.claims.target.subject = lease'.claims.target.subject) ∧
      (lease.claims.target.subject = lease'.claims.target.subject →
        invocation.action = invocation'.action ∧ invocation.target = invocation'.target) ∧
      ∀ arguments, validateHelperRequest { request with arguments } lease context =
        .ok invocation := by
  have pinned := pinned_of_accepted accepted
  have pinned' := pinned_of_accepted accepted'
  refine ⟨pinned, ?_, ?_, validateHelperRequest_arguments accepted⟩
  · rw [pinned.requested, pinned'.requested]
  · intro subject
    refine ⟨by rw [pinned.action, pinned'.action, action], ?_⟩
    rw [pinned.requested, pinned'.requested] at resource
    rw [pinned.target, pinned'.target]
    exact congrArg₂ ActionTarget.mk resource subject

end Acceptance

namespace Restart

/-- A lease to restart a service under one resource id. -/
def lease (leaseId subject : String) : SignedCapabilityLease where
  claims := {
    leaseId := leaseId
    runId := "run-1"
    approvalId := "approval-1"
    nodeId := "node-1"
    action := .serviceRestart
    target := ⟨"system:node/node-1/service/sshd", subject⟩
    allowlistEntryId := "allow-sshd-restart"
    expiresAtUnixSeconds := 100
    nonce := "nonce-" ++ leaseId }
  keyId := "key-1"
  signature := "signature-1"

def request (leaseId subject : String) : HelperActionRequest where
  leaseId := leaseId
  action := .serviceRestart
  target := ⟨"system:node/node-1/service/sshd", subject⟩
  arguments := [⟨"service", subject⟩]

def context : HelperValidationContext where
  nodeId := "node-1"
  nowUnixSeconds := 10
  signatureStatus := .valid
  seenNonces := []
  allowlist := ⟨[⟨"allow-sshd-restart", .serviceRestart, "system:node/node-1/service/sshd"⟩]⟩

end Restart

theorem accepted_target_pinned_restart :
    Pinned (Restart.request "lease-1" "sshd") (Restart.lease "lease-1" "sshd") Restart.context
      (Restart.lease "lease-1" "sshd").claims.invocation := by
  have accepted (leaseId : String) :
      validateHelperRequest (Restart.request leaseId "sshd") (Restart.lease leaseId "sshd")
        Restart.context = .ok (Restart.lease leaseId "sshd").claims.invocation :=
    validateHelperRequest_eq_ok.mpr
      ⟨⟨rfl, (by decide : 10 < 100), rfl, rfl, rfl, rfl, rfl⟩, List.not_mem_nil, rfl⟩
  exact (accepted_target_pinned (accepted "lease-1") (accepted "lease-2") rfl rfl).1

/-- The resource of sshd is allowed; a lease may name nginx as its subject. -/
theorem allowed_resource_other_subject :
    ¬ ∀ request request' lease lease' context invocation invocation',
      validateHelperRequest request lease context = .ok invocation →
      validateHelperRequest request' lease' context = .ok invocation' →
      request.action = request'.action →
      request.target.resourceId = request'.target.resourceId →
        request.target.subject = request'.target.subject ∧
          request.arguments = request'.arguments := by
  intro h
  have same := h (Restart.request "lease-1" "sshd") (Restart.request "lease-2" "nginx")
    (Restart.lease "lease-1" "sshd") (Restart.lease "lease-2" "nginx") Restart.context _ _
    rfl rfl rfl rfl
  exact absurd same.1 (by decide)

end Runlane
