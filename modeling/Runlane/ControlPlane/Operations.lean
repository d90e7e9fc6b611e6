import Runlane.Lib.Calls
import Runlane.Lib.KeyedList
import Runlane.Core.AuditLedger
import Runlane.Core.AgentProtocol

/-!
The in-process control plane: enrollment, the task queue, result submission and
the spool, each with the audit events it appends.

An operation updates the plane field by field and may return early; what it did
before returning stays. Lookups are by first match in lists that only grow,
except `pendingTasks`, from which a pull removes one entry. The HTTP handlers
reach the plane through these operations only; `replaySpool` is listed beside
them because its handler submits the spooled result as if it came directly.
-/

namespace Runlane

structure EnrollmentToken where
  tokenId : String
  token : String
  nodeId : String
  os : OperatingSystem
  serverTrustRoot : String
  expiresAtUnixSeconds : Nat
  nonce : String
deriving DecidableEq

structure AgentEnrollmentRequest where
  token : String
  nodeId : String
  os : OperatingSystem
  certificateFingerprint : String
  serverTrustRoot : String
  nowUnixSeconds : Nat
deriving DecidableEq

structure AgentIdentityRecord where
  nodeId : String
  os : OperatingSystem
  certificateFingerprint : String
  serverTrustRoot : String
deriving DecidableEq

def AgentIdentityRecord.identity (record : AgentIdentityRecord) : AgentIdentity :=
  { nodeId := record.nodeId, certificateFingerprint := record.certificateFingerprint }

/-- Task payload that cannot contain executable shell. -/
inductive TypedTaskPayload where
  | collectEvidence (capability : Capability) (resourceId : String)
  | executeTypedHelperRequest (action targetResourceId : String)
  | verify (checkId resourceId : String)
deriving DecidableEq

structure PendingAgentTask where
  envelope : AgentTaskEnvelope
  payload : TypedTaskPayload
deriving DecidableEq

structure PulledAgentTask where
  envelope : AgentTaskEnvelope
  payload : TypedTaskPayload
deriving DecidableEq

inductive RuntimeError where
  | expiredEnrollmentToken
  | enrollmentTokenMismatch
  | enrollmentNodeMismatch
  | enrollmentOsMismatch
  | enrollmentTrustRootMismatch
  | unknownAgent
  | agentIdentityMismatch
  | noTaskAvailable
  | taskEnvelopeRejected (rejection : AgentTaskRejection)
  | unknownEnvelope
  | resultEnvelopeMismatch
  | resultTaskMismatch
  | resultRunMismatch
  | resultNodeMismatch
  | resultExpired
  | resultNonceReplay
  | auditAppend (error : AuditAppendError)
deriving DecidableEq

structure ControlPlane where
  enrollmentTokens : List EnrollmentToken
  agents : List AgentIdentityRecord
  pendingTasks : List PendingAgentTask
  pulledTasks : List PendingAgentTask
  acceptedResultNonces : List String
  acceptedResults : List AgentResultSubmission
  spooledResults : List LocalSpoolItem
  ledger : AuditLedger
deriving DecidableEq

namespace ControlPlane

open Calls KeyedList

abbrev Runtime := EStateM RuntimeError ControlPlane

def empty : ControlPlane where
  enrollmentTokens := []
  agents := []
  pendingTasks := []
  pulledTasks := []
  acceptedResultNonces := []
  acceptedResults := []
  spooledResults := []
  ledger := .empty

def appendEvent (kind : AuditEventKind) : Runtime Unit := do
  let plane ← get
  let sequence := plane.ledger.nextSequence
  match plane.ledger.append ⟨s!"runtime-event-{sequence}", "runtime", sequence, kind⟩ with
  | .ok ledger => set { plane with ledger := ledger }
  | .error error => throw (.auditAppend error)

def auditResultRejection (submission : AgentResultSubmission) (reason : String) : Runtime Unit :=
  appendEvent (.agentResultRejected submission.envelopeId reason)

def requireAgent (plane : ControlPlane) (identity : AgentIdentity) : Except RuntimeError Unit :=
  match lookup AgentIdentityRecord.nodeId plane.agents identity.nodeId with
  | none => .error .unknownAgent
  | some agent =>
      if agent.certificateFingerprint = identity.certificateFingerprint then .ok ()
      else .error .agentIdentityMismatch

def createEnrollmentToken (token : EnrollmentToken) : Runtime Unit := do
  appendEvent (.enrollmentTokenCreated token.tokenId token.nodeId)
  modify fun plane => { plane with enrollmentTokens := plane.enrollmentTokens ++ [token] }

def enrollAgent (request : AgentEnrollmentRequest) : Runtime AgentIdentityRecord := do
  let plane ← get
  let token ← okOr (lookup EnrollmentToken.token plane.enrollmentTokens request.token)
    .enrollmentTokenMismatch
  if token.expiresAtUnixSeconds ≤ request.nowUnixSeconds then throw .expiredEnrollmentToken
  else if token.nodeId ≠ request.nodeId then throw .enrollmentNodeMismatch
  else if token.os ≠ request.os then throw .enrollmentOsMismatch
  else if token.serverTrustRoot ≠ request.serverTrustRoot then throw .enrollmentTrustRootMismatch
  else
    let record : AgentIdentityRecord := {
      nodeId := request.nodeId
      os := request.os
      certificateFingerprint := request.certificateFingerprint
      serverTrustRoot := request.serverTrustRoot }
    appendEvent (.agentEnrolled record.nodeId record.os)
    modify fun plane => { plane with agents := plane.agents ++ [record] }
    return record

def enqueueTask (task : PendingAgentTask) : Runtime Unit :=
  modify fun plane => { plane with pendingTasks := plane.pendingTasks ++ [task] }

/-- The oldest task queued for the node is taken before it is validated, and
only a valid one leaves the queue. -/
def pullTask (identity : AgentIdentity) (nowUnixSeconds : Nat) : Runtime PulledAgentTask := do
  let plane ← get
  ofExcept (plane.requireAgent identity)
  let index ← okOr (plane.pendingTasks.findFinIdx? fun task =>
    task.envelope.nodeId = identity.nodeId) .noTaskAvailable
  let task := plane.pendingTasks[index]
  match validateAgentTaskEnvelope task.envelope ⟨identity.nodeId, nowUnixSeconds, []⟩ with
  | .error rejection => do
      appendEvent (.agentTaskRejected identity.nodeId rejection.debug)
      throw (.taskEnvelopeRejected rejection)
  | .ok _ => do
      modify fun plane => { plane with pendingTasks := plane.pendingTasks.eraseIdx index }
      appendEvent (.agentTaskPulled task.envelope.envelopeId task.envelope.taskId
        task.envelope.nodeId)
      modify fun plane => { plane with pulledTasks := plane.pulledTasks ++ [task] }
      return ⟨task.envelope, task.payload⟩

def submitResult (identity : AgentIdentity) (submission : AgentResultSubmission)
    (nowUnixSeconds : Nat) : Runtime Unit := do
  let plane ← get
  ofExcept (plane.requireAgent identity)
  if submission.nodeId ≠ identity.nodeId then
    auditResultRejection submission "result node mismatch"
    throw .resultNodeMismatch
  else if submission.nonce ∈ plane.acceptedResultNonces then
    auditResultRejection submission "result nonce replay"
    throw .resultNonceReplay
  else
    let task ← okOr (lookup (fun task : PendingAgentTask => task.envelope.envelopeId)
      plane.pulledTasks submission.envelopeId) .unknownEnvelope
    if task.envelope.expiresAtUnixSeconds ≤ nowUnixSeconds then
      auditResultRejection submission "result envelope expired"
      throw .resultExpired
    else if task.envelope.taskId ≠ submission.taskId then
      auditResultRejection submission "result task mismatch"
      throw .resultTaskMismatch
    else if task.envelope.runId ≠ submission.runId then
      auditResultRejection submission "result run mismatch"
      throw .resultRunMismatch
    else if task.envelope.nonce ≠ submission.nonce then
      auditResultRejection submission "result nonce mismatch"
      throw .resultEnvelopeMismatch
    else
      appendEvent (.agentResultAccepted submission.envelopeId submission.taskId submission.nodeId)
      modify fun plane =>
        { plane with acceptedResultNonces := plane.acceptedResultNonces ++ [submission.nonce] }
      modify fun plane => { plane with acceptedResults := plane.acceptedResults ++ [submission] }

def spoolResult (spool : LocalSpoolItem) : Runtime LocalSpoolItem := do
  appendEvent (.agentResultSpooled spool.spoolId spool.reason)
  modify fun plane => { plane with spooledResults := plane.spooledResults ++ [spool] }
  return spool

inductive Op where
  | createEnrollmentToken (token : EnrollmentToken)
  | enrollAgent (request : AgentEnrollmentRequest)
  | enqueueTask (task : PendingAgentTask)
  | pullTask (identity : AgentIdentity) (nowUnixSeconds : Nat)
  | submitResult (identity : AgentIdentity) (submission : AgentResultSubmission)
      (nowUnixSeconds : Nat)
  | replaySpool (identity : AgentIdentity) (spoolId : String) (result : AgentResultSubmission)
      (nowUnixSeconds : Nat)
  | spoolResult (spool : LocalSpoolItem)
deriving DecidableEq

inductive Reply where
  | done
  | enrolled (record : AgentIdentityRecord)
  | pulled (task : PulledAgentTask)
  | replayed (spoolId : String)
  | spooled (spool : LocalSpoolItem)
deriving DecidableEq

def perform : Op → Runtime Reply
  | .createEnrollmentToken token => do
      createEnrollmentToken token
      return .done
  | .enrollAgent request => return .enrolled (← enrollAgent request)
  | .enqueueTask task => do
      enqueueTask task
      return .done
  | .pullTask identity now => return .pulled (← pullTask identity now)
  | .submitResult identity submission now => do
      submitResult identity submission now
      return .done
  | .replaySpool identity spoolId result now => do
      submitResult identity result now
      return .replayed spoolId
  | .spoolResult spool => return .spooled (← spoolResult spool)

/-- The plane after any operations, failing ones included. -/
abbrev planeAfter (ops : List Op) : ControlPlane :=
  exec perform empty ops

end ControlPlane

end Runlane
