import Runlane.ControlPlane.Operations

/-!
The HTTP handlers of the server.

A request comes here routed, with its headers and its decoded body; an answer is
a body for status 200 or an error. A handler checks the headers and what the body
writes as text, takes the lock and makes one call on the control plane. What
`Debug` prints of a text or of an error is a parameter, and so is what the HTTP
library finds in the headers.
-/

namespace Runlane

namespace Http

inductive StatusCode where
  | ok
  | badRequest
  | unauthorized
  | forbidden
  | notFound
  | conflict
  | internalServerError
deriving DecidableEq

structure HttpApiError where
  status : StatusCode
  kind : String
  message : String
deriving DecidableEq

namespace HttpApiError

def badRequest (kind message : String) : HttpApiError :=
  ⟨.badRequest, kind, message⟩

def unauthorized (kind message : String) : HttpApiError :=
  ⟨.unauthorized, kind, message⟩

def conflict (kind message : String) : HttpApiError :=
  ⟨.conflict, kind, message⟩

end HttpApiError

structure DebugTexts where
  text : String → String
  auditAppend : AuditAppendError → String
  runtime : RuntimeError → String

def DebugTexts.silent : DebugTexts where
  text := fun _ => ""
  auditAppend := fun _ => ""
  runtime := fun _ => ""

def headerNodeId : String := "x-runlane-node-id"

def headerCertFingerprint : String := "x-runlane-certificate-fingerprint"

/-- A header value is known by the text that the library makes of it, if any. -/
structure HeaderValue where
  toStr : Option String

/-- Headers are known by what the library finds under a name. -/
structure HeaderMap where
  get : String → Option HeaderValue

def requiredHeader (headers : HeaderMap) (name : String) : Except HttpApiError String :=
  match headers.get name with
  | none => .error (.unauthorized "missing_identity" s!"missing required identity header {name}")
  | some value =>
      match value.toStr with
      | none => .error (.badRequest "invalid_identity_header"
          s!"identity header {name} is not valid UTF-8")
      | some text => .ok text

def identityFromHeaders (headers : HeaderMap) : Except HttpApiError AgentIdentity := do
  let nodeId ← requiredHeader headers headerNodeId
  let certificateFingerprint ← requiredHeader headers headerCertFingerprint
  return ⟨nodeId, certificateFingerprint⟩

structure CreateEnrollmentTokenRequest where
  tokenId : String
  token : String
  nodeId : String
  platformFamily : String
  serverTrustRoot : String
  expiresAtUnixSeconds : Nat
  nonce : String
deriving DecidableEq

structure CreateEnrollmentTokenResponse where
  status : String
  tokenId : String
  nodeId : String
deriving DecidableEq

structure EnrollmentRequestDto where
  token : String
  nodeId : String
  platformFamily : String
  certificateFingerprint : String
  serverTrustRoot : String
  nowUnixSeconds : Nat
deriving DecidableEq

structure AgentIdentityResponse where
  nodeId : String
  platformFamily : String
  certificateFingerprint : String
  serverTrustRoot : String
deriving DecidableEq

structure PullTaskRequest where
  nodeId : String
  nowUnixSeconds : Nat
  capabilityReportVersion : Option String
  lastSeenTaskNonce : Option String
deriving DecidableEq

structure AgentTaskEnvelopeDto where
  envelopeId : String
  runId : String
  taskId : String
  nodeId : String
  issuedAtUnixSeconds : Nat
  expiresAtUnixSeconds : Nat
  nonce : String
  requiredCapabilities : List String
  auditCorrelationId : String
deriving DecidableEq

inductive TypedTaskPayloadDto where
  | collectEvidence (capability resourceId : String)
  | executeTypedHelperRequest (action targetResourceId : String)
  | verify (checkId resourceId : String)
deriving DecidableEq

structure PullTaskResponse where
  envelope : AgentTaskEnvelopeDto
  payload : TypedTaskPayloadDto
deriving DecidableEq

structure EvidenceDto where
  source : String
  contentType : String
  body : String
  truncated : Bool
deriving DecidableEq

structure AgentResultSubmissionDto where
  envelopeId : String
  runId : String
  taskId : String
  nodeId : String
  nonce : String
  status : String
  nowUnixSeconds : Option Nat
  evidence : List EvidenceDto
  auditCorrelationId : String
deriving DecidableEq

structure AgentResultResponse where
  status : String
  envelopeId : String
  taskId : String
  nodeId : String
deriving DecidableEq

structure SpoolReplayRequest where
  spoolId : String
  reason : Option String
  result : AgentResultSubmissionDto
  nowUnixSeconds : Nat
deriving DecidableEq

structure SpoolReplayResponse where
  status : String
  spoolId : String
deriving DecidableEq

section Texts

variable (debug : DebugTexts)

def parseOperatingSystem : String → Except HttpApiError OperatingSystem
  | "linux" => .ok .linux
  | "freebsd" => .ok .freeBsd
  | "openbsd" => .ok .openBsd
  | value => .error (.badRequest "invalid_platform_family"
      s!"unsupported platform_family {debug.text value}")

def formatOperatingSystem : OperatingSystem → String
  | .linux => "linux"
  | .freeBsd => "freebsd"
  | .openBsd => "openbsd"
  | .solaris => "solaris"
  | .illumos => "illumos"
  | .unknown => "unknown"

def parseResultStatus : String → Except HttpApiError AgentResultStatus
  | "succeeded" => .ok .succeeded
  | "failed" => .ok .failed
  | value => .error (.badRequest "invalid_result_status"
      s!"unsupported result status {debug.text value}")

def EvidenceDto.intoEnvelope (evidence : EvidenceDto) : EvidenceEnvelope where
  source := evidence.source
  contentType := evidence.contentType
  body := evidence.body
  truncated := evidence.truncated

def AgentResultSubmissionDto.intoCore (request : AgentResultSubmissionDto) :
    Except HttpApiError AgentResultSubmission := do
  let status ← parseResultStatus debug request.status
  return {
    envelopeId := request.envelopeId
    runId := request.runId
    taskId := request.taskId
    nodeId := request.nodeId
    nonce := request.nonce
    status
    evidence := request.evidence.map EvidenceDto.intoEnvelope
    auditCorrelationId := request.auditCorrelationId }

def AgentTaskEnvelopeDto.ofEnvelope (value : AgentTaskEnvelope) : AgentTaskEnvelopeDto where
  envelopeId := value.envelopeId
  runId := value.runId
  taskId := value.taskId
  nodeId := value.nodeId
  issuedAtUnixSeconds := value.issuedAtUnixSeconds
  expiresAtUnixSeconds := value.expiresAtUnixSeconds
  nonce := value.nonce
  requiredCapabilities := value.requiredCapabilities.map Capability.value
  auditCorrelationId := value.auditCorrelationId

def TypedTaskPayloadDto.ofPayload : TypedTaskPayload → TypedTaskPayloadDto
  | .collectEvidence capability resourceId => .collectEvidence capability.value resourceId
  | .executeTypedHelperRequest action targetResourceId =>
      .executeTypedHelperRequest action targetResourceId
  | .verify checkId resourceId => .verify checkId resourceId

def resultResponse (status : String) (request : AgentResultSubmissionDto) :
    AgentResultResponse where
  status := status
  envelopeId := request.envelopeId
  taskId := request.taskId
  nodeId := request.nodeId

def runtimeError : RuntimeError → HttpApiError
  | .unknownAgent => .unauthorized "unknown_agent" "agent identity is not enrolled"
  | .agentIdentityMismatch => ⟨.forbidden, "agent_identity_mismatch",
      "certificate fingerprint does not match enrolled agent identity"⟩
  | .noTaskAvailable => ⟨.notFound, "no_task_available", "no task available"⟩
  | .auditAppend error => ⟨.internalServerError, "audit_append_failed", debug.auditAppend error⟩
  | other => .conflict "control_plane_rejected" (debug.runtime other)

end Texts

/-- The control plane behind its lock, which a handler that panics would poison. -/
structure HttpState where
  controlPlane : ControlPlane
  poisoned : Bool
deriving DecidableEq

def HttpState.new (controlPlane : ControlPlane) : HttpState :=
  ⟨controlPlane, false⟩

abbrev Handler := EStateM HttpApiError HttpState

def lock : Handler Unit := do
  if (← get).poisoned then
    throw ⟨.internalServerError, "control_plane_lock_poisoned",
      "control plane state lock is poisoned"⟩

section Handlers

variable (debug : DebugTexts)

/-- A call under the lock. What it did before failing stays done. -/
def onPlane {α : Type} (method : ControlPlane.Runtime α) : Handler α := fun state =>
  match method.run state.controlPlane with
  | .ok answer plane => .ok answer { state with controlPlane := plane }
  | .error error plane => .error (runtimeError debug error) { state with controlPlane := plane }

def createEnrollmentToken (request : CreateEnrollmentTokenRequest) :
    Handler CreateEnrollmentTokenResponse := do
  let os ← ofExcept (parseOperatingSystem debug request.platformFamily)
  lock
  onPlane debug (ControlPlane.createEnrollmentToken {
    tokenId := request.tokenId
    token := request.token
    nodeId := request.nodeId
    os
    serverTrustRoot := request.serverTrustRoot
    expiresAtUnixSeconds := request.expiresAtUnixSeconds
    nonce := request.nonce })
  return { status := "created", tokenId := request.tokenId, nodeId := request.nodeId }

def enrollAgent (request : EnrollmentRequestDto) : Handler AgentIdentityResponse := do
  let os ← ofExcept (parseOperatingSystem debug request.platformFamily)
  lock
  let identity ← onPlane debug (ControlPlane.enrollAgent {
    token := request.token
    nodeId := request.nodeId
    os
    certificateFingerprint := request.certificateFingerprint
    serverTrustRoot := request.serverTrustRoot
    nowUnixSeconds := request.nowUnixSeconds })
  return {
    nodeId := identity.nodeId
    platformFamily := formatOperatingSystem identity.os
    certificateFingerprint := identity.certificateFingerprint
    serverTrustRoot := identity.serverTrustRoot }

def pullTask (headers : HeaderMap) (request : PullTaskRequest) : Handler PullTaskResponse := do
  let identity ← ofExcept (identityFromHeaders headers)
  if identity.nodeId ≠ request.nodeId then
    throw ⟨.forbidden, "identity_node_mismatch",
      "request node_id does not match extracted agent identity"⟩
  lock
  let pulled ← onPlane debug (ControlPlane.pullTask identity request.nowUnixSeconds)
  return { envelope := .ofEnvelope pulled.envelope, payload := .ofPayload pulled.payload }

def submitResult (headers : HeaderMap) (request : AgentResultSubmissionDto) :
    Handler AgentResultResponse := do
  let identity ← ofExcept (identityFromHeaders headers)
  let nowUnixSeconds ← Calls.okOr request.nowUnixSeconds (.badRequest "missing_result_time"
    "result submission requires now_unix_seconds")
  let response := resultResponse "accepted" request
  let result ← ofExcept (request.intoCore debug)
  lock
  onPlane debug (ControlPlane.submitResult identity result nowUnixSeconds)
  return response

def replaySpool (headers : HeaderMap) (request : SpoolReplayRequest) :
    Handler SpoolReplayResponse := do
  let identity ← ofExcept (identityFromHeaders headers)
  let result ← ofExcept (request.result.intoCore debug)
  lock
  onPlane debug (ControlPlane.submitResult identity result request.nowUnixSeconds)
  return { status := "accepted", spoolId := request.spoolId }

end Handlers

/-- A request at one of the five routes. -/
inductive Request where
  | createEnrollmentToken (body : CreateEnrollmentTokenRequest)
  | enrollAgent (body : EnrollmentRequestDto)
  | pullTask (headers : HeaderMap) (body : PullTaskRequest)
  | submitResult (headers : HeaderMap) (body : AgentResultSubmissionDto)
  | replaySpool (headers : HeaderMap) (body : SpoolReplayRequest)

inductive Response where
  | tokenCreated (body : CreateEnrollmentTokenResponse)
  | enrolled (body : AgentIdentityResponse)
  | pulled (body : PullTaskResponse)
  | accepted (body : AgentResultResponse)
  | replayed (body : SpoolReplayResponse)
deriving DecidableEq

def router (debug : DebugTexts) : Request → Handler Response
  | .createEnrollmentToken body => return .tokenCreated (← createEnrollmentToken debug body)
  | .enrollAgent body => return .enrolled (← enrollAgent debug body)
  | .pullTask headers body => return .pulled (← pullTask debug headers body)
  | .submitResult headers body => return .accepted (← submitResult debug headers body)
  | .replaySpool headers body => return .replayed (← replaySpool debug headers body)

/-- The status line of what a request is answered with. -/
def statusOf (outcome : Except HttpApiError Response) : StatusCode :=
  match outcome with
  | .ok _ => .ok
  | .error error => error.status

end Http

end Runlane
