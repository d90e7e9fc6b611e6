import Runlane.Core.Vocabulary
import Mathlib.Tactic.SplitIfs
import Mathlib.Logic.Basic

/-!
The pull protocol between an agent and the server: identities, task envelopes,
result submissions and spool items, and the envelope check that both the agent
and the server make before a task leaves the queue.
-/

namespace Runlane

structure AgentIdentity where
  nodeId : String
  certificateFingerprint : String
deriving DecidableEq

structure AgentTaskEnvelope where
  envelopeId : String
  runId : String
  taskId : String
  nodeId : String
  issuedAtUnixSeconds : Nat
  expiresAtUnixSeconds : Nat
  nonce : String
  requiredCapabilities : List Capability
  auditCorrelationId : String
deriving DecidableEq

structure AgentProtocolContext where
  nodeId : String
  nowUnixSeconds : Nat
  seenNonces : List String
deriving DecidableEq

structure AcceptedAgentTask where
  envelopeId : String
  runId : String
  taskId : String
  auditCorrelationId : String
deriving DecidableEq

inductive AgentTaskRejection where
  | nodeMismatch
  | expiredEnvelope
  | replayedNonce
deriving DecidableEq

/-- The text Rust's `Debug` prints, as the audit event records it. -/
def AgentTaskRejection.debug : AgentTaskRejection → String
  | nodeMismatch => "NodeMismatch"
  | expiredEnvelope => "ExpiredEnvelope"
  | replayedNonce => "ReplayedNonce"

def validateAgentTaskEnvelope (envelope : AgentTaskEnvelope) (context : AgentProtocolContext) :
    Except AgentTaskRejection AcceptedAgentTask :=
  if envelope.nodeId ≠ context.nodeId then .error .nodeMismatch
  else if envelope.expiresAtUnixSeconds ≤ context.nowUnixSeconds then .error .expiredEnvelope
  else if envelope.nonce ∈ context.seenNonces then .error .replayedNonce
  else
    .ok {
      envelopeId := envelope.envelopeId
      runId := envelope.runId
      taskId := envelope.taskId
      auditCorrelationId := envelope.auditCorrelationId }

theorem validateAgentTaskEnvelope_isOk {envelope : AgentTaskEnvelope}
    {context : AgentProtocolContext} :
    (∃ task, validateAgentTaskEnvelope envelope context = .ok task) ↔
      envelope.nodeId = context.nodeId ∧
        context.nowUnixSeconds < envelope.expiresAtUnixSeconds ∧
        envelope.nonce ∉ context.seenNonces := by
  unfold validateAgentTaskEnvelope
  split_ifs with node expired seen
  · simp [node]
  · simp [Nat.not_lt.mpr expired]
  · simp [seen]
  · simp only [Except.ok.injEq, exists_eq', true_iff]
    exact ⟨not_not.mp node, Nat.not_le.mp expired, seen⟩

inductive AgentResultStatus where
  | succeeded
  | failed
deriving DecidableEq

structure AgentResultSubmission where
  envelopeId : String
  runId : String
  taskId : String
  nodeId : String
  nonce : String
  status : AgentResultStatus
  evidence : List EvidenceEnvelope
  auditCorrelationId : String
deriving DecidableEq

structure LocalSpoolItem where
  spoolId : String
  reason : SpoolReason
  result : AgentResultSubmission
deriving DecidableEq

end Runlane
