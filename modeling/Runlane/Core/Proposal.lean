import Runlane.Core.Vocabulary

/-!
Structured proposals and the lease claims that an approved one leads to. A
proposed action is data; only some kinds have an action the helper can perform.
-/

namespace Runlane

inductive ProposedActionKind where
  | serviceRestart
  | serviceReload
  | removeAllowlistedFile
  | collectMoreLogs
  | manualTakeover
deriving DecidableEq

def ProposedActionKind.helperAction : ProposedActionKind → Option ActionKind
  | serviceRestart => some .serviceRestart
  | serviceReload => some .serviceReload
  | removeAllowlistedFile => some .removeAllowlistedFile
  | collectMoreLogs | manualTakeover => none

structure ProposedAction where
  id : String
  kind : ProposedActionKind
  targetResourceId : String
  requiresApproval : Bool
  leaseRequest : Option ResourceLeaseRequest
deriving DecidableEq

structure StructuredProposal where
  id : String
  hypothesis : String
  evidenceReferences : List String
  proposedActions : List ProposedAction
  confidencePercent : Nat
  approvalRequired : Bool
  untrustedEvidenceExcerpt : List String
deriving DecidableEq

/-- Claims signed by the server before a helper can perform a privileged action. -/
structure CapabilityLeaseClaims where
  leaseId : String
  runId : String
  approvalId : String
  nodeId : String
  action : ActionKind
  target : ActionTarget
  allowlistEntryId : String
  expiresAtUnixSeconds : Nat
  nonce : String
deriving DecidableEq

end Runlane
