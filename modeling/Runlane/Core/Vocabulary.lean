/-!
The shared domain vocabulary: layers, resources, leases, impact, verification
and the typed actions. Only data and the lease-mode tables live here; nothing
touches a network, a database or an operating system.

Unix seconds and other `u64` values are natural numbers. The code compares them
and never lets a difference or a sum wrap.
-/

namespace Runlane

inductive OperationalLayer where
  | system
  | platform
  | application
deriving DecidableEq

inductive OperatingSystem where
  | linux
  | freeBsd
  | openBsd
  | solaris
  | illumos
  | unknown
deriving DecidableEq

inductive LeaseMode where
  | observe
  | intent
  | exclusive
  | drain
  | reboot
deriving DecidableEq

namespace LeaseMode

def isMutating : LeaseMode → Bool
  | exclusive | drain | reboot => true
  | observe | intent => false

def isCompatibleWith : LeaseMode → LeaseMode → Bool
  | observe, observe | observe, intent | observe, exclusive | observe, drain => true
  | intent, observe | intent, intent | intent, exclusive => true
  | exclusive, observe | exclusive, intent => true
  | drain, observe | drain, reboot => true
  | reboot, drain => true
  | _, _ => false

theorem isCompatibleWith_comm (m n : LeaseMode) :
    m.isCompatibleWith n = n.isCompatibleWith m := by
  cases m <;> cases n <;> rfl

/-- Two mutating modes exclude each other, apart from the drain and reboot pair. -/
theorem isCompatibleWith_of_mutating {m n : LeaseMode} (hm : m.isMutating = true)
    (hn : n.isMutating = true) :
    m.isCompatibleWith n = true ↔ (m = drain ∧ n = reboot) ∨ (m = reboot ∧ n = drain) := by
  cases m <;> cases n <;> simp_all [isMutating, isCompatibleWith]

theorem reboot_isCompatibleWith {n : LeaseMode} :
    reboot.isCompatibleWith n = true ↔ n = drain := by
  cases n <;> simp [isCompatibleWith]

end LeaseMode

structure ResourceLease where
  id : String
  runId : String
  taskId : Option String
  resourceId : String
  mode : LeaseMode
  reason : String
deriving DecidableEq

/-- Lease a task requests before it can run. -/
structure ResourceLeaseRequest where
  resourceId : String
  mode : LeaseMode
  reason : String
deriving DecidableEq

namespace ResourceLease

def forRun (id runId resourceId : String) (mode : LeaseMode) (reason : String) :
    ResourceLease :=
  { id, runId, taskId := none, resourceId, mode, reason }

def withTask (lease : ResourceLease) (taskId : String) : ResourceLease :=
  { lease with taskId := some taskId }

end ResourceLease

structure ImpactSet where
  layer : OperationalLayer
  writes : List String
  mayAffect : List String
  doesNotAffect : List String
deriving DecidableEq

def ImpactSet.empty (layer : OperationalLayer) : ImpactSet :=
  { layer, writes := [], mayAffect := [], doesNotAffect := [] }

inductive VerificationTier where
  | precondition
  | directImpact
  | dependent
  | broadRegression
deriving DecidableEq

structure VerificationCheck where
  id : String
  resourceId : String
  tier : VerificationTier
deriving DecidableEq

structure SkippedVerification where
  checkId : String
  reason : String
deriving DecidableEq

structure VerificationPlan where
  required : List VerificationCheck
  conditional : List VerificationCheck
  skipped : List SkippedVerification
deriving DecidableEq

def VerificationPlan.empty : VerificationPlan :=
  { required := [], conditional := [], skipped := [] }

inductive RunState where
  | created
  | planned
  | collectingEvidence
  | evidenceCollected
  | proposalGenerated
  | waitingForApproval
  | approved
  | rejected
  | executing
  | verifying
  | resolved
  | failed
  | escalated
  | reviewed
deriving DecidableEq

structure Capability where
  value : String
deriving DecidableEq

/-- Data collected from a node. It is never executable instruction text. -/
structure EvidenceEnvelope where
  source : String
  contentType : String
  body : String
  truncated : Bool
deriving DecidableEq

def EvidenceEnvelope.text (source body : String) : EvidenceEnvelope where
  source := source
  contentType := "text/plain"
  body := body
  truncated := false

/-- Typed action names keep model output away from raw shell execution. -/
inductive ActionKind where
  | serviceRestart
  | serviceReload
  | packageUpdate
  | nodeReboot
  | runAllowlistedScript
  | removeAllowlistedFile
deriving DecidableEq

structure ActionTarget where
  resourceId : String
  subject : String
deriving DecidableEq

inductive HelperActionStatus where
  | succeeded
  | failed
  | denied
deriving DecidableEq

inductive ApprovalOutcome where
  | approved
  | rejected
deriving DecidableEq

inductive SpoolReason where
  | serverUnavailable
  | submissionRejected (detail : String)
deriving DecidableEq

inductive SchedulerRunReason where
  | dependenciesSatisfiedNoConflicts
deriving DecidableEq

inductive SchedulerWaitReason where
  | dependencyIncomplete (dependencyId : String)
  | resourceConflict (resourceId existingLeaseId : String)
      (existingMode requestedMode : LeaseMode)
  | lowerLayerDisruption (lowerResourceId upperResourceId existingLeaseId : String)
      (existingMode : LeaseMode)
deriving DecidableEq

inductive SchedulerDecision where
  | run (taskId : String) (reason : SchedulerRunReason)
  | wait (taskId : String) (reason : SchedulerWaitReason)
deriving DecidableEq

end Runlane
