import Runlane.Lib.Text
import Runlane.Planner.ServiceUnhealthy

/-!
The planner of the disk-pressure runbook.

It requires three capabilities of the report, collects evidence in four tasks and
cleans up in a fifth. The resource to clean up is named by the request; the
filesystem, and what the plan declares unaffected, are named after the node.
-/

namespace Runlane

structure DiskPressureRunbookRequest where
  runId : String
  nodeId : String
  mount : String
  cleanupResourceId : String
  cleanupSubject : String
deriving DecidableEq

/-- Fully planned disk-pressure runbook execution. -/
structure DiskPressureRunbookPlan where
  storageCapability : Capability
  logCapability : Capability
  privilegeCapability : Capability
  run : Run
deriving DecidableEq

/-- Fail-closed disk-pressure planning error. -/
inductive DiskPressurePlanError where
  | nodeMismatch (requestedNodeId reportNodeId : String)
  | unsupportedOperatingSystem (os : OperatingSystem)
  | missingRequiredCapability (capability : Capability) (reason : String)
deriving DecidableEq

structure DiskPressureCapabilities where
  storage : Capability
  log : Capability
  privilege : Capability
deriving DecidableEq

def diskPressureLogCapabilityForOs (os : OperatingSystem) : Except DiskPressurePlanError String :=
  match os with
  | .linux => .ok "logs.journald"
  | .freeBsd | .openBsd => .ok "logs.syslog-file"
  | .solaris | .illumos | .unknown => .error (.unsupportedOperatingSystem os)

def diskPressurePrivilegeCapabilityForOs (os : OperatingSystem) :
    Except DiskPressurePlanError String :=
  match os with
  | .linux | .freeBsd => .ok "privilege.sudo-helper"
  | .openBsd => .ok "privilege.doas-helper"
  | .solaris | .illumos | .unknown => .error (.unsupportedOperatingSystem os)

def requireDiskPressureCapability (report : CapabilityReport) (capabilityId reason : String) :
    Except DiskPressurePlanError Capability :=
  let capability : Capability := ⟨capabilityId⟩
  if report.supports capability then .ok capability
  else .error (.missingRequiredCapability capability reason)

def diskPressureCapabilities (report : CapabilityReport) :
    Except DiskPressurePlanError DiskPressureCapabilities := do
  let storage ← requireDiskPressureCapability report "storage.df"
    "filesystem snapshot capability is required for disk-pressure"
  let log ← requireDiskPressureCapability report (← diskPressureLogCapabilityForOs report.os)
    "recent log capability is required for disk-pressure context"
  let privilege ← requireDiskPressureCapability report
    (← diskPressurePrivilegeCapabilityForOs report.os)
    "signed helper capability is required for allowlisted cleanup"
  return { storage, log, privilege }

def mountResourceFragment (mount : String) : String :=
  if mount = "/" then "root"
  else (Text.trimMatches '/' mount).map fun c => if c = '/' then '-' else c

namespace DiskPressureRunbookRequest

def filesystemResource (request : DiskPressureRunbookRequest) : String :=
  s!"system:node/{request.nodeId}/filesystem/{mountResourceFragment request.mount}"

def impact (request : DiskPressureRunbookRequest) : ImpactSet where
  layer := .system
  writes := [request.cleanupResourceId]
  mayAffect := [request.filesystemResource]
  doesNotAffect := [s!"system:node/{request.nodeId}/package-db",
    s!"system:node/{request.nodeId}/firewall", s!"system:node/{request.nodeId}/path/etc"]

def verification (request : DiskPressureRunbookRequest) : VerificationPlan :=
  let planned := VerificationPolicy.minimal.plan .removeAllowlistedFile request.impact
  { planned with
    skipped := planned.skipped ++ [
      ⟨"package_audit",
        "disk-pressure cleanup removes only an allowlisted path, not package-db"⟩,
      ⟨"firewall_audit", "disk-pressure cleanup does not mutate firewall rules"⟩] }

/-- A task that collects evidence on some resources with one capability. -/
def collect (id : String) (capability : Capability) (resourceIds : List String) : Task :=
  { Task.new id .system with
    requiredCapabilities := [capability]
    reads := resourceIds }

def collectTasks (request : DiskPressureRunbookRequest)
    (capabilities : DiskPressureCapabilities) : List Task := [
  collect "collect-disk-usage" capabilities.storage [request.filesystemResource],
  collect "collect-cleanup-candidate" capabilities.storage [request.cleanupResourceId],
  collect "collect-disk-pressure-logs" capabilities.log
    [s!"system:node/{request.nodeId}/logs/disk-pressure"],
  collect "collect-pre-action-snapshot" capabilities.storage
    [request.filesystemResource, request.cleanupResourceId]]

def cleanup (request : DiskPressureRunbookRequest)
    (capabilities : DiskPressureCapabilities) : Task :=
  { Task.new "cleanup-allowlisted-path" .system with
    requiredCapabilities := [capabilities.privilege]
    reads := [request.cleanupResourceId]
    writes := [request.cleanupResourceId]
    leaseRequests := [⟨request.cleanupResourceId, .exclusive,
      "disk-pressure cleanup requires serialized path mutation"⟩]
    dependencies := ["collect-disk-usage", "collect-cleanup-candidate",
      "collect-disk-pressure-logs", "collect-pre-action-snapshot"]
    impact := request.impact
    verification := request.verification }

def plannedRun (request : DiskPressureRunbookRequest)
    (capabilities : DiskPressureCapabilities) : Run :=
  { Run.new request.runId
      (s!"Resolve disk pressure on {request.nodeId} {request.mount} by cleaning " ++
        request.cleanupSubject) .system with
    tasks := request.collectTasks capabilities ++ [request.cleanup capabilities]
    impact := request.impact
    verification := request.verification }

def plan (request : DiskPressureRunbookRequest) (capabilities : DiskPressureCapabilities) :
    DiskPressureRunbookPlan where
  storageCapability := capabilities.storage
  logCapability := capabilities.log
  privilegeCapability := capabilities.privilege
  run := request.plannedRun capabilities

end DiskPressureRunbookRequest

/-- Plans the disk-pressure dogfood runbook without executing cleanup. -/
def planDiskPressureRunbook (request : DiskPressureRunbookRequest) (report : CapabilityReport) :
    Except DiskPressurePlanError DiskPressureRunbookPlan :=
  if request.nodeId ≠ report.nodeId then .error (.nodeMismatch request.nodeId report.nodeId)
  else do
    let capabilities ← diskPressureCapabilities report
    return request.plan capabilities

end Runlane
