import Runlane.Planner.Verification
import Runlane.Scheduler.Decision

/-!
The planner of the service-unhealthy runbook.

It selects the native service manager that the report's operating system
declares, requires each native capability to be reported, and fails on the first
one that is not. The plan collects evidence in five tasks and restarts the
service in a sixth, which depends on them all.
-/

namespace Runlane

structure CapabilityReport where
  nodeId : String
  os : OperatingSystem
  capabilities : List Capability
deriving DecidableEq

def CapabilityReport.supports (report : CapabilityReport) (capability : Capability) : Bool :=
  report.capabilities.any fun existing => existing == capability

/-- Native service manager selected for the service-unhealthy dogfood runbook. -/
inductive ServiceManagerDriver where
  | systemd
  | freeBsdRc
  | openBsdRcctl
deriving DecidableEq

def ServiceManagerDriver.capabilityId : ServiceManagerDriver → String
  | systemd => "service.systemd"
  | freeBsdRc => "service.freebsd-rc"
  | openBsdRcctl => "service.openbsd-rcctl"

structure ServiceUnhealthyRunbookRequest where
  runId : String
  nodeId : String
  service : String
deriving DecidableEq

/-- One execution of a runbook or manual operational task. -/
structure Run where
  id : String
  goal : String
  targetLayer : OperationalLayer
  state : RunState
  tasks : List Task
  leases : List ResourceLease
  impact : ImpactSet
  verification : VerificationPlan
deriving DecidableEq

def Run.new (id goal : String) (targetLayer : OperationalLayer) : Run where
  id := id
  goal := goal
  targetLayer := targetLayer
  state := .created
  tasks := []
  leases := []
  impact := .empty targetLayer
  verification := .empty

/-- Fully planned service-unhealthy runbook execution. -/
structure ServiceUnhealthyRunbookPlan where
  driver : ServiceManagerDriver
  logCapability : Capability
  processCapability : Capability
  socketCapability : Capability
  privilegeCapability : Capability
  run : Run
deriving DecidableEq

/-- Fail-closed service-unhealthy planning error. -/
inductive ServiceUnhealthyPlanError where
  | nodeMismatch (requestedNodeId reportNodeId : String)
  | unsupportedOperatingSystem (os : OperatingSystem)
  | missingRequiredCapability (capability : Capability) (reason : String)
deriving DecidableEq

structure ServiceUnhealthyCapabilities where
  driver : ServiceManagerDriver
  service : Capability
  log : Capability
  process : Capability
  socket : Capability
  storage : Capability
  privilege : Capability
deriving DecidableEq

/-- A native choice for the three operating systems that have one. -/
def nativeForOs {α : Type} (linux freeBsd openBsd : α) (os : OperatingSystem) :
    Except ServiceUnhealthyPlanError α :=
  match os with
  | .linux => .ok linux
  | .freeBsd => .ok freeBsd
  | .openBsd => .ok openBsd
  | .solaris | .illumos | .unknown => .error (.unsupportedOperatingSystem os)

def serviceManagerDriverForOs (os : OperatingSystem) :
    Except ServiceUnhealthyPlanError ServiceManagerDriver :=
  nativeForOs .systemd .freeBsdRc .openBsdRcctl os

def logCapabilityForOs (os : OperatingSystem) : Except ServiceUnhealthyPlanError String :=
  nativeForOs "logs.journald" "logs.syslog-file" "logs.syslog-file" os

def processCapabilityForOs (os : OperatingSystem) : Except ServiceUnhealthyPlanError String :=
  nativeForOs "process.procfs" "process.procstat" "process.ps" os

def socketCapabilityForOs (os : OperatingSystem) : Except ServiceUnhealthyPlanError String :=
  nativeForOs "socket.ss" "socket.sockstat" "socket.fstat" os

def privilegeCapabilityForOs (os : OperatingSystem) : Except ServiceUnhealthyPlanError String :=
  nativeForOs "privilege.sudo-helper" "privilege.sudo-helper" "privilege.doas-helper" os

def requireReportedCapability (report : CapabilityReport) (capabilityId reason : String) :
    Except ServiceUnhealthyPlanError Capability :=
  let capability : Capability := ⟨capabilityId⟩
  if report.supports capability then .ok capability
  else .error (.missingRequiredCapability capability reason)

def serviceUnhealthyCapabilities (report : CapabilityReport) :
    Except ServiceUnhealthyPlanError ServiceUnhealthyCapabilities := do
  let driver ← serviceManagerDriverForOs report.os
  let service ← requireReportedCapability report driver.capabilityId
    "native service manager capability is required for service-unhealthy"
  let log ← requireReportedCapability report (← logCapabilityForOs report.os)
    "native service log capability is required for service-unhealthy"
  let process ← requireReportedCapability report (← processCapabilityForOs report.os)
    "native process snapshot capability is required for service-unhealthy"
  let socket ← requireReportedCapability report (← socketCapabilityForOs report.os)
    "native socket snapshot capability is required for service-unhealthy"
  let storage ← requireReportedCapability report "storage.df"
    "filesystem snapshot capability is required for service-unhealthy"
  let privilege ← requireReportedCapability report (← privilegeCapabilityForOs report.os)
    "signed helper capability is required for service-unhealthy restart"
  return { driver, service, log, process, socket, storage, privilege }

def serviceResourceId (nodeId service : String) : String :=
  s!"system:node/{nodeId}/service/{service}"

namespace ServiceUnhealthyRunbookRequest

def impact (request : ServiceUnhealthyRunbookRequest) : ImpactSet where
  layer := .system
  writes := [serviceResourceId request.nodeId request.service]
  mayAffect := [s!"platform:on-node/{request.nodeId}", s!"application:on-node/{request.nodeId}"]
  doesNotAffect := [s!"system:node/{request.nodeId}/package-db",
    s!"system:node/{request.nodeId}/firewall"]

def verification (request : ServiceUnhealthyRunbookRequest) : VerificationPlan :=
  let planned := VerificationPolicy.minimal.plan .serviceRestart request.impact
  { planned with
    skipped := planned.skipped ++ [
      ⟨"package_audit",
        "service-unhealthy restart mutates only the service resource, not package-db"⟩,
      ⟨"firewall_audit",
        "service-unhealthy restart mutates only the service resource, not firewall rules"⟩] }

/-- A task that collects one kind of evidence with one capability. -/
def collect (id : String) (capability : Capability) (resourceId : String) : Task :=
  { Task.new id .system with
    requiredCapabilities := [capability]
    reads := [resourceId] }

def collectTasks (request : ServiceUnhealthyRunbookRequest)
    (capabilities : ServiceUnhealthyCapabilities) : List Task := [
  collect "collect-service-status" capabilities.service
    (serviceResourceId request.nodeId request.service),
  collect "collect-recent-logs" capabilities.log
    s!"system:node/{request.nodeId}/logs/{request.service}",
  collect "collect-disk-snapshot" capabilities.storage s!"system:node/{request.nodeId}/filesystem",
  collect "collect-process-snapshot" capabilities.process
    s!"system:node/{request.nodeId}/processes",
  collect "collect-socket-snapshot" capabilities.socket s!"system:node/{request.nodeId}/sockets"]

def restartService (request : ServiceUnhealthyRunbookRequest)
    (capabilities : ServiceUnhealthyCapabilities) : Task :=
  let serviceResource := serviceResourceId request.nodeId request.service
  { Task.new "restart-service" .system with
    requiredCapabilities := [capabilities.service, capabilities.privilege]
    reads := [serviceResource]
    writes := [serviceResource]
    leaseRequests := [⟨serviceResource, .exclusive,
      "service-unhealthy restart requires serialized service mutation"⟩]
    dependencies := ["collect-service-status", "collect-recent-logs", "collect-disk-snapshot",
      "collect-process-snapshot", "collect-socket-snapshot"]
    impact := request.impact
    verification := request.verification }

def plannedRun (request : ServiceUnhealthyRunbookRequest)
    (capabilities : ServiceUnhealthyCapabilities) : Run :=
  { Run.new request.runId s!"Diagnose unhealthy service {request.service} on {request.nodeId}"
      .system with
    tasks := request.collectTasks capabilities ++ [request.restartService capabilities]
    impact := request.impact
    verification := request.verification }

def plan (request : ServiceUnhealthyRunbookRequest) (capabilities : ServiceUnhealthyCapabilities) :
    ServiceUnhealthyRunbookPlan where
  driver := capabilities.driver
  logCapability := capabilities.log
  processCapability := capabilities.process
  socketCapability := capabilities.socket
  privilegeCapability := capabilities.privilege
  run := request.plannedRun capabilities

end ServiceUnhealthyRunbookRequest

/-- Plans the cross-platform service-unhealthy dogfood runbook without executing it. -/
def planServiceUnhealthyRunbook (request : ServiceUnhealthyRunbookRequest)
    (report : CapabilityReport) :
    Except ServiceUnhealthyPlanError ServiceUnhealthyRunbookPlan :=
  if request.nodeId ≠ report.nodeId then .error (.nodeMismatch request.nodeId report.nodeId)
  else do
    let capabilities ← serviceUnhealthyCapabilities report
    return request.plan capabilities

end Runlane
