import Runlane.Lib.Fallible
import Runlane.Lib.Text
import Runlane.Planner.ServiceUnhealthy
import Runlane.Scheduler.Admission
import Runlane.Scheduler.Explanation
import Mathlib.Data.List.Basic

/-!
What the service-unhealthy plan asks of a node, and when its restart may run.

Planning fails closed on six native capabilities. What the scheduler then sees of
the restart is its five dependencies and one exclusive lease on the service, so
the verdict turns on these alone: the restart is a system task, which no
dependency path delays, and it asks for no lease on the reboot or the package
database of its node.
-/

namespace Runlane

open Fallible LeaseMode

/-- The native capabilities of the operating systems that have a service manager. -/
def nativeServiceCapabilities : OperatingSystem → Option ServiceUnhealthyCapabilities
  | .linux => some {
      driver := .systemd
      service := ⟨"service.systemd"⟩
      log := ⟨"logs.journald"⟩
      process := ⟨"process.procfs"⟩
      socket := ⟨"socket.ss"⟩
      storage := ⟨"storage.df"⟩
      privilege := ⟨"privilege.sudo-helper"⟩ }
  | .freeBsd => some {
      driver := .freeBsdRc
      service := ⟨"service.freebsd-rc"⟩
      log := ⟨"logs.syslog-file"⟩
      process := ⟨"process.procstat"⟩
      socket := ⟨"socket.sockstat"⟩
      storage := ⟨"storage.df"⟩
      privilege := ⟨"privilege.sudo-helper"⟩ }
  | .openBsd => some {
      driver := .openBsdRcctl
      service := ⟨"service.openbsd-rcctl"⟩
      log := ⟨"logs.syslog-file"⟩
      process := ⟨"process.ps"⟩
      socket := ⟨"socket.fstat"⟩
      storage := ⟨"storage.df"⟩
      privilege := ⟨"privilege.doas-helper"⟩ }
  | .solaris | .illumos | .unknown => none

def ServiceUnhealthyCapabilities.all (capabilities : ServiceUnhealthyCapabilities) :
    List Capability :=
  [capabilities.service, capabilities.log, capabilities.process, capabilities.socket,
    capabilities.storage, capabilities.privilege]

theorem requireReportedCapability_eq_ok {report : CapabilityReport} {id reason : String}
    {capability : Capability} :
    requireReportedCapability report id reason = .ok capability ↔
      capability = ⟨id⟩ ∧ report.supports ⟨id⟩ = true := by
  unfold requireReportedCapability
  cases supported : report.supports ⟨id⟩ with
  | true => simp [supported, eq_comm]
  | false => simp [supported]

theorem serviceUnhealthyCapabilities_eq_ok {report : CapabilityReport}
    {capabilities : ServiceUnhealthyCapabilities} :
    serviceUnhealthyCapabilities report = .ok capabilities ↔
      nativeServiceCapabilities report.os = some capabilities ∧
        ∀ capability ∈ capabilities.all, report.supports capability = true := by
  obtain ⟨nodeId, os, reported⟩ := report
  simp only [serviceUnhealthyCapabilities, bind_eq_ok, requireReportedCapability_eq_ok]
  cases os with
  | solaris | illumos | unknown =>
      simp [serviceManagerDriverForOs, nativeForOs, nativeServiceCapabilities]
  | linux | freeBsd | openBsd =>
      simp only [serviceManagerDriverForOs, logCapabilityForOs, processCapabilityForOs,
        socketCapabilityForOs, privilegeCapabilityForOs, nativeForOs, nativeServiceCapabilities,
        ServiceManagerDriver.capabilityId, Except.ok.injEq, exists_eq_left', exists_eq_left,
        and_assoc, pure_eq_ok, Option.some.injEq]
      refine ⟨?_, ?_⟩
      · rintro ⟨service, log, process, socket, storage, privilege, rfl⟩
        exact ⟨rfl, by simp [ServiceUnhealthyCapabilities.all, service, log, process, socket,
          storage, privilege]⟩
      · rintro ⟨rfl, supported⟩
        simpa [ServiceUnhealthyCapabilities.all] using supported

theorem planServiceUnhealthyRunbook_eq_ok {request : ServiceUnhealthyRunbookRequest}
    {report : CapabilityReport} {plan : ServiceUnhealthyRunbookPlan} :
    planServiceUnhealthyRunbook request report = .ok plan ↔
      request.nodeId = report.nodeId ∧ ∃ capabilities,
        nativeServiceCapabilities report.os = some capabilities ∧
        (∀ capability ∈ capabilities.all, report.supports capability = true) ∧
        request.plan capabilities = plan := by
  simp only [planServiceUnhealthyRunbook, ite_error_eq_ok, ne_eq, not_not, bind_eq_ok,
    serviceUnhealthyCapabilities_eq_ok, pure_eq_ok, and_assoc]

theorem serviceResourceId_toList (nodeId service : String) :
    (serviceResourceId nodeId service).toList =
      "system:node/".toList ++ (nodeId.toList ++ '/' :: ("service/".toList ++ service.toList)) := by
  have text : serviceResourceId nodeId service =
      "system:node/" ++ nodeId ++ "/service/" ++ service := rfl
  simp only [text, String.toList_append, List.append_assoc]
  rfl

/-- A node without a slash and a service are read off their resource. -/
theorem serviceResourceId_inj {nodeId nodeId' service service' : String}
    (simple : '/' ∉ nodeId.toList) (simple' : '/' ∉ nodeId'.toList) :
    serviceResourceId nodeId service = serviceResourceId nodeId' service' ↔
      nodeId = nodeId' ∧ service = service' := by
  refine ⟨?_, fun ⟨node, same⟩ => by rw [node, same]⟩
  intro same
  have text := congrArg String.toList same
  rw [serviceResourceId_toList, serviceResourceId_toList] at text
  obtain ⟨node, rest⟩ := (Text.append_cons_inj simple simple').mp (List.append_cancel_left text)
  exact ⟨String.toList_injective node, String.toList_injective (List.append_cancel_left rest)⟩

/-- The resource of a service is none of the node's other resources. -/
theorem serviceResourceId_ne {nodeId service : String} (other : String)
    (apart : ¬ "/service/".toList <+: other.toList) :
    serviceResourceId nodeId service ≠ "system:node/" ++ nodeId ++ other := by
  intro same
  have text := congrArg String.toList same
  rw [serviceResourceId_toList] at text
  simp only [String.toList_append, List.append_assoc] at text
  have rest : "/service/".toList ++ service.toList = other.toList :=
    List.append_cancel_left (List.append_cancel_left text)
  exact apart ⟨service.toList, rest⟩

theorem ServiceUnhealthyRunbookRequest.spared (request : ServiceUnhealthyRunbookRequest) :
    serviceResourceId request.nodeId request.service ∉ request.impact.doesNotAffect := by
  intro member
  simp only [ServiceUnhealthyRunbookRequest.impact, List.mem_cons, List.not_mem_nil, or_false]
    at member
  cases member with
  | inl package => exact serviceResourceId_ne "/package-db" (by decide) package
  | inr firewall => exact serviceResourceId_ne "/firewall" (by decide) firewall

/-- The restart runs when its five dependencies are completed and no lease on the
service excludes an exclusive one. -/
theorem restartService_eq_run {request : ServiceUnhealthyRunbookRequest}
    {capabilities : ServiceUnhealthyCapabilities} {snapshot : SchedulerSnapshot} :
    snapshot.decideTask (request.restartService capabilities) =
        .run "restart-service" .dependenciesSatisfiedNoConflicts ↔
      (∀ task ∈ request.collectTasks capabilities, task.id ∈ snapshot.completedTaskIds) ∧
      ∀ existing ∈ snapshot.activeLeases,
        existing.resourceId = serviceResourceId request.nodeId request.service →
          existing.mode.isCompatibleWith exclusive = true := by
  have names : (request.restartService capabilities).dependencies =
      (request.collectTasks capabilities).map Task.id := rfl
  have requests : (request.restartService capabilities).effectiveLeaseRequests =
      [⟨serviceResourceId request.nodeId request.service, exclusive,
        "service-unhealthy restart requires serialized service mutation"⟩] := rfl
  refine SchedulerSnapshot.decideTask_eq_run_iff.trans ?_
  rw [names, requests, List.forall_mem_map, List.forall_mem_singleton]
  refine ⟨fun h => ⟨h.1, h.2.1⟩, fun h => ⟨h.1, h.2, ?_⟩⟩
  intro _ _ _ _ _ _ _
  rfl

theorem ServiceUnhealthyRunbookRequest.collect_ne_restart (request : ServiceUnhealthyRunbookRequest)
    {capabilities : ServiceUnhealthyCapabilities} {task : Task}
    (member : task ∈ request.collectTasks capabilities) : task.id ≠ "restart-service" := by
  have listed : task.id ∈ ["collect-service-status", "collect-recent-logs", "collect-disk-snapshot",
      "collect-process-snapshot", "collect-socket-snapshot"] :=
    List.mem_map_of_mem (f := Task.id) member
  intro named
  rw [named] at listed
  exact absurd listed (by decide)

/-- The restart is the only task of the plan under its id. -/
theorem ServiceUnhealthyRunbookRequest.restart_of_named (request : ServiceUnhealthyRunbookRequest)
    {capabilities : ServiceUnhealthyCapabilities} {task : Task}
    (member : task ∈ (request.plan capabilities).run.tasks) (named : task.id = "restart-service") :
    task = request.restartService capabilities := by
  simp only [ServiceUnhealthyRunbookRequest.plan, ServiceUnhealthyRunbookRequest.plannedRun,
    List.mem_append, List.mem_singleton] at member
  exact member.resolve_left fun collected => request.collect_ne_restart collected named

/-- The leases are reason enough for the task to wait, whatever else is active. -/
def LeasesBlock (leases : List ResourceLease) (task : Task) : Prop :=
  ∀ snapshot : SchedulerSnapshot, leases ⊆ snapshot.activeLeases →
    ∃ reason, snapshot.decideTask task = .wait task.id reason

/-- One restart blocks another exactly when both are of one service on one node. -/
theorem restartService_blocks_iff {request request' : ServiceUnhealthyRunbookRequest}
    {capabilities capabilities' : ServiceUnhealthyCapabilities}
    (simple : '/' ∉ request.nodeId.toList) (simple' : '/' ∉ request'.nodeId.toList)
    {entry : AdmittedTask} (started : entry.task = request.restartService capabilities) :
    LeasesBlock entry.leases (request'.restartService capabilities') ↔
      request.nodeId = request'.nodeId ∧ request.service = request'.service := by
  have held (resourceId : String) (mode : LeaseMode) : entry.Holds resourceId mode ↔
      serviceResourceId request.nodeId request.service = resourceId ∧ exclusive = mode := by
    have requests : entry.task.effectiveLeaseRequests =
        [⟨serviceResourceId request.nodeId request.service, exclusive,
          "service-unhealthy restart requires serialized service mutation"⟩] := by
      rw [started]
      rfl
    rw [entry.holds_iff_requested, requests]
    simp only [List.mem_singleton, exists_eq_left]
  rw [← serviceResourceId_inj simple simple']
  refine ⟨?_, ?_⟩
  · intro blocked
    let snapshot : SchedulerSnapshot :=
      ⟨(request'.collectTasks capabilities').map Task.id, entry.leases, []⟩
    obtain ⟨reason, wait⟩ := blocked snapshot (List.Subset.refl _)
    by_contra apart
    have run : snapshot.decideTask (request'.restartService capabilities') =
        .run "restart-service" .dependenciesSatisfiedNoConflicts := by
      refine restartService_eq_run.mpr ⟨fun task member => List.mem_map_of_mem member, ?_⟩
      intro existing active same
      have holds : entry.Holds _ existing.mode := ⟨existing, active, same, rfl⟩
      exact absurd ((held _ _).mp holds).1 apart
    rw [run] at wait
    cases wait
  · intro same snapshot recorded
    refine (snapshot.decideTask_verdict _).resolve_left ?_
    intro run
    obtain ⟨lease, member, resource, mode⟩ := (held _ exclusive).mpr ⟨same, rfl⟩
    have compatible := (restartService_eq_run.mp run).2 lease (recorded member) resource
    rw [mode] at compatible
    cases compatible

/-- What a plan promises: it asks for reported capabilities only; its last task
alone writes, and writes the service under an exclusive lease, sparing what the
plan declares unaffected; and that task waits for the other five and for every
lease on the service that excludes an exclusive one. -/
structure RestartGated (request : ServiceUnhealthyRunbookRequest) (report : CapabilityReport)
    (plan : ServiceUnhealthyRunbookPlan) (collects : List Task) (restart : Task) : Prop where
  tasks : plan.run.tasks = collects ++ [restart]
  five : collects.length = 5
  named : restart.id = "restart-service"
  reported : ∀ task ∈ plan.run.tasks, ∀ capability ∈ task.requiredCapabilities,
    report.supports capability = true
  readOnly : ∀ task ∈ collects, task.mutatedResourceIds = []
  written : restart.writes = [s!"system:node/{request.nodeId}/service/{request.service}"]
  covered : ∀ resource ∈ restart.writes, ∃ lease ∈ restart.effectiveLeaseRequests,
    lease.resourceId = resource ∧ lease.mode = exclusive
  spared : ∀ resource ∈ restart.writes, resource ∉ restart.impact.doesNotAffect ∧
    resource ∉ plan.run.impact.doesNotAffect
  gated : ∀ snapshot : SchedulerSnapshot,
    snapshot.decideTask restart = .run restart.id .dependenciesSatisfiedNoConflicts →
      (∀ task ∈ collects, task.id ∈ snapshot.completedTaskIds) ∧
      ∀ existing ∈ snapshot.activeLeases,
        existing.resourceId = s!"system:node/{request.nodeId}/service/{request.service}" →
          existing.mode.isCompatibleWith exclusive = true

theorem restartGated {request : ServiceUnhealthyRunbookRequest} {report : CapabilityReport}
    {capabilities : ServiceUnhealthyCapabilities}
    (supported : ∀ capability ∈ capabilities.all, report.supports capability = true) :
    RestartGated request report (request.plan capabilities) (request.collectTasks capabilities)
      (request.restartService capabilities) where
  tasks := rfl
  five := rfl
  named := rfl
  reported := by
    have needed : ∀ task ∈ (request.plan capabilities).run.tasks,
        task.requiredCapabilities ⊆ capabilities.all := by
      intro task member
      simp only [ServiceUnhealthyRunbookRequest.plan, ServiceUnhealthyRunbookRequest.plannedRun,
        ServiceUnhealthyRunbookRequest.collectTasks, List.cons_append, List.nil_append,
        List.mem_cons, List.not_mem_nil, or_false] at member
      obtain rfl | rfl | rfl | rfl | rfl | rfl := member <;>
        simp [ServiceUnhealthyRunbookRequest.collect, ServiceUnhealthyRunbookRequest.restartService,
          ServiceUnhealthyCapabilities.all]
    intro task member capability required
    exact supported capability (needed task member required)
  readOnly := by
    intro task member
    simp only [ServiceUnhealthyRunbookRequest.collectTasks, List.mem_cons, List.not_mem_nil,
      or_false] at member
    obtain rfl | rfl | rfl | rfl | rfl := member <;> rfl
  written := rfl
  covered := by
    intro resource member
    exact ⟨_, List.mem_cons_self, (List.mem_singleton.mp member).symm, rfl⟩
  spared := by
    intro resource member
    rw [List.mem_singleton.mp member]
    exact ⟨request.spared, request.spared⟩
  gated := fun _ run => restartService_eq_run.mp run

theorem nativeServiceCapabilities_isSome {os : OperatingSystem} :
    (∃ native, nativeServiceCapabilities os = some native) ↔
      os = .linux ∨ os = .freeBsd ∨ os = .openBsd := by
  cases os <;> simp [nativeServiceCapabilities]

/-- There is a plan for the node of the report, on a supported operating system with
all of its native capabilities. -/
theorem planServiceUnhealthyRunbook_isOk {request : ServiceUnhealthyRunbookRequest}
    {report : CapabilityReport} :
    (∃ plan, planServiceUnhealthyRunbook request report = .ok plan) ↔
      request.nodeId = report.nodeId ∧
      (report.os = .linux ∨ report.os = .freeBsd ∨ report.os = .openBsd) ∧
      ∀ native, nativeServiceCapabilities report.os = some native →
        ∀ capability ∈ native.all, report.supports capability = true := by
  rw [← nativeServiceCapabilities_isSome]
  constructor
  · intro planned
    obtain ⟨plan, planned⟩ := planned
    obtain ⟨node, capabilities, native, supported, -⟩ :=
      planServiceUnhealthyRunbook_eq_ok.mp planned
    refine ⟨node, ⟨capabilities, native⟩, ?_⟩
    intro other same
    cases native.symm.trans same
    exact supported
  · intro able
    obtain ⟨node, ⟨capabilities, native⟩, supported⟩ := able
    exact ⟨request.plan capabilities, planServiceUnhealthyRunbook_eq_ok.mpr
      ⟨node, capabilities, native, supported capabilities native, rfl⟩⟩

/-- The service-unhealthy plan fails closed and gates its mutation. -/
theorem service_unhealthy_plan_gated :
    (∀ (request : ServiceUnhealthyRunbookRequest) (report : CapabilityReport),
      (∃ plan, planServiceUnhealthyRunbook request report = .ok plan) ↔
        request.nodeId = report.nodeId ∧
        (report.os = .linux ∨ report.os = .freeBsd ∨ report.os = .openBsd) ∧
        ∀ native, nativeServiceCapabilities report.os = some native →
          ∀ capability ∈ native.all, report.supports capability = true) ∧
    (∀ (request : ServiceUnhealthyRunbookRequest) (report : CapabilityReport)
        (plan : ServiceUnhealthyRunbookPlan),
      planServiceUnhealthyRunbook request report = .ok plan →
        ∃ collects restart, RestartGated request report plan collects restart) ∧
    ∀ (request request' : ServiceUnhealthyRunbookRequest) (report report' : CapabilityReport)
        (plan plan' : ServiceUnhealthyRunbookPlan),
      planServiceUnhealthyRunbook request report = .ok plan →
      planServiceUnhealthyRunbook request' report' = .ok plan' →
      '/' ∉ request.nodeId.toList → '/' ∉ request'.nodeId.toList →
      ∀ restart ∈ plan.run.tasks, restart.id = "restart-service" →
      ∀ restart' ∈ plan'.run.tasks, restart'.id = "restart-service" →
      ∀ entry : AdmittedTask, entry.task = restart →
        (LeasesBlock entry.leases restart' ↔
          request.nodeId = request'.nodeId ∧ request.service = request'.service) := by
  refine ⟨?_, ?_, ?_⟩
  · exact fun request report => planServiceUnhealthyRunbook_isOk
  · intro request report plan planned
    obtain ⟨-, capabilities, -, supported, rfl⟩ := planServiceUnhealthyRunbook_eq_ok.mp planned
    exact ⟨_, _, restartGated supported⟩
  · intro request request' report report' plan plan' planned planned' simple simple' restart member
      named restart' member' named' entry started
    obtain ⟨-, capabilities, -, -, rfl⟩ := planServiceUnhealthyRunbook_eq_ok.mp planned
    obtain ⟨-, capabilities', -, -, rfl⟩ := planServiceUnhealthyRunbook_eq_ok.mp planned'
    rw [request.restart_of_named member named] at started
    rw [request'.restart_of_named member' named']
    exact restartService_blocks_iff simple simple' started

/-- Another run drains or reboots the node, or changes its packages. -/
def NodeDisturbed (request : ServiceUnhealthyRunbookRequest) (snapshot : SchedulerSnapshot) :
    Prop :=
  ∃ lease ∈ snapshot.activeLeases, lease.runId ≠ request.runId ∧
    ((lease.resourceId = s!"system:node/{request.nodeId}/reboot" ∧
        (lease.mode = drain ∨ lease.mode = reboot)) ∨
      (lease.resourceId = s!"system:node/{request.nodeId}/package-db" ∧ lease.mode = exclusive))

/-- The runbook's conflicts do not reach the leases of the restart, so beside a
reboot or a package change it waits only for its own evidence and service. -/
theorem restart_waits_when_disturbed_iff {request : ServiceUnhealthyRunbookRequest}
    {report : CapabilityReport} {plan : ServiceUnhealthyRunbookPlan}
    (planned : planServiceUnhealthyRunbook request report = .ok plan) {restart : Task}
    (member : restart ∈ plan.run.tasks) (named : restart.id = "restart-service")
    (snapshot : SchedulerSnapshot) (_ : NodeDisturbed request snapshot) :
    (∃ reason, snapshot.decideTask restart = .wait restart.id reason) ↔
      (∃ task ∈ plan.run.tasks, task.id ≠ "restart-service" ∧
        task.id ∉ snapshot.completedTaskIds) ∨
      ∃ existing ∈ snapshot.activeLeases,
        existing.resourceId = s!"system:node/{request.nodeId}/service/{request.service}" ∧
          existing.mode.isCompatibleWith exclusive = false := by
  obtain ⟨-, capabilities, -, -, rfl⟩ := planServiceUnhealthyRunbook_eq_ok.mp planned
  obtain rfl := request.restart_of_named member named
  have others (task : Task) : task ∈ request.collectTasks capabilities ↔
      task ∈ (request.plan capabilities).run.tasks ∧ task.id ≠ "restart-service" := by
    refine ⟨fun collected => ⟨List.mem_append_left _ collected,
      request.collect_ne_restart collected⟩, ?_⟩
    rintro ⟨listed, other⟩
    refine (List.mem_append.mp listed).resolve_right ?_
    intro last
    rw [List.mem_singleton.mp last] at other
    exact other rfl
  have waits : (∃ reason, snapshot.decideTask (request.restartService capabilities) =
      .wait "restart-service" reason) ↔
      ¬ snapshot.decideTask (request.restartService capabilities) =
        .run "restart-service" .dependenciesSatisfiedNoConflicts := by
    refine ⟨?_, (snapshot.decideTask_verdict _).resolve_left⟩
    rintro ⟨reason, wait⟩ run
    rw [run] at wait
    cases wait
  refine waits.trans ?_
  rw [restartService_eq_run, not_and_or]
  refine or_congr ?_ ?_
  · simp only [others, not_forall, and_assoc, exists_prop]
  · simp only [not_forall, exists_prop, Bool.not_eq_true]
    rfl

def restartRequest : ServiceUnhealthyRunbookRequest := ⟨"run-1", "node-a", "sshd"⟩

def linuxReport : CapabilityReport :=
  ⟨"node-a", .linux, [⟨"service.systemd"⟩, ⟨"logs.journald"⟩, ⟨"process.procfs"⟩, ⟨"socket.ss"⟩,
    ⟨"storage.df"⟩, ⟨"privilege.sudo-helper"⟩]⟩

/-- The evidence is collected, and another run reboots the node below the service. -/
def rebootingSnapshot (others : List ResourceLease) : SchedulerSnapshot where
  completedTaskIds := ["collect-service-status", "collect-recent-logs", "collect-disk-snapshot",
    "collect-process-snapshot", "collect-socket-snapshot"]
  activeLeases :=
    .forRun "lease-1" "run-2" "system:node/node-a/reboot" reboot "kernel update" :: others
  dependencyPaths := [⟨"system:node/node-a/reboot", "system:node/node-a/service/sshd"⟩]

theorem rebootingSnapshot_disturbed (others : List ResourceLease) :
    NodeDisturbed restartRequest (rebootingSnapshot others) :=
  ⟨_, List.mem_cons_self, by decide, .inl ⟨rfl, .inr rfl⟩⟩

theorem restartRequest_planned : ∃ capabilities,
    planServiceUnhealthyRunbook restartRequest linuxReport =
      .ok (restartRequest.plan capabilities) :=
  ⟨_, rfl⟩

/-- With the service leased elsewhere the restart waits, reboot or not. -/
theorem restart_waits_when_disturbed_leased :
    let leased := ResourceLease.forRun "lease-2" "run-3" "system:node/node-a/service/sshd" exclusive
      "restart"
    ∃ plan restart reason, planServiceUnhealthyRunbook restartRequest linuxReport = .ok plan ∧
      restart ∈ plan.run.tasks ∧
      (rebootingSnapshot [leased]).decideTask restart = .wait "restart-service" reason := by
  intro leased
  obtain ⟨capabilities, planned⟩ := restartRequest_planned
  have member : restartRequest.restartService capabilities ∈
      (restartRequest.plan capabilities).run.tasks :=
    List.mem_append_right _ List.mem_cons_self
  have waits := (restart_waits_when_disturbed_iff planned member rfl (rebootingSnapshot [leased])
    (rebootingSnapshot_disturbed _)).mpr
      (.inr ⟨leased, List.mem_cons_of_mem _ List.mem_cons_self, rfl, rfl⟩)
  obtain ⟨reason, wait⟩ := waits
  exact ⟨_, _, reason, planned, member, wait⟩

theorem restart_runs_beside_reboot :
    ¬ ∀ (request : ServiceUnhealthyRunbookRequest) (report : CapabilityReport)
        (plan : ServiceUnhealthyRunbookPlan),
      planServiceUnhealthyRunbook request report = .ok plan →
      ∀ restart ∈ plan.run.tasks, restart.id = "restart-service" →
      ∀ snapshot : SchedulerSnapshot, NodeDisturbed request snapshot →
        ∃ reason, snapshot.decideTask restart = .wait restart.id reason := by
  intro h
  obtain ⟨capabilities, planned⟩ := restartRequest_planned
  obtain ⟨reason, wait⟩ := h _ _ _ planned _ (List.mem_append_right _ List.mem_cons_self) rfl
    (rebootingSnapshot []) (rebootingSnapshot_disturbed [])
  have run : (rebootingSnapshot []).decideTask (restartRequest.restartService capabilities) =
      .run "restart-service" .dependenciesSatisfiedNoConflicts := by
    refine restartService_eq_run.mpr ⟨fun task member => List.mem_map_of_mem member, ?_⟩
    intro existing active
    rw [List.mem_singleton.mp active]
    decide
  rw [run] at wait
  cases wait

end Runlane
