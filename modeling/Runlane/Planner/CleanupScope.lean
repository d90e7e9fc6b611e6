import Runlane.Lib.Fallible
import Runlane.Analyzer.Proposals
import Runlane.Planner.DiskPressure
import Mathlib.Data.List.Basic

/-!
What the disk-pressure plan says of its own scope.

The resource to clean up is free text of the request, so whether it lies on the
node and outside what the plan declares unaffected is up to the request. The
filesystem has two names: the planner rewrites the slashes of the mount, and the
analyzer keeps them.
-/

namespace Runlane

open Fallible

theorem planDiskPressureRunbook_eq_ok {request : DiskPressureRunbookRequest}
    {report : CapabilityReport} {plan : DiskPressureRunbookPlan} :
    planDiskPressureRunbook request report = .ok plan ↔
      request.nodeId = report.nodeId ∧ ∃ capabilities,
        diskPressureCapabilities report = .ok capabilities ∧ request.plan capabilities = plan := by
  simp only [planDiskPressureRunbook, ite_error_eq_ok, ne_eq, not_not, bind_eq_ok, pure_eq_ok]

/-- The written resources are on the node, and what is written or may be affected
is nothing that the impact declares unaffected. -/
structure ImpactSet.ScopedTo (impact : ImpactSet) (nodeId : String) : Prop where
  consistent : ∀ resource ∈ impact.writes ++ impact.mayAffect, resource ∉ impact.doesNotAffect
  onNode : ∀ resource ∈ impact.writes, ∃ path : String, resource = s!"system:node/{nodeId}/{path}"

theorem nodeResource_inj {nodeId path other : String} :
    s!"system:node/{nodeId}/{path}" = s!"system:node/{nodeId}/{other}" ↔ path = other :=
  String.append_right_inj _

def excludedPaths : List String := ["package-db", "firewall", "path/etc"]

theorem DiskPressureRunbookRequest.mem_doesNotAffect (request : DiskPressureRunbookRequest)
    {path : String} :
    s!"system:node/{request.nodeId}/{path}" ∈ request.impact.doesNotAffect ↔
      path ∈ excludedPaths := by
  have excluded : request.impact.doesNotAffect =
      excludedPaths.map fun path : String => s!"system:node/{request.nodeId}/{path}" := by
    simp only [DiskPressureRunbookRequest.impact, excludedPaths, List.map_cons, List.map_nil,
      String.append_assoc]
    rfl
  simp only [excluded, List.mem_map, nodeResource_inj, exists_eq_right]

theorem DiskPressureRunbookRequest.filesystemResource_spared
    (request : DiskPressureRunbookRequest) :
    request.filesystemResource ∉ request.impact.doesNotAffect := by
  let path := "filesystem/" ++ mountResourceFragment request.mount
  have inside : request.filesystemResource = s!"system:node/{request.nodeId}/{path}" := by
    simp only [path, DiskPressureRunbookRequest.filesystemResource, String.append_assoc]
    rfl
  rw [inside, request.mem_doesNotAffect]
  intro member
  have start : "filesystem/".toList <+: path.toList := by
    rw [String.toList_append]
    exact List.prefix_append _ _
  have apart : ∀ path ∈ excludedPaths, ¬ "filesystem/".toList <+: path.toList := by
    unfold excludedPaths
    decide
  exact apart _ member start

theorem DiskPressureRunbookRequest.scopedTo_iff (request : DiskPressureRunbookRequest) :
    request.impact.ScopedTo request.nodeId ↔
      ∃ path : String, request.cleanupResourceId = s!"system:node/{request.nodeId}/{path}" ∧
        path ∉ excludedPaths := by
  have written : request.cleanupResourceId ∈ request.impact.writes := List.mem_cons_self
  refine ⟨?_, ?_⟩
  · intro held
    obtain ⟨path, inside⟩ := held.onNode _ written
    refine ⟨path, inside, ?_⟩
    have spared := held.consistent _ (List.mem_append_left _ written)
    rwa [inside, request.mem_doesNotAffect] at spared
  · intro named
    obtain ⟨path, inside, outside⟩ := named
    refine ⟨?_, ?_⟩
    · intro resource member
      cases List.mem_append.mp member with
      | inl write =>
          rw [List.mem_singleton.mp write, inside, request.mem_doesNotAffect]
          exact outside
      | inr affected =>
          rw [List.mem_singleton.mp affected]
          exact request.filesystemResource_spared
    · intro resource write
      exact ⟨path, (List.mem_singleton.mp write).trans inside⟩

/-- A plan is consistent and on its node exactly when the request names a path of
the node other than the three that the plan excludes. -/
theorem disk_pressure_plan_scoped_iff {request : DiskPressureRunbookRequest}
    {report : CapabilityReport} {plan : DiskPressureRunbookPlan}
    (planned : planDiskPressureRunbook request report = .ok plan) :
    plan.run.impact.ScopedTo request.nodeId ↔
      ∃ path : String, request.cleanupResourceId = s!"system:node/{request.nodeId}/{path}" ∧
        path ∉ ["package-db", "firewall", "path/etc"] := by
  obtain ⟨-, capabilities, -, rfl⟩ := planDiskPressureRunbook_eq_ok.mp planned
  exact request.scopedTo_iff

def diskReport : CapabilityReport :=
  ⟨"prod-web-01", .linux, [⟨"logs.journald"⟩, ⟨"storage.df"⟩, ⟨"privilege.sudo-helper"⟩]⟩

def diskRequest (mount path : String) : DiskPressureRunbookRequest where
  runId := "run-disk"
  nodeId := "prod-web-01"
  mount := mount
  cleanupResourceId := s!"system:node/prod-web-01/{path}"
  cleanupSubject := "/var/tmp/runlane-demo-cache"

theorem diskRequest_planned (mount path : String) : ∃ capabilities,
    planDiskPressureRunbook (diskRequest mount path) diskReport =
      .ok ((diskRequest mount path).plan capabilities) :=
  ⟨_, rfl⟩

theorem disk_pressure_plan_scoped_cache : ∃ plan,
    planDiskPressureRunbook (diskRequest "/" "path/var-tmp-runlane-demo-cache") diskReport =
      .ok plan ∧ plan.run.impact.ScopedTo "prod-web-01" := by
  obtain ⟨capabilities, planned⟩ := diskRequest_planned "/" "path/var-tmp-runlane-demo-cache"
  exact ⟨_, planned, (disk_pressure_plan_scoped_iff planned).mpr
    ⟨"path/var-tmp-runlane-demo-cache", rfl, by decide⟩⟩

theorem disk_pressure_plan_writes_package_db :
    ¬ ∀ (request : DiskPressureRunbookRequest) (report : CapabilityReport)
        (plan : DiskPressureRunbookPlan), planDiskPressureRunbook request report = .ok plan →
      plan.run.impact.ScopedTo request.nodeId := by
  intro h
  obtain ⟨capabilities, planned⟩ := diskRequest_planned "/" "package-db"
  exact (h _ _ _ planned).consistent "system:node/prod-web-01/package-db" List.mem_cons_self
    List.mem_cons_self

theorem mountResourceFragment_eq_self_iff {mount : String} :
    mountResourceFragment mount = mount ↔ '/' ∉ mount.toList := by
  unfold mountResourceFragment
  by_cases root : mount = "/"
  · rw [if_pos root, root]
    decide
  · rw [if_neg root]
    refine ⟨?_, ?_⟩
    · intro same slash
      rw [← same, String.toList_map] at slash
      obtain ⟨c, -, replaced⟩ := List.mem_map.mp slash
      split at replaced
      next => cases replaced
      next other => exact other replaced
    · intro plain
      rw [Text.trimMatches_of_not_mem plain]
      refine String.toList_injective ?_
      rw [String.toList_map]
      refine (List.map_congr_left ?_).trans (List.map_id _)
      intro c member
      refine if_neg ?_
      rintro rfl
      exact plain member

theorem DiskPressureRunbookRequest.filesystemResource_eq_iff
    (request : DiskPressureRunbookRequest) :
    request.filesystemResource = s!"system:node/{request.nodeId}/filesystem/{request.mount}" ↔
      '/' ∉ request.mount.toList := by
  rw [← mountResourceFragment_eq_self_iff]
  exact String.append_right_inj _

theorem analyzeDiskPressure_takeover {proposalId nodeId mount cleanupResourceId : String}
    {evidence : List EvidenceEnvelope} {allowedCleanupResources : List String}
    {action : ProposedAction}
    (member : action ∈ (analyzeDiskPressure proposalId nodeId mount cleanupResourceId evidence
      allowedCleanupResources).proposedActions)
    (takeover : action.kind = .manualTakeover) :
    action.targetResourceId = s!"system:node/{nodeId}/filesystem/{mount}" := by
  simp only [analyzeDiskPressure, Assessment.proposal, assessDisk] at member
  split at member
  next =>
    rw [List.mem_singleton.mp member] at takeover
    cases takeover
  next => rw [List.mem_singleton.mp member]

theorem DiskPressureRunbookRequest.collectDiskUsage_reads (request : DiskPressureRunbookRequest)
    {capabilities : DiskPressureCapabilities} {task : Task}
    (listed : task ∈ (request.plan capabilities).run.tasks)
    (named : task.id = "collect-disk-usage") : task.reads = [request.filesystemResource] := by
  simp only [DiskPressureRunbookRequest.plan, DiskPressureRunbookRequest.plannedRun,
    DiskPressureRunbookRequest.collectTasks, List.cons_append, List.nil_append, List.mem_cons,
    List.not_mem_nil, or_false] at listed
  obtain rfl | rfl | rfl | rfl | rfl := listed
  · rfl
  all_goals
    simp [DiskPressureRunbookRequest.collect, DiskPressureRunbookRequest.cleanup, Task.new] at named

/-- Plan and analysis agree on the filesystem exactly when the mount has no slash. -/
theorem planned_filesystem_is_analyzed_iff {request : DiskPressureRunbookRequest}
    {report : CapabilityReport} {plan : DiskPressureRunbookPlan}
    (planned : planDiskPressureRunbook request report = .ok plan) {collect : Task}
    (listed : collect ∈ plan.run.tasks) (named : collect.id = "collect-disk-usage")
    {proposalId cleanupResourceId : String} {evidence : List EvidenceEnvelope}
    {allowedCleanupResources : List String} {action : ProposedAction}
    (proposed : action ∈ (analyzeDiskPressure proposalId request.nodeId request.mount
      cleanupResourceId evidence allowedCleanupResources).proposedActions)
    (takeover : action.kind = .manualTakeover) :
    (collect.reads = [action.targetResourceId] ∧
      plan.run.impact.mayAffect = [action.targetResourceId]) ↔ '/' ∉ request.mount.toList := by
  obtain ⟨-, capabilities, -, rfl⟩ := planDiskPressureRunbook_eq_ok.mp planned
  have affects : (request.plan capabilities).run.impact.mayAffect =
      [request.filesystemResource] := rfl
  rw [request.collectDiskUsage_reads listed named, affects, and_self,
    analyzeDiskPressure_takeover proposed takeover, List.singleton_inj,
    request.filesystemResource_eq_iff]

theorem manualTakeover_proposed (proposalId nodeId mount cleanupResourceId : String) :
    ∃ action ∈
      (analyzeDiskPressure proposalId nodeId mount cleanupResourceId [] []).proposedActions,
      action.kind = .manualTakeover := by
  have assessed : analyzeDiskPressure proposalId nodeId mount cleanupResourceId [] [] =
      (assessDisk nodeId mount cleanupResourceId false false false).proposal proposalId [] := by
    simp [analyzeDiskPressure, assessDisk]
  rw [assessed]
  exact ⟨_, List.mem_cons_self, rfl⟩

theorem planned_filesystem_is_analyzed_var : ∃ plan, ∃ collect ∈ plan.run.tasks,
    planDiskPressureRunbook (diskRequest "var" "path/cache") diskReport = .ok plan ∧
    ∃ action ∈ (analyzeDiskPressure "proposal-1" "prod-web-01" "var" "path/cache" []
      []).proposedActions, collect.reads = [action.targetResourceId] := by
  obtain ⟨capabilities, planned⟩ := diskRequest_planned "var" "path/cache"
  obtain ⟨action, proposed, takeover⟩ := manualTakeover_proposed "proposal-1" "prod-web-01" "var"
    "path/cache"
  have agreed := (planned_filesystem_is_analyzed_iff planned List.mem_cons_self rfl proposed
    takeover).mpr (by decide)
  exact ⟨_, _, List.mem_cons_self, planned, action, proposed, agreed.1⟩

theorem root_filesystem_has_two_names :
    ¬ ∀ (request : DiskPressureRunbookRequest) (report : CapabilityReport)
        (plan : DiskPressureRunbookPlan), planDiskPressureRunbook request report = .ok plan →
      ∀ collect ∈ plan.run.tasks, collect.id = "collect-disk-usage" →
      ∀ (proposalId cleanupResourceId : String) (evidence : List EvidenceEnvelope)
        (allowedCleanupResources : List String),
      ∀ action ∈ (analyzeDiskPressure proposalId request.nodeId request.mount cleanupResourceId
        evidence allowedCleanupResources).proposedActions, action.kind = .manualTakeover →
        collect.reads = [action.targetResourceId] ∧
          plan.run.impact.mayAffect = [action.targetResourceId] := by
  intro h
  obtain ⟨capabilities, planned⟩ := diskRequest_planned "/" "path/cache"
  obtain ⟨action, proposed, takeover⟩ := manualTakeover_proposed "proposal-1" "prod-web-01" "/"
    "path/cache"
  have named := (h _ _ _ planned _ List.mem_cons_self rfl "proposal-1" "path/cache" [] [] action
    proposed takeover).2
  rw [analyzeDiskPressure_takeover proposed takeover] at named
  have same : (diskRequest "/" "path/cache").filesystemResource =
      "system:node/prod-web-01/filesystem//" := List.singleton_inj.mp named
  exact absurd same (by decide)

end Runlane
