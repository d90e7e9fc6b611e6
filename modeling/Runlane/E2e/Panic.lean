import Runlane.Analyzer.Markers
import Runlane.E2e.Preparation
import Runlane.Fleet.Isolation
import Runlane.Planner.CleanupScope

/-!
When the disk-pressure journey stops the program.

The evidence of the journey is canned, so the analyzer's choice is left to the
allowlists of the fleet. Without an entry for the cleanup path it proposes a
takeover, which passes validation, and the approval of the cleanup then panics
unless an earlier step has returned an error.
-/

namespace Runlane

namespace E2e

open Fallible KeyedList

theorem Journey.of_eq_ok {α : Type} {step : Except E2eError α} {a : α} :
    Journey.of step = .ok a ↔ step = .ok a :=
  mapError_eq_ok

theorem Journey.of_ne_panicked {α : Type} {step : Except E2eError α} {message : String} :
    Journey.of step ≠ .error (.panicked message) := by
  cases step with
  | error error => exact nofun
  | ok a => exact nofun

/-- Making the approval record is the one step that panics. -/
theorem approveAction_panicked_iff {debug : DebugTexts} {ledger : AuditLedger} {runId : String}
    {proposal : StructuredProposal} {task : Task} (fixture : ApprovalFixture) :
    (∃ message, approveAction debug ledger runId proposal task fixture =
        .error (.panicked message)) ↔
      lookup ProposedAction.id proposal.proposedActions fixture.actionId = none := by
  unfold approveAction ApprovalRecord.new
  cases lookup ProposedAction.id proposal.proposedActions fixture.actionId with
  | none => exact ⟨fun _ => rfl, fun _ => ⟨_, rfl⟩⟩
  | some action =>
      simp only [Option.map_some, Journey.of_ne_panicked, exists_false, reduceCtorEq]

section Steps

variable (debug : DebugTexts) (runId : String)

theorem append_ok (ledger : AuditLedger) (kind : AuditEventKind) :
    ∃ next, append debug ledger runId kind = .ok next := by
  rw [append, AuditLedger.append_next]
  exact ⟨_, rfl⟩

theorem appendObservedEvidence_ok (ledger : AuditLedger) (plane : ControlPlane)
    (evidence : List EvidenceEnvelope) :
    ∃ next, appendObservedEvidence debug ledger runId plane evidence = .ok next := by
  simp only [appendObservedEvidence, bind_eq_ok]
  obtain ⟨middle, first⟩ := foldlM_ok (fun ledger (event : AuditEvent) =>
    append_ok debug runId ledger event.kind) plane.ledger.events ledger
  obtain ⟨next, rest⟩ := foldlM_ok (fun ledger (item : EvidenceEnvelope) =>
    append_ok debug runId ledger (.evidenceCollected item.source)) evidence middle
  exact ⟨next, middle, first, rest⟩

theorem diskPressureProposal_ok (ledger : AuditLedger) (targetId cleanupResourceId : String)
    (evidence : List EvidenceEnvelope) (fleet : FleetRepository) :
    ∃ next, diskPressureProposal debug ledger runId targetId cleanupResourceId evidence fleet =
      .ok (analyzeDiskPressure "proposal-demo-disk-pressure" targetId "/" cleanupResourceId evidence
        (allowedCleanupResources fleet), next) := by
  let proposal := analyzeDiskPressure "proposal-demo-disk-pressure" targetId "/" cleanupResourceId
    evidence (allowedCleanupResources fleet)
  obtain ⟨action, -, valid, -⟩ := analyzeDiskPressure_action "proposal-demo-disk-pressure"
    targetId evidence "/" cleanupResourceId (allowedCleanupResources fleet)
  obtain ⟨next, appended⟩ := append_ok debug runId ledger
    (.proposalGenerated proposal.id proposal.hypothesis)
  refine ⟨next, ?_⟩
  simp only [diskPressureProposal, validateAndRecordProposal, bind_eq_ok, mapError_eq_ok]
  exact ⟨(), valid, next, appended, rfl⟩

end Steps

def diskPressureEvidence : List EvidenceEnvelope := [
  .text "disk_usage" "disk_pressure=high mount=/ usage=92",
  .text "cleanup_candidate"
    "cleanup_candidate=present path=/var/tmp/runlane-demo-cache bytes=524288000",
  .text "disk_pressure_logs" "log=present disk pressure detected; no deletion command supplied",
  .text "pre_action_snapshot"
    "pre_action_snapshot=present free_space=low cleanup_candidate=present"]

theorem pressureMarkers_onOneLine : OnOneLine pressureMarkers := by
  unfold OnOneLine pressureMarkers
  decide

theorem diskPressureEvidence_pressure :
    showsAny pressureMarkers (normalizedEvidence diskPressureEvidence) = true := by
  have body : "disk_pressure=high mount=/ usage=92".map Char.toLower =
      "" ++ "disk_pressure=high" ++ " mount=/ usage=92" := by
    decide +kernel
  have shown := Text.contains_parts "" "disk_pressure=high" " mount=/ usage=92"
  rw [← body] at shown
  exact (showsAny_normalizedEvidence pressureMarkers_onOneLine _).mpr
    ⟨_, List.mem_cons_self, List.any_eq_true.mpr ⟨_, List.mem_cons_self, shown⟩⟩

theorem diskPressureEvidence_candidate :
    (normalizedEvidence diskPressureEvidence).contains "cleanup_candidate=present" = true := by
  let rest := " path=/var/tmp/runlane-demo-cache bytes=524288000"
  have body : "cleanup_candidate=present path=/var/tmp/runlane-demo-cache bytes=524288000".map
      Char.toLower = "" ++ "cleanup_candidate=present" ++ rest := by
    decide +kernel
  have shown := Text.contains_parts "" "cleanup_candidate=present" rest
  rw [← body] at shown
  exact (Text.contains_intercalate_iff (c := '\n') rfl (by decide) (by decide) _).mpr
    ⟨_, List.mem_cons_of_mem _ List.mem_cons_self, shown⟩

/-- With this evidence the analyzer proposes the cleanup where the fleet allows it,
and a takeover elsewhere. -/
theorem analyzeDiskPressure_canned (proposalId nodeId mount cleanupResourceId : String)
    (allowed : List String) :
    lookup ProposedAction.id (analyzeDiskPressure proposalId nodeId mount cleanupResourceId
        diskPressureEvidence allowed).proposedActions "remove-allowlisted-cleanup-path" = none ↔
      cleanupResourceId ∉ allowed := by
  have any : (allowed.any fun resource => resource == cleanupResourceId) =
      decide (cleanupResourceId ∈ allowed) := by
    rw [List.any_beq', List.contains_eq_mem]
  simp only [analyzeDiskPressure, diskPressureEvidence_pressure, diskPressureEvidence_candidate,
    any, Assessment.proposal, assessDisk]
  by_cases listed : cleanupResourceId ∈ allowed
  · simp [listed, lookup]
  · simp [listed, lookup]

/-- What the plan requires of the node: storage, and the logs and the helper of its
operating system. -/
structure Plannable (node : FleetInventoryNode) : Prop where
  storage : "storage.df" ∈ node.requestedCapabilities
  log : ∃ capability ∈ node.requestedCapabilities,
    diskPressureLogCapabilityForOs node.os = .ok capability
  privilege : ∃ capability ∈ node.requestedCapabilities,
    diskPressurePrivilegeCapabilityForOs node.os = .ok capability

theorem requireDiskPressureCapability_eq_ok {node : FleetInventoryNode} {id reason : String}
    {capability : Capability} :
    requireDiskPressureCapability (capabilityReport node) id reason = .ok capability ↔
      id ∈ node.requestedCapabilities ∧ ⟨id⟩ = capability := by
  simp only [requireDiskPressureCapability, CapabilityReport.supports, capabilityReport]
  by_cases requested : id ∈ node.requestedCapabilities
  · simp [requested]
  · simp [requested]

theorem diskPressureCapabilities_isOk {node : FleetInventoryNode} :
    (∃ capabilities, diskPressureCapabilities (capabilityReport node) = .ok capabilities) ↔
      Plannable node := by
  simp only [diskPressureCapabilities, bind_eq_ok, pure_eq_ok,
    requireDiskPressureCapability_eq_ok]
  refine ⟨?_, ?_⟩
  · intro able
    obtain ⟨capabilities, storage, ⟨requested, -⟩, log, named, logging, ⟨logs, -⟩, privilege,
      named', helping, ⟨helps, -⟩, -⟩ := able
    exact ⟨requested, ⟨log, logs, named⟩, ⟨privilege, helps, named'⟩⟩
  · intro plannable
    obtain ⟨requested, ⟨log, logs, named⟩, ⟨privilege, helps, named'⟩⟩ := plannable
    exact ⟨_, _, ⟨requested, rfl⟩, log, named, _, ⟨logs, rfl⟩, privilege, named', _, ⟨helps, rfl⟩,
      rfl⟩

def collectTaskIds : List String :=
  ["collect-disk-usage", "collect-cleanup-candidate", "collect-disk-pressure-logs",
    "collect-pre-action-snapshot"]

theorem collectTaskIds_start : ∀ id ∈ collectTaskIds, id.startsWith "collect-" = true := by
  simp only [String.startsWith_string_iff]
  unfold collectTaskIds
  decide

section Plan

variable (request : DiskPressureRunbookRequest) (capabilities : DiskPressureCapabilities)

theorem collectTasks_ids :
    (request.collectTasks capabilities).map Task.id = collectTaskIds :=
  rfl

theorem collectTasks_chosen :
    (request.plan capabilities).run.tasks.filter (fun task => task.id.startsWith "collect-") =
      request.collectTasks capabilities := by
  have collects : ∀ task ∈ request.collectTasks capabilities,
      task.id.startsWith "collect-" = true := by
    intro task listed
    refine collectTaskIds_start _ ?_
    rw [← collectTasks_ids request capabilities]
    exact List.mem_map_of_mem listed
  have cleans : ∀ task ∈ [request.cleanup capabilities],
      ¬ task.id.startsWith "collect-" = true := by
    intro task listed
    rw [List.mem_singleton.mp listed, String.startsWith_string_iff]
    change ¬ "collect-".toList <+: "cleanup-allowlisted-path".toList
    decide
  have tasks : (request.plan capabilities).run.tasks =
      request.collectTasks capabilities ++ [request.cleanup capabilities] := rfl
  rw [tasks, List.filter_append, List.filter_eq_self.mpr collects,
    List.filter_eq_nil_iff.mpr cleans, List.append_nil]

theorem requireTask_cleanup :
    requireTask (request.plan capabilities).run.tasks "cleanup-allowlisted-path" =
      .ok (request.cleanup capabilities) :=
  rfl

theorem collectTasks_collectable : ∀ task ∈ request.collectTasks capabilities,
    Collectable diskPressureEvidenceForCollectTask task := by
  intro task listed
  simp only [DiskPressureRunbookRequest.collectTasks, List.mem_cons, List.not_mem_nil,
    or_false] at listed
  obtain rfl | rfl | rfl | rfl := listed
  all_goals exact ⟨⟨_, rfl⟩, ⟨_, rfl⟩, ⟨_, rfl⟩⟩

theorem collectTasks_distinct : ((request.collectTasks capabilities).map Task.id).Nodup := by
  rw [collectTasks_ids]
  decide

theorem collectTasks_answered :
    ((request.collectTasks capabilities).map fun task =>
      diskPressureEvidenceForCollectTask task.id) = diskPressureEvidence.map .ok :=
  rfl

end Plan

/-- Once the fleet is enrolled, a planned run collects the canned evidence. -/
theorem collectEvidence_canned {debug : DebugTexts} {fleet : FleetRepository}
    {labels : EnrollmentLabels} {plane : ControlPlane}
    (enrolled : enrollFleetAgents debug .empty fleet labels = .ok plane)
    {target : FleetInventoryNode}
    (found : lookup FleetInventoryNode.id fleet.inventory target.id = some target)
    (request : DiskPressureRunbookRequest) (capabilities : DiskPressureCapabilities) :
    ∃ identity next, enrolledIdentity plane target.id = .ok identity ∧
      collectEvidence debug plane identity diskRunId target.id
        (request.plan capabilities).run.tasks diskPressureEvidenceForCollectTask =
        .ok (diskPressureEvidence, next) := by
  obtain ⟨identity, collecting⟩ := (enrollFleetAgents_enrolls enrolled).collecting found diskRunId
    diskPressureEvidenceForCollectTask
  obtain ⟨evidence, next, collected, answered⟩ := collectEvidence_ok collecting
    (collectTasks_chosen request capabilities) (collectTasks_collectable request capabilities)
    (show 4 ≤ 90 by decide) (collectTasks_distinct request capabilities)
  rw [collectTasks_answered, List.map_inj_right fun _ _ => Except.ok.inj] at answered
  rw [← answered] at collected
  exact ⟨_, next, identity, collected⟩

/-- The allowlists name the cleanup path for removal. -/
def AllowsCleanup (fleet : FleetRepository) : Prop :=
  ∃ entry ∈ fleet.allowlists, entry.action = "file.remove_from_allowlist" ∧
    entry.targetResourceId = cleanupResourceId

theorem mem_allowedCleanupResources {fleet : FleetRepository} :
    cleanupResourceId ∈ allowedCleanupResources fleet ↔ AllowsCleanup fleet := by
  simp [allowedCleanupResources, AllowsCleanup, and_assoc]

/-- What the steps before the approval need of the fleet. -/
structure ReachesApproval (fleet : FleetRepository) : Prop where
  oneOs : OneOsPerId fleet.inventory
  target : ∃ node, lookup FleetInventoryNode.id fleet.inventory "prod-web-01" = some node ∧
    Plannable node

theorem targetNode_eq_ok {fleet : FleetRepository} {nodeId : String} {node : FleetInventoryNode} :
    targetNode fleet nodeId = .ok node ↔
      lookup FleetInventoryNode.id fleet.inventory nodeId = some node := by
  unfold targetNode lookup
  cases fleet.inventory.find? fun node => decide (node.id = nodeId) with
  | none => simp
  | some node => simp

theorem loadFleet_eq_ok {root : String} {tree : Fleet.FleetTree} {yaml : Fleet.FleetYaml}
    {fleet : FleetRepository} :
    loadFleet root tree yaml = .ok fleet ↔ FleetRepository.load root tree yaml = .ok fleet :=
  mapError_eq_ok

section Run

variable {debug : DebugTexts} {root : String} {tree : Fleet.FleetTree} {yaml : Fleet.FleetYaml}
  {fleet : FleetRepository}

/-- On the canned evidence the approval panics where no allowlist names the cleanup path. -/
theorem cannedApproval_panicked_iff {ledger ledger' : AuditLedger} {targetId : String}
    {proposal : StructuredProposal} {task : Task}
    (proposed : diskPressureProposal debug ledger diskRunId targetId cleanupResourceId
      diskPressureEvidence fleet = .ok (proposal, ledger')) :
    (∃ message, approveAction debug ledger' diskRunId proposal task
        (.diskPressure cleanupSubject) = .error (.panicked message)) ↔ ¬ AllowsCleanup fleet := by
  obtain ⟨next, made⟩ := diskPressureProposal_ok debug diskRunId ledger targetId
    cleanupResourceId diskPressureEvidence fleet
  cases proposed.symm.trans made
  rw [approveAction_panicked_iff, ← mem_allowedCleanupResources]
  exact analyzeDiskPressure_canned _ _ _ _ _

theorem runDiskPressureSimulation_panicked_iff
    (loaded : FleetRepository.load root tree yaml = .ok fleet) :
    (∃ message, runDiskPressureSimulation debug root tree yaml = .error (.panicked message)) ↔
      ReachesApproval fleet ∧ ¬ AllowsCleanup fleet := by
  simp only [runDiskPressureSimulation, bind_eq_error, Journey.of_ne_panicked, Journey.of_eq_ok,
    pure_ne_error, false_or, or_false, and_false, exists_false, Prod.exists, loadFleet_eq_ok,
    loaded, Except.ok.injEq, exists_eq_left', targetNode_eq_ok, mapError_eq_ok,
    planDiskPressureRunbook_eq_ok]
  refine ⟨?_, ?_⟩
  · intro run
    obtain ⟨message, _, -, plane, enrolled, target, found, plan, ⟨-, capabilities, able, rfl⟩,
      identity, known, evidence, plane', collected, ledger, -, proposal, ledger', proposed, task, -,
      panicked⟩ := run
    refine ⟨⟨enrollFleetAgents_isOk_iff.mp ⟨plane, enrolled⟩, target, found,
      diskPressureCapabilities_isOk.mp ⟨capabilities, able⟩⟩, ?_⟩
    have named : target.id = "prod-web-01" := key_of_lookup FleetInventoryNode.id found
    obtain ⟨identity', next, known', collected'⟩ := collectEvidence_canned enrolled
      (named.symm ▸ found) ⟨diskRunId, target.id, "/", cleanupResourceId, cleanupSubject⟩
      capabilities
    cases known.symm.trans known'
    cases collected.symm.trans collected'
    exact (cannedApproval_panicked_iff proposed).mp ⟨message, panicked⟩
  · intro reaches
    obtain ⟨⟨oneOs, target, found, plannable⟩, unlisted⟩ := reaches
    have named : target.id = "prod-web-01" := key_of_lookup FleetInventoryNode.id found
    obtain ⟨plane, enrolled⟩ := enrollFleetAgents_isOk_iff.mpr oneOs
    obtain ⟨capabilities, able⟩ := diskPressureCapabilities_isOk.mpr plannable
    obtain ⟨incident, opened⟩ := append_ok debug diskRunId .empty
      (.incidentCreated "incident-demo-disk-pressure" "prod-web-01" "disk-pressure")
    obtain ⟨identity, next, known, collected⟩ := collectEvidence_canned enrolled
      (named.symm ▸ found) ⟨diskRunId, target.id, "/", cleanupResourceId, cleanupSubject⟩
      capabilities
    obtain ⟨ledger, observed⟩ := appendObservedEvidence_ok debug diskRunId incident next
      diskPressureEvidence
    obtain ⟨ledger', proposed⟩ := diskPressureProposal_ok debug diskRunId ledger target.id
      cleanupResourceId diskPressureEvidence fleet
    obtain ⟨message, panicked⟩ := (cannedApproval_panicked_iff proposed).mpr unlisted
    exact ⟨message, incident, opened, plane, enrolled, target, found, _,
      ⟨rfl, capabilities, able, rfl⟩, identity, known, _, next, collected, ledger, observed, _,
      ledger', proposed, _, requireTask_cleanup _ capabilities, panicked⟩

/-- The run ends with a result or an error. -/
def Journey.Returns {α : Type} (run : Journey α) : Prop :=
  (∃ result, run = .ok result) ∨ ∃ error, run = .error (.failed error)

theorem Journey.returns_iff {α : Type} {run : Journey α} :
    run.Returns ↔ ¬ ∃ message, run = .error (.panicked message) := by
  cases run with
  | error halt =>
      cases halt with
      | failed error => simp [Returns]
      | panicked message => simp [Returns]
  | ok result => simp [Returns]

/-- The run returns exactly where the fleet allows the cleanup, or does not get as
far as the approval. -/
theorem disk_pressure_run_returns_iff
    (loaded : FleetRepository.load root tree yaml = .ok fleet) :
    (runDiskPressureSimulation debug root tree yaml).Returns ↔
      AllowsCleanup fleet ∨ ¬ ReachesApproval fleet := by
  rw [Journey.returns_iff, runDiskPressureSimulation_panicked_iff loaded, not_and_or, not_not]
  exact or_comm

end Run

def webInventory : String :=
  "id: prod-web-01\nhostname: prod-web-01\nos: linux\nlayers:\n  primary: system\n" ++
    "  supports: [system]\ncapabilities:\n" ++
    "  requested: [logs.journald, storage.df, privilege.sudo-helper]\n" ++
    "policy:\n  profile: production\n"

def cleanupAllowlist : String :=
  "id: allow-cleanup\naction: file.remove_from_allowlist\n" ++
    s!"target_resource_id: {cleanupResourceId}\n"

/-- The cleanup path is on an allowlist of the fleet, or there is none. -/
def webTree (allows : Bool) : Fleet.FleetTree
  | "inventory" => some (.ok [.file "prod-web-01.yaml" (.ok webInventory)])
  | "policies" => some (.ok [.file "production.yaml" (.ok Fleet.productionPolicy)])
  | "allowlists" =>
      if allows then some (.ok [.file "cleanup.yaml" (.ok cleanupAllowlist)]) else none
  | _ => none

def webYaml : Fleet.FleetYaml :=
  { Fleet.sampleFleetYaml with
    value := Fleet.document [
      (webInventory, .mapping [Fleet.entry "id" (.string "prod-web-01"),
        Fleet.entry "hostname" (.string "prod-web-01"), Fleet.entry "os" (.string "linux"),
        Fleet.entry "layers" (.mapping [Fleet.entry "primary" (.string "system"),
          Fleet.entry "supports" (.sequence [.string "system"])]),
        Fleet.entry "capabilities" (.mapping [Fleet.entry "requested" (.sequence [
          .string "logs.journald", .string "storage.df", .string "privilege.sudo-helper"])]),
        Fleet.entry "policy" (.mapping [Fleet.entry "profile" (.string "production")])]),
      (Fleet.productionPolicy, .mapping [Fleet.entry "id" (.string "production"),
        Fleet.entry "helper" (.mapping [Fleet.entry "require_signed_lease" (.bool true),
          Fleet.entry "reject_replay" (.bool true)])]),
      (cleanupAllowlist, .mapping [Fleet.entry "id" (.string "allow-cleanup"),
        Fleet.entry "action" (.string "file.remove_from_allowlist"),
        Fleet.entry "target_resource_id" (.string cleanupResourceId)])]
    inventoryNode := Fleet.document [(webInventory, {
      id := "prod-web-01"
      hostname := "prod-web-01"
      os := "linux"
      labels := []
      layers := ⟨"system", ["system"]⟩
      requestedCapabilities := ["logs.journald", "storage.df", "privilege.sudo-helper"]
      policyProfile := "production" })]
    allowlist := Fleet.document [(cleanupAllowlist,
      ⟨"allow-cleanup", "file.remove_from_allowlist", cleanupResourceId⟩)] }

def webNode : FleetInventoryNode where
  id := "prod-web-01"
  hostname := "prod-web-01"
  os := .linux
  labels := []
  layers := ⟨.system, [.system]⟩
  requestedCapabilities := ["logs.journald", "storage.df", "privilege.sudo-helper"]
  policyProfile := "production"

def webFleet (allows : Bool) : FleetRepository where
  root := "fleet"
  inventory := [webNode]
  roles := []
  runbooks := []
  policies := [⟨"production", true, true⟩]
  allowlists :=
    if allows then [⟨"allow-cleanup", "file.remove_from_allowlist", cleanupResourceId⟩] else []
  overlays := []
  resolvedOverlay := ⟨[]⟩

theorem load_web (allows : Bool) :
    FleetRepository.load "fleet" (webTree allows) webYaml = .ok (webFleet allows) := by
  cases allows with
  | false => decide +kernel
  | true => decide +kernel

/-- Neither run on this fleet prints an error. -/
def noTexts : DebugTexts where
  auditAppend _ := ""
  runtime _ := ""
  plan _ := ""
  proposal _ := ""
  approval _ := ""
  helper _ := ""
  receipt _ := ""

theorem disk_pressure_run_returns_allowed :
    (runDiskPressureSimulation noTexts "fleet" (webTree true) webYaml).Returns :=
  (disk_pressure_run_returns_iff (load_web true)).mpr
    (.inl ⟨_, List.mem_cons_self, rfl, rfl⟩)

theorem disk_pressure_run_panics :
    ¬ ∀ (debug : DebugTexts) (root : String) (tree : Fleet.FleetTree) (yaml : Fleet.FleetYaml)
        (fleet : FleetRepository), FleetRepository.load root tree yaml = .ok fleet →
      (runDiskPressureSimulation debug root tree yaml).Returns := by
  intro returns
  have web := returns noTexts "fleet" (webTree false) webYaml (webFleet false) (load_web false)
  rw [Journey.returns_iff, runDiskPressureSimulation_panicked_iff (load_web false)] at web
  refine web ⟨⟨?_, webNode, rfl, ?_⟩, ?_⟩
  · intro node member other listed _
    rw [List.mem_singleton.mp member, List.mem_singleton.mp listed]
  · exact ⟨by decide, ⟨"logs.journald", by decide, rfl⟩, ⟨"privilege.sudo-helper", by decide, rfl⟩⟩
  · intro allows
    obtain ⟨entry, listed, -⟩ := allows
    cases listed

end E2e

end Runlane
