import Runlane.Analyzer.Signals
import Runlane.E2e.Panic
import Runlane.E2e.Record
import Runlane.Planner.RestartGate
import Runlane.Planner.Routes

/-!
How the journeys end, and what is remembered of them.

A journey that ends with a receipt has said what its script says: the fleet
enrolled, every collection pulled and answered, one authorisation, one validated
action and its verification. The script takes nothing from the fleet but the ids
and the operating systems of the inventory.
-/

namespace Runlane

namespace E2e

open Fallible KeyedList

/-- What is fixed before a journey begins. -/
structure Script where
  runId : String
  incidentId : String
  runbook : String
  receiptId : String
  labels : EnrollmentLabels
  taskIds : List String
  evidence : List EvidenceEnvelope
  proposal : StructuredProposal
  proposed : ProposedAction
  fixture : ApprovalFixture
  helper : HelperFixture
  action : ActionKind
  plan : VerificationPlan
  fits : Fits proposal proposed fixture helper action
  observes : evidence ≠ []
  verifies : plan.required ≠ []

namespace Script

variable (script : Script) (fleet : FleetRepository)

def opening : List AuditEventKind :=
  [.incidentCreated script.incidentId "prod-web-01" script.runbook]

def observation : List AuditEventKind :=
  fleet.inventory.flatMap (enrollment script.labels) ++
    script.taskIds.flatMap (collection "prod-web-01") ++
    script.evidence.map fun item => .evidenceCollected item.source

def authorisation : List AuditEventKind :=
  [.proposalGenerated script.proposal.id script.proposal.hypothesis] ++
    approval script.proposal.id script.proposed.targetResourceId script.fixture ++
    [.actionResult script.action ⟨script.proposed.targetResourceId, script.helper.subject⟩
      .succeeded] ++
    verified script.plan

def events : List AuditEventKind :=
  script.opening ++ script.observation fleet ++ script.authorisation ++
    [.cognitiveReceiptGenerated script.receiptId]

/-- All that a journey over the fleet remembers. -/
def ledger : AuditLedger :=
  AuditLedger.empty.recordAll eventId script.runId (script.events fleet)

/-- A script leaves no section of its receipt without an event. -/
theorem events_complete : Complete (script.events fleet) := by
  have opened : script.opening ⊆ script.events fleet := by
    intro kind member
    simp only [events, List.mem_append]
    exact .inl (.inl (.inl member))
  have observed : script.observation fleet ⊆ script.events fleet := by
    intro kind member
    simp only [events, List.mem_append]
    exact .inl (.inl (.inr member))
  have authorised : script.authorisation ⊆ script.events fleet := by
    intro kind member
    simp only [events, List.mem_append]
    exact .inl (.inr member)
  have verifies : verified script.plan ⊆ script.authorisation := by
    intro kind member
    simp only [authorisation, List.mem_append]
    exact .inr member
  obtain ⟨item, seen⟩ := List.exists_mem_of_ne_nil _ script.observes
  obtain ⟨check, required⟩ := List.exists_mem_of_ne_nil _ script.verifies
  refine ⟨⟨_, _, _, opened List.mem_cons_self⟩, ?_, ?_, ?_, ?_, ?_, ?_⟩
  · refine ⟨item.source, observed ?_⟩
    simp only [observation, List.mem_append, List.mem_map]
    exact .inr ⟨item, seen, rfl⟩
  · exact ⟨_, _, authorised List.mem_cons_self⟩
  · refine ⟨s!"lease-{script.fixture.approvalId}", script.fixture.approvalId, authorised ?_⟩
    simp [authorisation, approval]
  · refine ⟨script.action, ⟨script.proposed.targetResourceId, script.helper.subject⟩,
      .succeeded, authorised ?_⟩
    simp [authorisation]
  · refine ⟨script.plan, authorised (verifies ?_), script.verifies⟩
    simp [verified]
  · refine ⟨check.id, check.resourceId, authorised (verifies ?_)⟩
    simp only [verified, List.mem_append, List.mem_map]
    exact .inl (.inr ⟨check, required, rfl⟩)

theorem receipted :
    ∃ receipt, generateOperatorReceipt script.runId (script.ledger fleet) = .ok receipt := by
  rw [generateOperatorReceipt_isOk, ledger, AuditLedger.eventsOf_recordAll]
  exact script.events_complete fleet

/-- The ledger when the receipt is made out, step by step. -/
def unsigned : AuditLedger :=
  let record (ledger : AuditLedger) (kinds : List AuditEventKind) : AuditLedger :=
    ledger.recordAll eventId script.runId kinds
  let observed := record (record .empty script.opening) (script.observation fleet)
  let proposed := record observed
    [.proposalGenerated script.proposal.id script.proposal.hypothesis]
  let approved := record proposed
    (approval script.proposal.id script.proposed.targetResourceId script.fixture)
  let executed := record approved
    [.actionResult script.action ⟨script.proposed.targetResourceId, script.helper.subject⟩
      .succeeded]
  record executed (verified script.plan)

theorem ledger_eq : script.ledger fleet =
    (script.unsigned fleet).recordAll eventId script.runId
      [.cognitiveReceiptGenerated script.receiptId] := by
  simp only [ledger, events, authorisation, unsigned, AuditLedger.recordAll_append]

theorem generated {receipt : OperatorReceipt}
    (receipted : generateOperatorReceipt script.runId (script.ledger fleet) = .ok receipt) :
    generateOperatorReceipt script.runId (script.unsigned fleet) = .ok receipt := by
  rwa [ledger_eq, generateOperatorReceipt_noted] at receipted

end Script

def serviceUnhealthyEvidence : List EvidenceEnvelope := [
  .text "service_status" "service=not-active",
  .text "recent_logs" "sshd failed with connection refused",
  .text "disk_snapshot" "disk=present / 40%",
  .text "process_snapshot" "process=present sshd missing",
  .text "socket_snapshot" "socket=present port 22 absent"]

theorem serviceUnhealthyEvidence_signals :
    (serviceUnhealthyEvidence.any fun envelope => envelope.shows activeMarkers) = false ∧
    (serviceUnhealthyEvidence.any fun envelope => envelope.shows unhealthyMarkers) = true ∧
    (serviceUnhealthyEvidence.any fun envelope => envelope.shows unsupportedMarkers) = false := by
  simp only [Bool.eq_false_iff, ne_eq, List.any_eq_true, EvidenceEnvelope.shows, showsAny,
    String.contains_string_iff]
  decide +kernel

/-- On the canned evidence the analyzer proposes the restart. -/
def serviceProposal : StructuredProposal :=
  (assessService "prod-web-01" "sshd" false true false).proposal
    "proposal-demo-service-unhealthy" serviceUnhealthyEvidence

theorem analyzeServiceUnhealthy_canned :
    analyzeServiceUnhealthy "proposal-demo-service-unhealthy" "prod-web-01" "sshd"
      serviceUnhealthyEvidence = serviceProposal := by
  obtain ⟨active, unhealthy, unsupported⟩ := serviceUnhealthyEvidence_signals
  rw [analyzeServiceUnhealthy_eq_signals, assessSignals, active, unhealthy, unsupported]
  rfl

def serviceRequest : ServiceUnhealthyRunbookRequest :=
  ⟨serviceRunId, "prod-web-01", "sshd"⟩

def serviceRestart : ProposedAction where
  id := "restart-service"
  kind := .serviceRestart
  targetResourceId := "system:node/prod-web-01/service/sshd"
  requiresApproval := true
  leaseRequest := some ⟨"system:node/prod-web-01/service/sshd", .exclusive,
    "service-unhealthy analyzer proposed serialized restart"⟩

def Script.service : Script where
  runId := serviceRunId
  incidentId := "incident-demo-service-unhealthy"
  runbook := "service-unhealthy"
  receiptId := "receipt-demo-service-unhealthy"
  labels := .service
  taskIds := ["collect-service-status", "collect-recent-logs", "collect-disk-snapshot",
    "collect-process-snapshot", "collect-socket-snapshot"]
  evidence := serviceUnhealthyEvidence
  proposal := serviceProposal
  proposed := serviceRestart
  fixture := .serviceUnhealthy
  helper := .serviceUnhealthy
  action := .serviceRestart
  plan := (VerificationPolicy.minimal.plan .serviceRestart serviceRequest.impact).withSkipped
    serviceRequest.verification.skipped
  fits := ⟨rfl, rfl, by decide, rfl, rfl⟩
  observes := List.cons_ne_nil _ _
  verifies := VerificationPolicy.minimal.plan_required _ _

def diskProposal : StructuredProposal :=
  (assessDisk "prod-web-01" "/" cleanupResourceId true true true).proposal
    "proposal-demo-disk-pressure" diskPressureEvidence

theorem analyzeDiskPressure_allowed {fleet : FleetRepository} (allows : AllowsCleanup fleet) :
    analyzeDiskPressure "proposal-demo-disk-pressure" "prod-web-01" "/" cleanupResourceId
      diskPressureEvidence (allowedCleanupResources fleet) = diskProposal := by
  have any : ((allowedCleanupResources fleet).any fun resource =>
      resource == cleanupResourceId) = true := by
    rw [List.any_beq', List.contains_eq_mem, decide_eq_true_eq]
    exact mem_allowedCleanupResources.mpr allows
  simp only [analyzeDiskPressure, diskPressureEvidence_pressure, diskPressureEvidence_candidate,
    any]
  rfl

def diskRequest : DiskPressureRunbookRequest :=
  ⟨diskRunId, "prod-web-01", "/", cleanupResourceId, cleanupSubject⟩

def diskCleanup : ProposedAction where
  id := "remove-allowlisted-cleanup-path"
  kind := .removeAllowlistedFile
  targetResourceId := cleanupResourceId
  requiresApproval := true
  leaseRequest := some ⟨cleanupResourceId, .exclusive,
    "disk-pressure analyzer proposed allowlisted cleanup"⟩

def Script.disk : Script where
  runId := diskRunId
  incidentId := "incident-demo-disk-pressure"
  runbook := "disk-pressure"
  receiptId := "receipt-demo-disk-pressure"
  labels := .diskPressure
  taskIds := collectTaskIds
  evidence := diskPressureEvidence
  proposal := diskProposal
  proposed := diskCleanup
  fixture := .diskPressure cleanupSubject
  helper := .diskPressure cleanupSubject
  action := .removeAllowlistedFile
  plan := (VerificationPolicy.minimal.plan .removeAllowlistedFile diskRequest.impact).withSkipped
    diskRequest.verification.skipped
  fits := ⟨rfl, rfl, by decide, rfl, rfl⟩
  observes := List.cons_ne_nil _ _
  verifies := VerificationPolicy.minimal.plan_required _ _

/-- The tasks of a plan that a journey answers with its evidence. -/
structure Collects (evidenceForTask : String → Except E2eError EvidenceEnvelope)
    (tasks : List Task) (taskIds : List String) (evidence : List EvidenceEnvelope) : Prop where
  collecting : ∃ collecting : List Task,
    tasks.filter (fun task => task.id.startsWith "collect-") = collecting ∧
    collecting.map Task.id = taskIds ∧
    (∀ task ∈ collecting, Collectable evidenceForTask task) ∧
    (collecting.map fun task => evidenceForTask task.id) = evidence.map .ok
  few : taskIds.length ≤ 90
  distinct : taskIds.Nodup

/-- Once the fleet is enrolled, the evidence is collected as scripted. -/
theorem Collects.observed {debug : DebugTexts} {runId : String} {labels : EnrollmentLabels}
    {fleet : FleetRepository} {plane : ControlPlane} {tasks : List Task} {taskIds : List String}
    {evidence : List EvidenceEnvelope}
    {evidenceForTask : String → Except E2eError EvidenceEnvelope}
    (collects : Collects evidenceForTask tasks taskIds evidence)
    (enrolled : enrollFleetAgents debug .empty fleet labels = .ok plane)
    {target : FleetInventoryNode}
    (found : lookup FleetInventoryNode.id fleet.inventory target.id = some target) :
    ∃ identity next, enrolledIdentity plane target.id = .ok identity ∧
      collectEvidence debug plane identity runId target.id tasks evidenceForTask =
        .ok (evidence, next) ∧
      next.ledger.kinds = fleet.inventory.flatMap (enrollment labels) ++
        taskIds.flatMap (collection target.id) := by
  obtain ⟨⟨collecting, chosen, ids, collectable, answers⟩, few, distinct⟩ := collects
  subst ids
  rw [List.length_map] at few
  obtain ⟨identity, ready⟩ := (enrollFleetAgents_enrolls enrolled).collecting found runId
    evidenceForTask
  obtain ⟨collected, next, passed, answered⟩ :=
    collectEvidence_ok ready chosen collectable few distinct
  rw [answers, List.map_inj_right fun _ _ => Except.ok.inj] at answered
  subst answered
  refine ⟨_, next, identity, passed, ?_⟩
  rw [collectEvidence_kinds ready chosen collectable few distinct passed,
    enrollFleetAgents_kinds enrolled, List.flatMap_map]
  rfl

theorem serviceTaskIds_start :
    (∀ id ∈ Script.service.taskIds, id.startsWith "collect-" = true) ∧
      ¬ "restart-service".startsWith "collect-" = true := by
  simp only [String.startsWith_string_iff]
  unfold Script.service
  decide

theorem serviceCollects (capabilities : ServiceUnhealthyCapabilities) :
    Collects evidenceForCollectTask (serviceRequest.plan capabilities).run.tasks
      Script.service.taskIds serviceUnhealthyEvidence where
  collecting := by
    obtain ⟨collects, restarts⟩ := serviceTaskIds_start
    have tasks : (serviceRequest.plan capabilities).run.tasks =
        serviceRequest.collectTasks capabilities ++
          [serviceRequest.restartService capabilities] := rfl
    have chosen : ∀ task ∈ serviceRequest.collectTasks capabilities,
        task.id.startsWith "collect-" = true := by
      intro task listed
      exact collects _ (List.mem_map_of_mem (f := Task.id) listed)
    have left : ∀ task ∈ [serviceRequest.restartService capabilities],
        ¬ task.id.startsWith "collect-" = true := by
      intro task listed
      rw [List.mem_singleton.mp listed]
      exact restarts
    refine ⟨serviceRequest.collectTasks capabilities, ?_, rfl, ?_, rfl⟩
    · rw [tasks, List.filter_append, List.filter_eq_self.mpr chosen,
        List.filter_eq_nil_iff.mpr left, List.append_nil]
    · intro task listed
      simp only [ServiceUnhealthyRunbookRequest.collectTasks, List.mem_cons, List.not_mem_nil,
        or_false] at listed
      obtain rfl | rfl | rfl | rfl | rfl := listed
      all_goals exact ⟨⟨_, rfl⟩, ⟨_, rfl⟩, ⟨_, rfl⟩⟩
  few := by decide
  distinct := by decide

theorem diskCollects (capabilities : DiskPressureCapabilities) :
    Collects diskPressureEvidenceForCollectTask (diskRequest.plan capabilities).run.tasks
      Script.disk.taskIds diskPressureEvidence where
  collecting := ⟨_, collectTasks_chosen diskRequest capabilities, rfl,
    collectTasks_collectable diskRequest capabilities, rfl⟩
  few := by decide
  distinct := by decide

section Run

variable {debug : DebugTexts} {root : String} {tree : Fleet.FleetTree} {yaml : Fleet.FleetYaml}
  {fleet : FleetRepository}

/-- What the service journey needs of the fleet: agents that can be told apart, and
a target that offers what the plan requires. -/
structure ReachesRestart (fleet : FleetRepository) : Prop where
  oneOs : OneOsPerId fleet.inventory
  target : ∃ node, lookup FleetInventoryNode.id fleet.inventory "prod-web-01" = some node ∧
    ∃ capabilities, nativeServiceCapabilities node.os = some capabilities ∧
      ∀ capability ∈ capabilities.all, capability.value ∈ node.requestedCapabilities

theorem supports_capabilityReport {node : FleetInventoryNode} {capability : Capability} :
    (capabilityReport node).supports capability = true ↔
      capability.value ∈ node.requestedCapabilities := by
  obtain ⟨value⟩ := capability
  simp [CapabilityReport.supports, capabilityReport]

theorem runServiceUnhealthySimulation_eq (debugPlan : ServiceUnhealthyPlanError → String)
    (loaded : FleetRepository.load root tree yaml = .ok fleet) (reaches : ReachesRestart fleet)
    {receipt : OperatorReceipt}
    (receipted : generateOperatorReceipt serviceRunId (Script.service.ledger fleet) =
      .ok receipt) :
    runServiceUnhealthySimulation debug debugPlan root tree yaml =
      .ok ⟨serviceRunId, journeyStages, receipt, Script.service.ledger fleet⟩ := by
  obtain ⟨oneOs, target, found, capabilities, native, supported⟩ := reaches
  obtain ⟨plane, enrolled⟩ := enrollFleetAgents_isOk_iff.mpr oneOs
  have named : target.id = "prod-web-01" := key_of_lookup FleetInventoryNode.id found
  have planned : planServiceUnhealthyRunbook ⟨serviceRunId, target.id, "sshd"⟩
      (capabilityReport target) = .ok (serviceRequest.plan capabilities) := by
    refine planServiceUnhealthyRunbook_eq_ok.mpr ⟨rfl, capabilities, native, ?_, ?_⟩
    · intro capability listed
      exact supports_capabilityReport.mpr (supported capability listed)
    · rw [named]
      rfl
  obtain ⟨identity, next, known, collected, logged⟩ :=
    (serviceCollects capabilities).observed enrolled (named.symm ▸ found)
  rw [named] at known collected logged planned
  have proposed (ledger : AuditLedger) : serviceUnhealthyProposal debug ledger serviceRunId
      "prod-web-01" serviceUnhealthyEvidence = .ok (serviceProposal,
        ledger.recordAll eventId serviceRunId
          [.proposalGenerated serviceProposal.id serviceProposal.hypothesis]) := by
    rw [serviceUnhealthyProposal, analyzeServiceUnhealthy_canned, validateAndRecordProposal,
      append_eq]
    rfl
  simp only [runServiceUnhealthySimulation, bind_eq_ok, Journey.of_eq_ok, pure_eq_ok,
    mapError_eq_ok, Prod.exists, loadFleet_eq_ok, targetNode_eq_ok]
  refine ⟨fleet, loaded, _, append_eq debug _ _ _, plane, enrolled, target, found, _,
    named ▸ planned, identity, named ▸ known, _, next, named ▸ collected, _,
    appendObservedEvidence_eq debug _ _ _ _, _, _, named ▸ proposed _, _, rfl, _, _,
    Script.service.fits.approved debug _ _ _, _, Script.service.fits.validated debug _ _ _, _,
    recordVerification_eq debug _ _ _ _ _, receipt, _, finishReceipt_eq debug _ _ _ ?_, ?_⟩
  · rw [logged]
    exact Script.service.generated fleet receipted
  · rw [logged, Script.service.ledger_eq]
    rfl

theorem runDiskPressureSimulation_eq
    (loaded : FleetRepository.load root tree yaml = .ok fleet) (reaches : ReachesApproval fleet)
    (allows : AllowsCleanup fleet) {receipt : OperatorReceipt}
    (receipted : generateOperatorReceipt diskRunId (Script.disk.ledger fleet) = .ok receipt) :
    runDiskPressureSimulation debug root tree yaml =
      .ok ⟨diskRunId, journeyStages, receipt, Script.disk.ledger fleet⟩ := by
  obtain ⟨oneOs, target, found, plannable⟩ := reaches
  obtain ⟨plane, enrolled⟩ := enrollFleetAgents_isOk_iff.mpr oneOs
  obtain ⟨capabilities, able⟩ := diskPressureCapabilities_isOk.mpr plannable
  have named : target.id = "prod-web-01" := key_of_lookup FleetInventoryNode.id found
  have planned : planDiskPressureRunbook
      ⟨diskRunId, target.id, "/", cleanupResourceId, cleanupSubject⟩ (capabilityReport target) =
        .ok (diskRequest.plan capabilities) := by
    refine planDiskPressureRunbook_eq_ok.mpr ⟨rfl, capabilities, able, ?_⟩
    rw [named]
    rfl
  obtain ⟨identity, next, known, collected, logged⟩ :=
    (diskCollects capabilities).observed enrolled (named.symm ▸ found)
  rw [named] at known collected logged planned
  have proposed (ledger : AuditLedger) : diskPressureProposal debug ledger diskRunId
      "prod-web-01" cleanupResourceId diskPressureEvidence fleet = .ok (diskProposal,
        ledger.recordAll eventId diskRunId
          [.proposalGenerated diskProposal.id diskProposal.hypothesis]) := by
    rw [diskPressureProposal, analyzeDiskPressure_allowed allows, validateAndRecordProposal,
      append_eq]
    rfl
  simp only [runDiskPressureSimulation, bind_eq_ok, Journey.of_eq_ok, pure_eq_ok,
    mapError_eq_ok, Prod.exists, loadFleet_eq_ok, targetNode_eq_ok]
  refine ⟨fleet, loaded, _, append_eq debug _ _ _, plane, enrolled, target, found, _,
    named ▸ planned, identity, named ▸ known, _, next, named ▸ collected, _,
    appendObservedEvidence_eq debug _ _ _ _, _, _, named ▸ proposed _, _, rfl, _, _,
    Script.disk.fits.approved debug _ _ _, _, Script.disk.fits.validated debug _ _ _, _,
    recordVerification_eq debug _ _ _ _ _, receipt, _, finishReceipt_eq debug _ _ _ ?_, ?_⟩
  · rw [logged]
    exact Script.disk.generated fleet receipted
  · rw [logged, Script.disk.ledger_eq]
    rfl

theorem Journey.of_ok_bind {α β : Type} (a : α) (rest : α → Journey β) :
    (Journey.of (.ok a) >>= rest) = rest a :=
  rfl

theorem runServiceUnhealthySimulation_failed (debugPlan : ServiceUnhealthyPlanError → String)
    (loaded : FleetRepository.load root tree yaml = .ok fleet) (short : ¬ ReachesRestart fleet) :
    ∃ error, runServiceUnhealthySimulation debug debugPlan root tree yaml =
      .error (.failed error) := by
  rw [runServiceUnhealthySimulation, loadFleet_eq_ok.mpr loaded, incidentLedger, append_eq,
    Journey.of_ok_bind, Journey.of_ok_bind]
  cases enrolled : enrollFleetAgents debug .empty fleet .service with
  | error error => exact ⟨error, rfl⟩
  | ok plane =>
      rw [Journey.of_ok_bind]
      cases found : targetNode fleet "prod-web-01" with
      | error error => exact ⟨error, rfl⟩
      | ok target =>
          rw [Journey.of_ok_bind]
          cases planned : planServiceUnhealthyRunbook ⟨serviceRunId, target.id, "sshd"⟩
            (capabilityReport target) with
          | error error => exact ⟨.planning (debugPlan error), rfl⟩
          | ok plan =>
              obtain ⟨-, capabilities, native, supported, -⟩ :=
                planServiceUnhealthyRunbook_eq_ok.mp planned
              refine absurd ⟨enrollFleetAgents_isOk_iff.mp ⟨plane, enrolled⟩, target,
                targetNode_eq_ok.mp found, capabilities, native, ?_⟩ short
              intro capability listed
              exact supports_capabilityReport.mp (supported capability listed)

theorem runDiskPressureSimulation_failed
    (loaded : FleetRepository.load root tree yaml = .ok fleet) (short : ¬ ReachesApproval fleet) :
    ∃ error, runDiskPressureSimulation debug root tree yaml = .error (.failed error) := by
  rw [runDiskPressureSimulation, loadFleet_eq_ok.mpr loaded, incidentLedger, append_eq,
    Journey.of_ok_bind, Journey.of_ok_bind]
  cases enrolled : enrollFleetAgents debug .empty fleet .diskPressure with
  | error error => exact ⟨error, rfl⟩
  | ok plane =>
      rw [Journey.of_ok_bind]
      cases found : targetNode fleet "prod-web-01" with
      | error error => exact ⟨error, rfl⟩
      | ok target =>
          rw [Journey.of_ok_bind]
          cases planned : planDiskPressureRunbook
            ⟨diskRunId, target.id, "/", cleanupResourceId, cleanupSubject⟩
            (capabilityReport target) with
          | error error => exact ⟨.planning (debug.plan error), rfl⟩
          | ok plan =>
              obtain ⟨-, capabilities, able, -⟩ := planDiskPressureRunbook_eq_ok.mp planned
              exact absurd ⟨enrollFleetAgents_isOk_iff.mp ⟨plane, enrolled⟩, target,
                targetNode_eq_ok.mp found, diskPressureCapabilities_isOk.mp ⟨capabilities, able⟩⟩
                short

/-- How both journeys end over a fleet that loads. The service journey never stops
the program, and whether it completes is up to the inventory; the disk journey also
needs the cleanup path on an allowlist. What a completed journey remembers is its
script over the inventory, and the receipt is the one its whole ledger gives. -/
theorem journeys_end (debugPlan : ServiceUnhealthyPlanError → String)
    (loaded : FleetRepository.load root tree yaml = .ok fleet) :
    (ReachesRestart fleet → ∃ receipt,
      generateOperatorReceipt serviceRunId (Script.service.ledger fleet) = .ok receipt ∧
      runServiceUnhealthySimulation debug debugPlan root tree yaml =
        .ok ⟨serviceRunId, journeyStages, receipt, Script.service.ledger fleet⟩) ∧
    (¬ ReachesRestart fleet → ∃ error,
      runServiceUnhealthySimulation debug debugPlan root tree yaml = .error (.failed error)) ∧
    (ReachesApproval fleet → AllowsCleanup fleet → ∃ receipt,
      generateOperatorReceipt diskRunId (Script.disk.ledger fleet) = .ok receipt ∧
      runDiskPressureSimulation debug root tree yaml =
        .ok ⟨diskRunId, journeyStages, receipt, Script.disk.ledger fleet⟩) ∧
    (ReachesApproval fleet → ¬ AllowsCleanup fleet → ∃ message,
      runDiskPressureSimulation debug root tree yaml = .error (.panicked message)) ∧
    (¬ ReachesApproval fleet → ∃ error,
      runDiskPressureSimulation debug root tree yaml = .error (.failed error)) := by
  refine ⟨?_, runServiceUnhealthySimulation_failed debugPlan loaded, ?_, ?_,
    runDiskPressureSimulation_failed loaded⟩
  · intro reaches
    obtain ⟨receipt, receipted⟩ := Script.service.receipted fleet
    exact ⟨receipt, receipted,
      runServiceUnhealthySimulation_eq debugPlan loaded reaches receipted⟩
  · intro reaches allows
    obtain ⟨receipt, receipted⟩ := Script.disk.receipted fleet
    exact ⟨receipt, receipted, runDiskPressureSimulation_eq loaded reaches allows receipted⟩
  · intro reaches unlisted
    exact (runDiskPressureSimulation_panicked_iff loaded).mpr ⟨reaches, unlisted⟩

theorem journeys_end_web : ∃ receipt,
    runDiskPressureSimulation noTexts "fleet" (webTree true) webYaml =
      .ok ⟨diskRunId, journeyStages, receipt, Script.disk.ledger (webFleet true)⟩ ∧
    ∃ error, runServiceUnhealthySimulation noTexts (fun _ => "") "fleet" (webTree true) webYaml =
      .error (.failed error) := by
  obtain ⟨-, short, completes, -, -⟩ :=
    @journeys_end noTexts _ _ _ _ (fun _ => "") (load_web true)
  have reaches : ReachesApproval (webFleet true) := by
    refine ⟨?_, webNode, rfl, ?_⟩
    · intro node member other listed _
      rw [List.mem_singleton.mp member, List.mem_singleton.mp listed]
    · exact ⟨by decide, ⟨"logs.journald", by decide, rfl⟩, ⟨"privilege.sudo-helper", by decide,
        rfl⟩⟩
  obtain ⟨receipt, -, completed⟩ := completes reaches ⟨_, List.mem_cons_self, rfl, rfl⟩
  refine ⟨receipt, completed, short ?_⟩
  intro able
  obtain ⟨-, node, found, capabilities, native, supported⟩ := able
  cases found
  cases native
  exact absurd (supported ⟨"service.systemd"⟩ List.mem_cons_self) (by decide)

end Run

end E2e

end Runlane
