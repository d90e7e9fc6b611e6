import Runlane.E2e.Completion
import Runlane.Operator.Smoke

/-!
How the operator's commands end, and what each of them prints.

An error stands alone: whatever fails has printed nothing. A panic is left to two
causes, a stranger's user id that is the operator's own and a fleet without the
cleanup allowlist.
-/

namespace Runlane.Operator

open E2e

section Fleets

variable (debug : DebugTexts) {host : Host} {path : String}

theorem loadFleet_ok {repository : FleetRepository}
    (loaded : FleetRepository.load path (host.tree path) host.fleetYaml = .ok repository) :
    loadFleet host path = pure repository := by
  rw [loadFleet, loaded]

theorem fails_summary {error : FleetLoadError} (label : String)
    (refused : FleetRepository.load path (host.tree path) host.fleetYaml = .error error) :
    Fails (printFleetSummary host label path) := by
  unfold printFleetSummary
  refine .at_once error.display ?_
  rw [loadFleet, refused]

theorem prints_summary {repository : FleetRepository} (label : String)
    (loaded : FleetRepository.load path (host.tree path) host.fleetYaml = .ok repository) :
    Prints (printFleetSummary host label path) [summaryLine label repository.summary] := by
  unfold printFleetSummary
  exact .after (loadFleet_ok loaded) (.println _)

/-- A fleet on which the service journey completes, and its receipt. -/
def ServiceJourney (host : Host) (path : String) (receipt : OperatorReceipt) : Prop :=
  ∃ fleet, FleetRepository.load path (host.tree path) host.fleetYaml = .ok fleet ∧
    ReachesRestart fleet ∧
    generateOperatorReceipt serviceRunId (Script.service.ledger fleet) = .ok receipt

/-- A fleet on which the disk journey completes, and its receipt. -/
def DiskJourney (host : Host) (path : String) (receipt : OperatorReceipt) : Prop :=
  ∃ fleet, FleetRepository.load path (host.tree path) host.fleetYaml = .ok fleet ∧
    ReachesApproval fleet ∧ AllowsCleanup fleet ∧
    generateOperatorReceipt diskRunId (Script.disk.ledger fleet) = .ok receipt

/-- A fleet that reaches the approval and does not allow the cleanup. -/
def CleanupUnlisted (host : Host) (path : String) : Prop :=
  ∃ fleet, FleetRepository.load path (host.tree path) host.fleetYaml = .ok fleet ∧
    ReachesApproval fleet ∧ ¬ AllowsCleanup fleet

theorem serviceUnhealthySimulation_ok {receipt : OperatorReceipt}
    (completes : ServiceJourney host path receipt) :
    ∃ ledger, serviceUnhealthySimulation debug host path =
      pure ⟨serviceRunId, journeyStages, receipt, ledger⟩ := by
  obtain ⟨fleet, loaded, reaches, receipted⟩ := completes
  refine ⟨Script.service.ledger fleet, ?_⟩
  rw [serviceUnhealthySimulation, runServiceUnhealthySimulation_eq debug.plan loaded reaches
    receipted, journey]

theorem diskPressureSimulation_ok {receipt : OperatorReceipt}
    (completes : DiskJourney host path receipt) :
    ∃ ledger, diskPressureSimulation debug host path =
      pure ⟨diskRunId, journeyStages, receipt, ledger⟩ := by
  obtain ⟨fleet, loaded, reaches, allows, receipted⟩ := completes
  refine ⟨Script.disk.ledger fleet, ?_⟩
  rw [diskPressureSimulation, runDiskPressureSimulation_eq loaded reaches allows receipted, journey]

theorem diskPressureSimulation_panics (unlisted : CleanupUnlisted host path) :
    ∃ message, diskPressureSimulation debug host path = throw (.panicked message) := by
  obtain ⟨fleet, loaded, reaches, absent⟩ := unlisted
  obtain ⟨message, panicked⟩ :=
    (runDiskPressureSimulation_panicked_iff loaded).mpr ⟨reaches, absent⟩
  refine ⟨message, ?_⟩
  rw [diskPressureSimulation, panicked, journey]

/-- The service journey completes or reports an error. -/
theorem serviceUnhealthySimulation_cases (host : Host) (path : String) :
    (∃ receipt, ServiceJourney host path receipt) ∨
      ∃ message, serviceUnhealthySimulation debug host path = throw (.failed message) := by
  cases loaded : FleetRepository.load path (host.tree path) host.fleetYaml with
  | error error =>
      refine .inr ⟨error.display, ?_⟩
      have refused : E2e.loadFleet path (host.tree path) host.fleetYaml =
          .error (.fleet error.display) := by
        rw [E2e.loadFleet, loaded]
        rfl
      rw [serviceUnhealthySimulation, runServiceUnhealthySimulation, refused]
      rfl
  | ok fleet =>
      by_cases reaches : ReachesRestart fleet
      · obtain ⟨receipt, receipted⟩ := Script.service.receipted fleet
        exact .inl ⟨receipt, fleet, loaded, reaches, receipted⟩
      · have stopped : ∃ error, runServiceUnhealthySimulation debug.journey debug.plan path
            (host.tree path) host.fleetYaml = .error (.failed error) :=
          runServiceUnhealthySimulation_failed debug.plan loaded reaches
        obtain ⟨error, failed⟩ := stopped
        refine .inr ⟨error.display, ?_⟩
        rw [serviceUnhealthySimulation, failed, journey]

/-- The disk journey completes, panics or reports an error. -/
theorem diskPressureSimulation_cases (host : Host) (path : String) :
    (∃ receipt, DiskJourney host path receipt) ∨ CleanupUnlisted host path ∨
      ∃ message, diskPressureSimulation debug host path = throw (.failed message) := by
  cases loaded : FleetRepository.load path (host.tree path) host.fleetYaml with
  | error error =>
      refine .inr (.inr ⟨error.display, ?_⟩)
      have refused : E2e.loadFleet path (host.tree path) host.fleetYaml =
          .error (.fleet error.display) := by
        rw [E2e.loadFleet, loaded]
        rfl
      rw [diskPressureSimulation, runDiskPressureSimulation, refused]
      rfl
  | ok fleet =>
      by_cases reaches : ReachesApproval fleet
      · by_cases allows : AllowsCleanup fleet
        · obtain ⟨receipt, receipted⟩ := Script.disk.receipted fleet
          exact .inl ⟨receipt, fleet, loaded, reaches, allows, receipted⟩
        · exact .inr (.inl ⟨fleet, loaded, reaches, allows⟩)
      · have stopped : ∃ error, runDiskPressureSimulation debug.journey path (host.tree path)
            host.fleetYaml = .error (.failed error) :=
          runDiskPressureSimulation_failed loaded reaches
        obtain ⟨error, failed⟩ := stopped
        refine .inr (.inr ⟨error.display, ?_⟩)
        rw [diskPressureSimulation, failed, journey]

end Fleets

section Invocations

variable (host : Host)

/-- A receipt that a state directory holds for a run. -/
def StoredReceipt (id path : String) (receipt : OperatorReceipt) : Prop :=
  ∃ ledger,
    LocalServerState.loadLedger host.io (.open path) (host.ledgerFile path) = .ok ledger ∧
    generateOperatorReceipt id ledger = .ok receipt

/-- The invocations that succeed, and the lines that each prints. -/
inductive Succeeds : List String → List String → Prop
  | help {args : List String} (asks : args ∈ [[], ["--help"], ["-h"]]) : Succeeds args [help]
  | validate {path : String} {repository : FleetRepository}
      (loaded : FleetRepository.load path (host.tree path) host.fleetYaml = .ok repository) :
      Succeeds ["fleet", "validate", path] [summaryLine "fleet validation ok" repository.summary]
  | sync {path : String} {repository : FleetRepository}
      (loaded : FleetRepository.load path (host.tree path) host.fleetYaml = .ok repository) :
      Succeeds ["server", "gitops", "sync", path]
        [summaryLine "server gitops sync ok" repository.summary]
  | list : Succeeds ["approval", "list"] [approvalLine demoRecord]
  | showApproval : Succeeds ["approval", "show", "approval-demo-1"] [approvalDetail demoRecord]
  | approve : Succeeds ["approval", "approve", "approval-demo-1"] [approvedText]
  | reject : Succeeds ["approval", "reject", "approval-demo-1"] ["rejected: approval-demo-1"]
  | smoke {input : TelegramSmokeInput} (loaded : TelegramSmokeInput.load host = .ok input)
      (stranger : input.unknownUserId ≠ input.userId) :
      Succeeds ["telegram", "approval", "live-simulated-smoke"] smokeLines
  | serviceDemo {path : String} {receipt : OperatorReceipt}
      (completes : ServiceJourney host path receipt) :
      Succeeds ["demo", "service-unhealthy", path]
        ["run: run-demo-service-unhealthy", stagesLine journeyStages, receipt.renderText]
  | diskDemo {path : String} {receipt : OperatorReceipt}
      (completes : DiskJourney host path receipt) :
      Succeeds ["demo", "disk-pressure", path]
        ["run: run-demo-disk-pressure", stagesLine journeyStages, receipt.renderText]
  | serviceReceipt {path : String} {receipt : OperatorReceipt}
      (completes : ServiceJourney host path receipt) :
      Succeeds ["receipt", "show", serviceRunId, path] [receipt.renderText]
  | diskReceipt {path : String} {receipt : OperatorReceipt}
      (completes : DiskJourney host path receipt) :
      Succeeds ["receipt", "show", diskRunId, path] [receipt.renderText]
  | storedReceipt {id path : String} {receipt : OperatorReceipt} (service : id ≠ serviceRunId)
      (disk : id ≠ diskRunId) (stored : StoredReceipt host id path receipt) :
      Succeeds ["receipt", "show", id, path] [receipt.renderText]

/-- The invocations that stop the program. -/
inductive Panics : List String → Prop
  | smoke {input : TelegramSmokeInput} (loaded : TelegramSmokeInput.load host = .ok input)
      (taken : input.unknownUserId = input.userId) :
      Panics ["telegram", "approval", "live-simulated-smoke"]
  | demo {path : String} (unlisted : CleanupUnlisted host path) :
      Panics ["demo", "disk-pressure", path]
  | receipt {path : String} (unlisted : CleanupUnlisted host path) :
      Panics ["receipt", "show", diskRunId, path]

variable {host} (debug : DebugTexts) {args : List String}

theorem prints_printSimulation (runId : String) (stages : List JourneyStage) (receipt : String) :
    Prints (printSimulation runId stages receipt)
      [s!"run: {runId}", stagesLine stages, receipt] :=
  .bind (.println _) (.bind (.println _) (.println _))

theorem storedReceipt_ok {id path : String} {receipt : OperatorReceipt}
    (stored : StoredReceipt host id path receipt) :
    storedReceipt debug host id path = pure receipt := by
  obtain ⟨ledger, loaded, generated⟩ := stored
  have rendered : LocalServerState.renderReceipt host.io (.open path) id
      (host.ledgerFile path) = .ok receipt := by
    rw [LocalServerState.renderReceipt, loaded]
    change (generateOperatorReceipt id ledger).mapError _ = _
    rw [generated]
    rfl
  rw [storedReceipt, rendered]

theorem storedReceipt_cases (host : Host) (id path : String) :
    (∃ receipt, StoredReceipt host id path receipt) ∨
      ∃ message, storedReceipt debug host id path = throw (.failed message) := by
  cases rendered : LocalServerState.renderReceipt host.io (.open path) id
      (host.ledgerFile path) with
  | ok receipt =>
      obtain ⟨ledger, loaded, generated⟩ := Fallible.bind_eq_ok.mp rendered
      exact .inl ⟨receipt, ledger, loaded, Fallible.mapError_eq_ok.mp generated⟩
  | error error =>
      refine .inr ⟨s!"unknown receipt or unreadable state for {id}: " ++
        displayDurable debug error, ?_⟩
      simp only [storedReceipt, rendered]
      rfl

theorem Succeeds.prints {output : List String} (succeeds : Succeeds host args output) :
    Prints (run debug host args) output := by
  cases succeeds with
  | help asks =>
      simp only [List.mem_cons, List.not_mem_nil, or_false] at asks
      obtain rfl | rfl | rfl := asks <;> exact .println _
  | validate loaded => exact prints_summary _ loaded
  | sync loaded => exact prints_summary _ loaded
  | list => exact prints_list debug
  | showApproval => exact prints_show debug
  | approve => exact prints_approve debug
  | reject => exact prints_reject debug
  | smoke loaded stranger => exact prints_smoke debug _ loaded stranger
  | serviceDemo completes =>
      obtain ⟨ledger, simulated⟩ := serviceUnhealthySimulation_ok debug completes
      exact .after simulated (prints_printSimulation _ _ _)
  | diskDemo completes =>
      obtain ⟨ledger, simulated⟩ := diskPressureSimulation_ok debug completes
      exact .after simulated (prints_printSimulation _ _ _)
  | serviceReceipt completes =>
      obtain ⟨ledger, simulated⟩ := serviceUnhealthySimulation_ok debug completes
      exact .after simulated (.println _)
  | diskReceipt completes =>
      obtain ⟨ledger, simulated⟩ := diskPressureSimulation_ok debug completes
      exact .after simulated (.println _)
  | @storedReceipt id path receipt service disk stored =>
      change Prints (showReceipt debug host id path) _
      rw [showReceipt, if_neg service, if_neg disk]
      exact .after (storedReceipt_ok debug stored) (.println _)

theorem Panics.panics (stops : Panics host args) :
    ∃ message printed, (run debug host args).run [] = .error (.panicked message) printed := by
  cases stops with
  | smoke loaded taken =>
      obtain ⟨message, panicked⟩ := smoke_panics debug _ loaded taken
      exact ⟨message, _, panicked⟩
  | demo unlisted =>
      obtain ⟨message, panicked⟩ := diskPressureSimulation_panics debug unlisted
      refine ⟨message, [], ?_⟩
      change (diskPressureSimulation debug host _ >>= _).run [] = _
      rw [panicked]
      rfl
  | receipt unlisted =>
      obtain ⟨message, panicked⟩ := diskPressureSimulation_panics debug unlisted
      refine ⟨message, [], ?_⟩
      change (diskPressureSimulation debug host _ >>= _).run [] = _
      rw [panicked]
      rfl

theorem Fails.throws (message : String) : Fails (throw (.failed message)) :=
  ⟨message, rfl⟩

theorem approval_cases (rest : List String) :
    (∃ output, Succeeds host ("approval" :: rest) output) ∨
      Fails (runApprovalCommand debug rest) := by
  unfold runApprovalCommand
  split
  · exact .inl ⟨_, .list⟩
  · next id =>
      by_cases demo : id = "approval-demo-1"
      · subst demo
        exact .inl ⟨_, .showApproval⟩
      · exact .inr (fails_show debug demo)
  · next id =>
      by_cases demo : id = "approval-demo-1"
      · subst demo
        exact .inl ⟨_, .approve⟩
      · exact .inr (fails_approve debug demo)
  · next id =>
      by_cases demo : id = "approval-demo-1"
      · subst demo
        exact .inl ⟨_, .reject⟩
      · exact .inr (fails_reject debug demo)
  · exact .inr (.throws _)

theorem demo_cases (rest : List String) :
    (∃ output, Succeeds host ("demo" :: rest) output) ∨ Panics host ("demo" :: rest) ∨
      Fails (runDemoCommand debug host rest) := by
  unfold runDemoCommand
  split
  · next path =>
      obtain ⟨receipt, completes⟩ | ⟨message, failed⟩ :=
        serviceUnhealthySimulation_cases debug host path
      · exact .inl ⟨_, .serviceDemo completes⟩
      · exact .inr (.inr (.at_once message failed))
  · next path =>
      obtain ⟨receipt, completes⟩ | unlisted | ⟨message, failed⟩ :=
        diskPressureSimulation_cases debug host path
      · exact .inl ⟨_, .diskDemo completes⟩
      · exact .inr (.inl (.demo unlisted))
      · exact .inr (.inr (.at_once message failed))
  · exact .inr (.inr (.throws _))

theorem receipt_cases (rest : List String) :
    (∃ output, Succeeds host ("receipt" :: rest) output) ∨ Panics host ("receipt" :: rest) ∨
      Fails (runReceiptCommand debug host rest) := by
  unfold runReceiptCommand
  split
  · next id path =>
      unfold showReceipt
      by_cases service : id = serviceRunId
      · subst service
        rw [if_pos rfl]
        obtain ⟨receipt, completes⟩ | ⟨message, failed⟩ :=
          serviceUnhealthySimulation_cases debug host path
        · exact .inl ⟨_, .serviceReceipt completes⟩
        · exact .inr (.inr (.at_once message failed))
      · rw [if_neg service]
        by_cases disk : id = diskRunId
        · subst disk
          rw [if_pos rfl]
          obtain ⟨receipt, completes⟩ | unlisted | ⟨message, failed⟩ :=
            diskPressureSimulation_cases debug host path
          · exact .inl ⟨_, .diskReceipt completes⟩
          · exact .inr (.inl (.receipt unlisted))
          · exact .inr (.inr (.at_once message failed))
        · rw [if_neg disk]
          obtain ⟨receipt, stored⟩ | ⟨message, failed⟩ :=
            storedReceipt_cases debug host id path
          · exact .inl ⟨_, .storedReceipt service disk stored⟩
          · exact .inr (.inr (.at_once message failed))
  · exact .inr (.inr (.throws _))

theorem smoke_cases :
    (∃ output, Succeeds host ["telegram", "approval", "live-simulated-smoke"] output) ∨
      Panics host ["telegram", "approval", "live-simulated-smoke"] ∨
      Fails (runTelegramApprovalLiveSimulatedSmoke debug host) := by
  cases loaded : TelegramSmokeInput.load host with
  | error message => exact .inr (.inr (smoke_fails debug loaded))
  | ok input =>
      by_cases taken : input.unknownUserId = input.userId
      · exact .inr (.inl (.smoke loaded taken))
      · exact .inl ⟨_, .smoke loaded taken⟩

/-- Every invocation succeeds, stops the program or fails before it prints. -/
theorem run_cases (host : Host) (args : List String) :
    (∃ output, Succeeds host args output) ∨ Panics host args ∨ Fails (run debug host args) := by
  unfold run
  split
  · exact .inl ⟨_, .help (by simp)⟩
  · exact .inl ⟨_, .help (by simp)⟩
  · exact .inl ⟨_, .help (by simp)⟩
  · next path =>
      cases loaded : FleetRepository.load path (host.tree path) host.fleetYaml with
      | error error => exact .inr (.inr (fails_summary _ loaded))
      | ok repository => exact .inl ⟨_, .validate loaded⟩
  · next path =>
      cases loaded : FleetRepository.load path (host.tree path) host.fleetYaml with
      | error error => exact .inr (.inr (fails_summary _ loaded))
      | ok repository => exact .inl ⟨_, .sync loaded⟩
  · next rest =>
      obtain succeeds | fails := approval_cases debug rest
      · exact .inl succeeds
      · exact .inr (.inr fails)
  · exact smoke_cases debug
  · next rest => exact demo_cases debug rest
  · next rest => exact receipt_cases debug rest
  · exact .inr (.inr (.throws _))

end Invocations

/-- How every command line of the operator ends. -/
theorem operator_outcomes (debug : DebugTexts) (host : Host) (args : List String) :
    (∀ printed, (run debug host args).run [] = .ok () printed ↔ Succeeds host args printed) ∧
    ((∃ message printed, (run debug host args).run [] = .error (.panicked message) printed) ↔
      Panics host args) ∧
    ∀ message printed, (run debug host args).run [] = .error (.failed message) printed →
      printed = [] := by
  refine ⟨fun printed => ⟨?_, fun succeeds => succeeds.prints debug []⟩,
    ⟨?_, fun stops => stops.panics debug⟩, ?_⟩
  · intro done
    obtain ⟨output, succeeds⟩ | stops | ⟨message, failed⟩ := run_cases debug host args
    · have same := done.symm.trans (succeeds.prints debug [])
      cases same
      exact succeeds
    · obtain ⟨message, lines, panicked⟩ := stops.panics debug
      cases done.symm.trans panicked
    · cases done.symm.trans failed
  · intro panicked
    obtain ⟨message, lines, panicked⟩ := panicked
    obtain ⟨output, succeeds⟩ | stops | ⟨message', failed⟩ := run_cases debug host args
    · cases panicked.symm.trans (succeeds.prints debug [])
    · exact stops
    · cases panicked.symm.trans failed
  · intro message printed failed
    obtain ⟨output, succeeds⟩ | stops | ⟨message', silent⟩ := run_cases debug host args
    · cases failed.symm.trans (succeeds.prints debug [])
    · obtain ⟨message', lines, panicked⟩ := stops.panics debug
      cases failed.symm.trans panicked
    · cases failed.symm.trans silent
      rfl

end Runlane.Operator
