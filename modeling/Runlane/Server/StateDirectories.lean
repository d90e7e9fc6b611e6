import Runlane.Agent.RehearsalRecord
import Runlane.Lib.Frame
import Runlane.Lib.WriteOnce
import Runlane.Operator.Outcomes
import Runlane.Server.Commands

/-!
State directories between the server, the operator and the agent's rehearsals.

The server's demo and the agent's rehearsal each append a whole ledger numbered
from one on; the server and the operator render receipts from what is there. So
a state directory is a cell that keeps the first ledger written to it.
-/

namespace Runlane

namespace StateDirectories

open Agent (DogfoodReport DogfoodTexts RehearsalCall dogfoodRunId rehearse)
open Calls E2e LocalServerState WriteOnce

variable {κ : Type}

/-- A command line of the server or the operator, or a rehearsal of the agent, with
what it finds outside the state directories. -/
inductive Command where
  | server (host : Server.Host) (args : List String)
  | agent (c : RehearsalCall)
  | operator (host : Operator.Host) (args : List String)

def printed (report : DogfoodReport) : List String :=
  [s!"runlane-agent dogfood-service-unhealthy; mode=real-host-dry-run; os={report.os.debug}; " ++
      s!"node={report.nodeId}; service={report.serviceName}; evidence={report.evidence}; " ++
      s!"helper=dry-run-validated; state_dir={report.stateDir}",
    report.receiptText]

variable (debug : Operator.DebugTexts) (texts : DogfoodTexts) (io : StateIo)
  (place : String → κ)

/-- The operator's command line where the state directories are. -/
def onDirectories (host : Operator.Host) (files : κ → LedgerFile) : Operator.Host :=
  { host with io, ledgerFile := fun path => files (place path) }

def perform [DecidableEq κ] : Command →
    EStateM (Operator.Halt ⊕ Agent.Halt) (κ → LedgerFile) (List String)
  | .server host args => fun files =>
      match (Server.run debug host io place args).run ⟨[], files⟩ with
      | .ok () console => .ok console.lines console.files
      | .error halt console => .error (.inl halt) console.files
  | .agent c => fun files =>
      let key := place c.options.stateDir
      match (rehearse texts io c).run ⟨[], files key⟩ with
      | .ok report state => .ok (printed report) (Function.update files key state.file)
      | .error halt state => .error (.inr halt) (Function.update files key state.file)
  | .operator host args => fun files =>
      match (Operator.run debug (onDirectories io place host files) args).run [] with
      | .ok () lines => .ok lines files
      | .error halt _ => .error (.inl halt) files

/-- The command comes to writing the ledger to the directory. -/
def Records : Command → κ → AuditLedger → Prop
  | .server host ["state", "demo-write", stateDir, fleetPath] => fun key ledger =>
      key = place stateDir ∧ ∃ fleet,
        FleetRepository.load fleetPath (host.tree fleetPath) host.fleetYaml = .ok fleet ∧
        ReachesRestart fleet ∧ ledger = Script.service.ledger fleet
  | .agent c => fun key ledger =>
      key = place c.options.stateDir ∧ c.Rehearses ∧ ledger = c.options.ledger
  | _ => fun _ _ => False

/-- The command is about writing, whether it comes to it or not. -/
def Writes : Command → Prop
  | .server _ ["state", "demo-write", _, _] => True
  | .agent _ => True
  | _ => False

/-- The command asks for the receipt of a run. The operator's has two ids that no
directory is asked about. -/
def Shows : Command → κ → String → Prop
  | .server _ ["state", "receipt", stateDir, id] => fun key runId =>
      key = place stateDir ∧ runId = id
  | .operator _ ["receipt", "show", id, path] => fun key runId =>
      (id ≠ serviceRunId ∧ id ≠ diskRunId) ∧ key = place path ∧ runId = id
  | _ => fun _ _ => False

theorem Records.unique {command : Command} {key key' : κ} {ledger ledger' : AuditLedger}
    (records : Records place command key ledger) (records' : Records place command key' ledger') :
    key = key' ∧ ledger = ledger' := by
  unfold Records at records records'
  split at records
  · obtain ⟨rfl, fleet, loaded, -, rfl⟩ := records
    obtain ⟨rfl, fleet', loaded', -, rfl⟩ := records'
    cases loaded.symm.trans loaded'
    exact ⟨rfl, rfl⟩
  · obtain ⟨rfl, -, rfl⟩ := records
    obtain ⟨rfl, -, rfl⟩ := records'
    exact ⟨rfl, rfl⟩
  · exact records.elim

theorem Records.writes {command : Command} {key : κ} {ledger : AuditLedger}
    (records : Records place command key ledger) : Writes command := by
  unfold Records at records
  unfold Writes
  split at records
  · trivial
  · trivial
  · exact records.elim

open Classical in
/-- The entry that the command makes in an empty directory. -/
noncomputable def entry (command : Command) : Option (κ × AuditLedger) :=
  if writes : ∃ written : κ × AuditLedger, Records place command written.1 written.2 then
    some writes.choose
  else none

theorem entry_eq_some {command : Command} {key : κ} {ledger : AuditLedger} :
    entry place command = some (key, ledger) ↔ Records place command key ledger := by
  unfold entry
  split
  case isTrue writes =>
    rw [Option.some.injEq]
    constructor
    · intro chosen
      have records := writes.choose_spec
      rwa [chosen] at records
    · intro records
      obtain ⟨same, same'⟩ := writes.choose_spec.unique place records
      exact Prod.ext same same'
  case isFalse never =>
    exact iff_of_false nofun fun records => never ⟨(key, ledger), records⟩

theorem entry_eq_none {command : Command} :
    entry place command = none ↔ ∀ key ledger, ¬ Records place command key ledger := by
  simp only [Option.eq_none_iff_forall_ne_some, ne_eq, Prod.forall, entry_eq_some]

/-- The ledger file holds what the cell holds; it need not exist for an empty one. -/
inductive Contains (io : StateIo) (Writable : AuditEvent → Prop) (file : LedgerFile) :
    Option AuditLedger → Prop where
  | nothing (stored : Stores io Writable (some (file.getD "")) .empty) :
      Contains io Writable file none
  | ledger {ledger : AuditLedger} (written : ledger.events ≠ [])
      (stored : Stores io Writable (some (file.getD "")) ledger) :
      Contains io Writable file (some ledger)

variable {debug texts io place} {Writable : AuditEvent → Prop} {file file' : LedgerFile}

theorem Contains.congr {cell : Option AuditLedger} (contains : Contains io Writable file cell)
    (same : file'.getD "" = file.getD "") : Contains io Writable file' cell := by
  cases contains with
  | nothing stored => exact .nothing (same ▸ stored)
  | ledger written stored => exact .ledger written (same ▸ stored)

/-- What a cell holds is what is loaded from its file. -/
theorem Contains.loads (faithful : io.Faithful Writable) {ledger : AuditLedger}
    (contains : Contains io Writable file (some ledger)) (state : LocalServerState) :
    loadLedger io state file = .ok ledger := by
  cases contains with
  | ledger written stored =>
      cases file with
      | none =>
          have content := stored.content
          obtain ⟨events⟩ := ledger
          cases events with
          | nil => exact absurd rfl written
          | cons event events =>
              have blank := io.stream_cons_not_blank event events
              rw [← Option.some.inj content] at blank
              cases blank
      | some content => exact stored.loads faithful state

theorem Contains.of_stores {ledger : AuditLedger} (stored : Stores io Writable file ledger)
    (written : ledger.events ≠ []) : Contains io Writable file (some ledger) := by
  have content := stored.content
  refine .ledger written ?_
  rw [content] at stored ⊢
  exact stored

theorem service_built (fleet : FleetRepository) : (Script.service.ledger fleet).Built := by
  have start : AuditLedger.empty.Built := rfl
  exact start.recordAll (Script.service.events fleet)

theorem service_some (fleet : FleetRepository) : (Script.service.ledger fleet).events ≠ [] := by
  obtain ⟨events, all, kinds, -⟩ := AuditLedger.events_recordAll .empty E2e.eventId
    Script.service.runId (Script.service.events fleet)
  rw [Script.ledger, all]
  rintro rfl
  cases kinds

section DemoWrite

variable (debug) {host : Server.Host} {stateDir fleetPath : String} {fleet : FleetRepository}

theorem simulation_ok
    (loaded : FleetRepository.load fleetPath (host.tree fleetPath) host.fleetYaml = .ok fleet)
    (reaches : ReachesRestart fleet) :
    ∃ receipt, Server.simulation debug host fleetPath =
      .ok ⟨serviceRunId, journeyStages, receipt, Script.service.ledger fleet⟩ := by
  obtain ⟨receipt, receipted⟩ := Script.service.receipted fleet
  refine ⟨receipt, ?_⟩
  rw [Server.simulation, runServiceUnhealthySimulation_eq debug.plan loaded reaches receipted]

theorem simulation_error (short : ∀ fleet,
      FleetRepository.load fleetPath (host.tree fleetPath) host.fleetYaml = .ok fleet →
      ¬ ReachesRestart fleet) :
    ∃ halt, Server.simulation debug host fleetPath = .error halt := by
  have failed : ∃ error, runServiceUnhealthySimulation debug.journey debug.plan fleetPath
      (host.tree fleetPath) host.fleetYaml = .error (.failed error) := by
    cases loaded : FleetRepository.load fleetPath (host.tree fleetPath) host.fleetYaml with
    | error error =>
        have refused : E2e.loadFleet fleetPath (host.tree fleetPath) host.fleetYaml =
            .error (.fleet error.display) := by
          rw [E2e.loadFleet, loaded]
          rfl
        rw [runServiceUnhealthySimulation, refused]
        exact ⟨_, rfl⟩
    | ok fleet => exact runServiceUnhealthySimulation_failed debug.plan loaded (short fleet loaded)
  obtain ⟨error, failed⟩ := failed
  exact ⟨.failed error.display, by rw [Server.simulation, failed]⟩

variable [DecidableEq κ] (console : Server.Console κ)

theorem run_onFile {α : Type} (key : κ) (method : EStateM DurableStateError LedgerFile α) :
    (Server.onFile debug key method).run console =
      match method.run (console.files key) with
      | .ok a file => .ok a ⟨console.lines, Function.update console.files key file⟩
      | .error error file => .error (.failed (Operator.displayDurable debug error))
          ⟨console.lines, Function.update console.files key file⟩ := by
  unfold Server.onFile
  rfl

variable (io place stateDir) in
/-- Where every call works a demo write is an append to the file, created where there is
none. -/
theorem run_stateDemoWrite (works : ∀ file call, io.fails file call = none)
    {simulation : ServiceUnhealthySimulation}
    (simulated : Server.simulation debug host fleetPath = .ok simulation) :
    (Server.stateDemoWrite debug host io place stateDir fleetPath).run console =
      match (appendLedger io (.open stateDir) simulation.ledger).run
        (some ((console.files (place stateDir)).getD "")) with
      | .ok () file => .ok ()
          ⟨console.lines ++ [Server.writtenLine simulation (.open stateDir)],
            Function.update console.files (place stateDir) file⟩
      | .error error file => .error (.failed (Operator.displayDurable debug error))
          ⟨console.lines, Function.update console.files (place stateDir) file⟩ := by
  have made : (LocalServerState.init io stateDir).run (console.files (place stateDir)) =
      .ok (.open stateDir) (some ((console.files (place stateDir)).getD "")) :=
    run_init_works works
  rw [Server.stateDemoWrite, simulated]
  simp only [EStateM.run_bind, run_ofExcept_ok, run_onFile, made, Function.update_self,
    Function.update_idem]
  cases (appendLedger io (.open stateDir) simulation.ledger).run
      (some ((console.files (place stateDir)).getD "")) with
  | ok done file => rfl
  | error error file => rfl

variable (faithful : io.Faithful Writable)
include faithful

/-- A demo write into an empty directory. -/
theorem stateDemoWrite_recorded
    (loaded : FleetRepository.load fleetPath (host.tree fleetPath) host.fleetYaml = .ok fleet)
    (reaches : ReachesRestart fleet)
    (writable : ∀ event ∈ (Script.service.ledger fleet).events, Writable event)
    (empty : Contains io Writable (console.files (place stateDir)) none) :
    ∃ line file, (Server.stateDemoWrite debug host io place stateDir fleetPath).run console =
        .ok () ⟨console.lines ++ [line], Function.update console.files (place stateDir) file⟩ ∧
      Contains io Writable file (some (Script.service.ledger fleet)) := by
  obtain ⟨receipt, simulated⟩ := simulation_ok debug loaded reaches
  obtain ⟨stored⟩ := empty
  obtain ⟨file, appended, holds⟩ := stored.appendLedger faithful (.open stateDir)
    (service_built fleet) writable rfl
  have ran := run_stateDemoWrite debug io place stateDir console faithful.works simulated
  rw [appended] at ran
  exact ⟨_, file, ran, .of_stores holds (service_some fleet)⟩

variable (host fleetPath) in
/-- A demo write that does not come to a write, or finds a ledger, fails. -/
theorem stateDemoWrite_refused {cell : Option AuditLedger}
    (contains : Contains io Writable (console.files (place stateDir)) cell)
    (refused : cell = none → ∀ fleet,
      FleetRepository.load fleetPath (host.tree fleetPath) host.fleetYaml = .ok fleet →
      ¬ ReachesRestart fleet) :
    ∃ halt after, (Server.stateDemoWrite debug host io place stateDir fleetPath).run console =
        .error halt after ∧
      ∀ key, (after.files key).getD "" = (console.files key).getD "" := by
  by_cases short : ∀ fleet, FleetRepository.load fleetPath (host.tree fleetPath) host.fleetYaml =
      .ok fleet → ¬ ReachesRestart fleet
  · obtain ⟨halt, failed⟩ := simulation_error debug short
    refine ⟨halt, console, ?_, fun _ => rfl⟩
    rw [Server.stateDemoWrite, failed]
    rfl
  · simp only [not_forall, not_not] at short
    obtain ⟨fleet, loaded, reaches⟩ := short
    obtain ⟨receipt, simulated⟩ := simulation_ok debug loaded reaches
    cases contains with
    | nothing => exact absurd reaches (refused rfl fleet loaded)
    | @ledger ledger written stored =>
        obtain ⟨error, stopped⟩ := stored.appendLedger_refused faithful (.open stateDir)
          (service_built fleet) (service_some fleet) written
        have ran := run_stateDemoWrite debug io place stateDir console faithful.works simulated
        rw [stopped] at ran
        refine ⟨_, _, ran, ?_⟩
        intro key
        by_cases same : key = place stateDir
        · subst same
          simp
        · simp [Function.update_of_ne same]

end DemoWrite

section Others

/-- The ledger files are as they were. -/
def SameFiles (console after : Server.Console κ) : Prop := after.files = console.files

instance : Std.Refl (SameFiles (κ := κ)) := ⟨fun _ => rfl⟩

instance : IsTrans (Server.Console κ) SameFiles := ⟨fun _ _ _ first next => next.trans first⟩

open Frame

theorem keeps_println (line : String) : Keeps SameFiles (Server.println line : Server.Cli κ Unit) :=
  fun _ => rfl

theorem keeps_print {α : Type} (value : Except Operator.Halt α) (line : α → String) :
    Keeps SameFiles (ofExcept value >>= fun a => Server.println (line a) : Server.Cli κ Unit) :=
  (keeps_ofExcept value).bind fun a => keeps_println (line a)

theorem keeps_stateReceipt (stateDir runId : String) :
    Keeps SameFiles (Server.stateReceipt debug io place stateDir runId) :=
  keeps_get_bind fun console => keeps_print _ _ console

theorem keeps_serveHttpDemo (host : Server.Host) (addr : String) :
    Keeps SameFiles (Server.serveHttpDemo debug host addr : Server.Cli κ Unit) := by
  refine (keeps_ofExcept _).bind fun plane => ?_
  unfold Server.served
  split
  · exact keeps_throw _
  · exact (keeps_println _).bind fun _ => keeps_ofExcept _

variable [DecidableEq κ] (debug io place)

theorem keeps_run {host : Server.Host} {args : List String}
    (other : ¬ Writes (.server host args)) :
    Keeps SameFiles (Server.run debug host io place args) := by
  unfold Server.run
  split
  · exact keeps_println _
  · exact keeps_print _ _
  · exact absurd trivial other
  · exact keeps_stateReceipt _ _
  · exact keeps_serveHttpDemo host _
  · exact keeps_throw _

end Others

section Receipts

variable (faithful : io.Faithful Writable)
include faithful

/-- A receipt is rendered from what the cell holds. -/
theorem renderReceipt_eq_ok {cell : Option AuditLedger}
    (contains : Contains io Writable file cell)
    {state : LocalServerState} {runId : String} {receipt : OperatorReceipt} :
    renderReceipt io state runId file = .ok receipt ↔
      ∃ ledger, cell = some ledger ∧ generateOperatorReceipt runId ledger = .ok receipt := by
  cases contains with
  | nothing stored =>
      refine iff_of_false ?_ fun held => nomatch held.choose_spec.1
      intro rendered
      obtain ⟨ledger, loaded, generated⟩ := Fallible.bind_eq_ok.mp rendered
      cases file with
      | none =>
          rw [loadLedger_none] at loaded
          cases loaded
      | some content =>
          cases loaded.symm.trans (stored.loads faithful state)
          have complete := (generateOperatorReceipt_isOk ..).mp
            ⟨receipt, Fallible.mapError_eq_ok.mp generated⟩
          obtain ⟨⟨_, _, _, opened⟩, -⟩ := complete
          cases opened
  | @ledger ledger written stored =>
      have loaded := (Contains.ledger written stored).loads faithful state
      rw [renderReceipt, loaded]
      change (generateOperatorReceipt runId ledger).mapError _ = _ ↔ _
      rw [Fallible.mapError_eq_ok]
      simp

end Receipts

section Commands

variable [DecidableEq κ]

/-- Every file holds what its cell holds. -/
def Stored (io : StateIo) (Writable : AuditEvent → Prop) (files : κ → LedgerFile)
    (cells : Cells κ AuditLedger) : Prop :=
  ∀ key, Contains io Writable (files key) (cells key)

variable {files : κ → LedgerFile} {cells : Cells κ AuditLedger}

omit [DecidableEq κ] in
theorem Stored.congr {files' : κ → LedgerFile} (stored : Stored io Writable files cells)
    (same : ∀ key, (files' key).getD "" = (files key).getD "") :
    Stored io Writable files' cells :=
  fun key => (stored key).congr (same key)

theorem Stored.put {key : κ} {ledger : AuditLedger} (stored : Stored io Writable files cells)
    (empty : cells key = none) {file : LedgerFile}
    (contains : Contains io Writable file (some ledger)) :
    Stored io Writable (Function.update files key file) (put cells (key, ledger)) := by
  rw [put_empty empty]
  intro other
  by_cases same : other = key
  · subst same
    rw [Function.update_self, Function.update_self]
    exact contains
  · rw [Function.update_of_ne same, Function.update_of_ne same]
    exact stored other

theorem getD_update {key : κ} {file : LedgerFile} (same : file.getD "" = (files key).getD "")
    (other : κ) : (Function.update files key file other).getD "" = (files other).getD "" := by
  by_cases here : other = key
  · subst here
    rwa [Function.update_self]
  · rw [Function.update_of_ne here]

variable (debug texts io place)

theorem run_perform_agent (c : RehearsalCall) :
    (perform debug texts io place (.agent c)).run files =
      match (rehearse texts io c).run ⟨[], files (place c.options.stateDir)⟩ with
      | .ok report state => .ok (printed report)
          (Function.update files (place c.options.stateDir) state.file)
      | .error halt state => .error (.inr halt)
          (Function.update files (place c.options.stateDir) state.file) := rfl

theorem run_perform_server (host : Server.Host) (args : List String) :
    (perform debug texts io place (.server host args)).run files =
      match (Server.run debug host io place args).run ⟨[], files⟩ with
      | .ok () console => .ok console.lines console.files
      | .error halt console => .error (.inl halt) console.files := rfl

theorem run_perform_operator (host : Operator.Host) (args : List String) :
    (perform debug texts io place (.operator host args)).run files =
      match (Operator.run debug (onDirectories io place host files) args).run [] with
      | .ok () lines => .ok lines files
      | .error halt _ => .error (.inl halt) files := rfl

theorem call_server_ok {host : Server.Host} {args : List String} {console : Server.Console κ}
    (ran : (Server.run debug host io place args).run ⟨[], files⟩ = .ok () console) :
    call (perform debug texts io place) files (.server host args) =
      ⟨files, .server host args, .ok console.lines, console.files⟩ := by
  refine call_of_ok ?_
  rw [run_perform_server, ran]

theorem call_server_error {host : Server.Host} {args : List String} {halt : Operator.Halt}
    {console : Server.Console κ}
    (ran : (Server.run debug host io place args).run ⟨[], files⟩ = .error halt console) :
    call (perform debug texts io place) files (.server host args) =
      ⟨files, .server host args, .error (.inl halt), console.files⟩ := by
  refine call_of_error ?_
  rw [run_perform_server, ran]

theorem call_agent (c : RehearsalCall) :
    let made := call (rehearse texts io) ⟨[], files (place c.options.stateDir)⟩ c
    call (perform debug texts io place) files (.agent c) =
      ⟨files, .agent c, (printed <$> made.outcome).mapError Sum.inr,
        Function.update files (place c.options.stateDir) made.after.file⟩ := by
  intro made
  cases ran : (rehearse texts io c).run ⟨[], files (place c.options.stateDir)⟩ with
  | ok report state =>
      have same : made = _ := call_of_ok ran
      rw [same]
      refine call_of_ok ?_
      rw [run_perform_agent, ran]
  | error halt state =>
      have same : made = _ := call_of_error ran
      rw [same]
      refine call_of_error ?_
      rw [run_perform_agent, ran]

omit [DecidableEq κ] in
theorem run_stateReceipt (stateDir runId : String) (console : Server.Console κ) :
    (Server.stateReceipt debug io place stateDir runId).run console =
      match renderReceipt io (.open stateDir) runId (console.files (place stateDir)) with
      | .ok receipt => .ok () ⟨console.lines ++ [receipt.renderText], console.files⟩
      | .error error => .error (.failed (Operator.displayDurable debug error)) console := by
  rw [Server.stateReceipt, EStateM.run_bind, EStateM.run_get]
  dsimp only
  cases renderReceipt io (.open stateDir) runId (console.files (place stateDir)) with
  | ok receipt => rfl
  | error error => rfl

theorem run_showReceipt (host : Operator.Host) {id path : String} (service : id ≠ serviceRunId)
    (disk : id ≠ diskRunId) (lines : List String) :
    (Operator.showReceipt debug host id path).run lines =
      match renderReceipt host.io (.open path) id (host.ledgerFile path) with
      | .ok receipt => .ok () (lines ++ [receipt.renderText])
      | .error error => .error (.failed (s!"unknown receipt or unreadable state for {id}: " ++
          Operator.displayDurable debug error)) lines := by
  rw [Operator.showReceipt, if_neg service, if_neg disk, EStateM.run_bind, Operator.storedReceipt]
  cases renderReceipt host.io (.open path) id (host.ledgerFile path) with
  | ok receipt => rfl
  | error error => rfl

variable (files) in
/-- Both programs that show a receipt render it from the file of the directory. -/
theorem run_shows {command : Command} {key : κ} {runId : String}
    (asks : Shows place command key runId) :
    ∃ state, ∃ halt : DurableStateError → Operator.Halt ⊕ Agent.Halt,
      (perform debug texts io place command).run files =
        match renderReceipt io state runId (files key) with
        | .ok receipt => .ok [receipt.renderText] files
        | .error error => .error (halt error) files := by
  unfold Shows at asks
  split at asks
  next host stateDir id =>
      obtain ⟨rfl, rfl⟩ := asks
      refine ⟨.open stateDir, fun error => .inl (.failed (Operator.displayDurable debug error)), ?_⟩
      have ran : (Server.run debug host io place ["state", "receipt", stateDir, runId]).run
          ⟨[], files⟩ = _ := run_stateReceipt debug io place stateDir runId ⟨[], files⟩
      rw [run_perform_server, ran]
      dsimp only
      cases renderReceipt io (.open stateDir) runId (files (place stateDir)) with
      | ok receipt => rfl
      | error error => rfl
  next host id path =>
      obtain ⟨⟨service, disk⟩, rfl, rfl⟩ := asks
      refine ⟨.open path, fun error => .inl (.failed
        (s!"unknown receipt or unreadable state for {runId}: " ++
          Operator.displayDurable debug error)), ?_⟩
      have ran : (Operator.run debug (onDirectories io place host files)
          ["receipt", "show", runId, path]).run [] = _ := run_showReceipt debug _ service disk []
      rw [run_perform_operator, ran]
      dsimp only [onDirectories]
      cases renderReceipt io (.open path) runId (files (place path)) with
      | ok receipt => rfl
      | error error => rfl
  next => exact asks.elim

theorem call_reads {command : Command} (other : ¬ Writes command) :
    (call (perform debug texts io place) files command).after = files := by
  cases command with
  | server host args =>
      have kept := keeps_run debug io place other ⟨[], files⟩
      cases ran : (Server.run debug host io place args).run ⟨[], files⟩ with
      | ok done console =>
          rw [Frame.left_of_ok ran] at kept
          rw [call_server_ok debug texts io place ran]
          exact kept
      | error halt console =>
          rw [Frame.left_of_error ran] at kept
          rw [call_server_error debug texts io place ran]
          exact kept
  | agent c => exact absurd trivial other
  | operator host args =>
      have called : (perform debug texts io place (.operator host args)).run files = _ :=
        run_perform_operator debug texts io place host args
      cases ran : (Operator.run debug (onDirectories io place host files) args).run [] with
      | ok done lines =>
          rw [ran] at called
          rw [call_of_ok called]
      | error halt lines =>
          rw [ran] at called
          rw [call_of_error called]

variable (faithful : io.Faithful Writable) (stored : Stored io Writable files cells)
include faithful stored

/-- A command that comes to a write at an empty cell fills it. -/
theorem call_records {command : Command} {key : κ} {ledger : AuditLedger}
    (records : Records place command key ledger) (empty : cells key = none)
    (writable : ∀ event ∈ ledger.events, Writable event) :
    let made := call (perform debug texts io place) files command
    ∃ lines, made.outcome = .ok lines ∧
      Stored io Writable made.after (put cells (key, ledger)) ∧
      ∀ c, command = .agent c → ∃ receipt, generateOperatorReceipt dogfoodRunId ledger =
        .ok receipt ∧ receipt.renderText ∈ lines := by
  intro made
  have contains := stored key
  rw [empty] at contains
  unfold Records at records
  split at records
  next host stateDir fleetPath =>
      obtain ⟨rfl, fleet, loaded, reaches, rfl⟩ := records
      obtain ⟨line, file, wrote, holds⟩ := stateDemoWrite_recorded debug ⟨[], files⟩
        faithful loaded reaches writable contains
      have called : made = _ := call_server_ok debug texts io place wrote
      rw [called]
      exact ⟨_, rfl, stored.put empty holds, nofun⟩
  next c =>
      obtain ⟨rfl, rehearses, rfl⟩ := records
      obtain ⟨blank⟩ := contains
      obtain ⟨report, receipt, reported, generated, text, holds⟩ := @Agent.call_rehearsed
        texts io Writable faithful ⟨[], files (place c.options.stateDir)⟩ _ c blank writable
        rehearses rfl
      have called : made = _ := call_agent debug texts io place c
      rw [called, reported]
      refine ⟨printed report, rfl, stored.put empty (.of_stores holds c.options.ledger_some), ?_⟩
      intro other same
      cases same
      refine ⟨receipt, generated, ?_⟩
      rw [← text]
      exact List.mem_cons_of_mem _ List.mem_cons_self
  next => exact records.elim

/-- A command about writing that does not come to a write, or not at an empty cell, fails. -/
theorem call_refused {command : Command} (writes : Writes command)
    (refused : ∀ key ledger, Records place command key ledger → cells key ≠ none) :
    let made := call (perform debug texts io place) files command
    (∃ halt, made.outcome = .error halt) ∧ Stored io Writable made.after cells := by
  intro made
  unfold Writes at writes
  split at writes
  next host stateDir fleetPath =>
      obtain ⟨halt, after, stopped, same⟩ := stateDemoWrite_refused debug host
        fleetPath ⟨[], files⟩ faithful (stored (place stateDir)) fun empty fleet loaded reaches =>
          refused _ _ ⟨rfl, fleet, loaded, reaches, rfl⟩ empty
      have called : made = _ := call_server_error debug texts io place stopped
      rw [called]
      exact ⟨⟨_, rfl⟩, stored.congr same⟩
  next c =>
      have cell : ∃ ledger, Stores io Writable
          (some ((files (place c.options.stateDir)).getD "")) ledger ∧
          ¬ (c.Rehearses ∧ ledger.events = []) := by
        cases contains : cells (place c.options.stateDir) with
        | none =>
            have held := stored (place c.options.stateDir)
            rw [contains] at held
            obtain ⟨blank⟩ := held
            exact ⟨_, blank, fun both => refused _ _ ⟨rfl, both.1, rfl⟩ contains⟩
        | some ledger =>
            have held := stored (place c.options.stateDir)
            rw [contains] at held
            cases held with
            | ledger written blank => exact ⟨ledger, blank, fun both => written both.2⟩
      obtain ⟨ledger, blank, stopped⟩ := cell
      obtain ⟨⟨error, failed⟩, same⟩ := @Agent.call_stopped texts io Writable faithful
        ⟨[], files (place c.options.stateDir)⟩ _ c blank stopped
      have called : made = _ := call_agent debug texts io place c
      rw [called, failed]
      exact ⟨⟨.inr error, rfl⟩, stored.congr (getD_update same)⟩
  next => exact writes.elim

/-- A command about writing succeeds exactly as it comes to a write at an empty cell. -/
theorem call_succeeds_iff {command : Command} (writes : Writes command)
    (writable : ∀ key ledger, Records place command key ledger →
      ∀ event ∈ ledger.events, Writable event) :
    (∃ lines, (call (perform debug texts io place) files command).outcome = .ok lines) ↔
      ∃ key ledger, Records place command key ledger ∧ cells key = none := by
  constructor
  · intro succeeded
    obtain ⟨lines, succeeded⟩ := succeeded
    by_contra occupied
    obtain ⟨⟨halt, failed⟩, -⟩ := call_refused debug texts io place faithful stored writes
      fun key ledger records empty => occupied ⟨key, ledger, records, empty⟩
    cases succeeded.symm.trans failed
  · intro free
    obtain ⟨key, ledger, records, empty⟩ := free
    obtain ⟨lines, succeeded, -⟩ := call_records debug texts io place faithful stored records
      empty (writable key ledger records)
    exact ⟨lines, succeeded⟩

/-- A rehearsal that succeeds prints the receipt of the ledger it wrote. -/
theorem call_printed {c : RehearsalCall} (writable : ∀ key ledger,
      Records place (.agent c) key ledger → ∀ event ∈ ledger.events, Writable event)
    {lines : List String}
    (succeeded : (call (perform debug texts io place) files (.agent c)).outcome = .ok lines) :
    ∃ receipt, generateOperatorReceipt dogfoodRunId c.options.ledger = .ok receipt ∧
      receipt.renderText ∈ lines := by
  have writes : Writes (.agent c) := trivial
  obtain ⟨key, ledger, records, empty⟩ := (call_succeeds_iff debug texts io place faithful
    stored writes writable).mp ⟨lines, succeeded⟩
  obtain ⟨lines', printed, -, receipts⟩ := call_records debug texts io place faithful stored
    records empty (writable key ledger records)
  obtain ⟨receipt, generated, shown⟩ := receipts c rfl
  obtain ⟨-, -, rfl⟩ := records
  cases succeeded.symm.trans printed
  exact ⟨receipt, generated, shown⟩

theorem call_shows {command : Command} {key : κ} {runId : String}
    (asks : Shows place command key runId) {lines : List String} :
    (call (perform debug texts io place) files command).outcome = .ok lines ↔
      ∃ ledger receipt, cells key = some ledger ∧
        generateOperatorReceipt runId ledger = .ok receipt ∧ lines = [receipt.renderText] := by
  obtain ⟨state, halt, ran⟩ := run_shows debug texts io place files asks
  have reads {receipt : OperatorReceipt} : renderReceipt io state runId (files key) =
      .ok receipt ↔ ∃ ledger, cells key = some ledger ∧
        generateOperatorReceipt runId ledger = .ok receipt :=
    renderReceipt_eq_ok faithful (stored key)
  cases read : renderReceipt io state runId (files key) with
  | ok receipt =>
      obtain ⟨ledger, held, generated⟩ := reads.mp read
      rw [read] at ran
      rw [call_of_ok ran, Except.ok.injEq]
      constructor
      · rintro rfl
        exact ⟨ledger, receipt, held, generated, rfl⟩
      · rintro ⟨ledger', receipt', held', generated', rfl⟩
        cases held.symm.trans held'
        cases generated.symm.trans generated'
        rfl
  | error error =>
      rw [read] at ran
      rw [call_of_error ran]
      refine iff_of_false nofun ?_
      rintro ⟨ledger, receipt, held, generated, -⟩
      cases read.symm.trans (reads.mpr ⟨ledger, held, generated⟩)

end Commands

/-- What a directory holds after the commands: what it held, or the first ledger that a
command comes to writing there. -/
inductive Holding (place : String → κ) (start : Cells κ AuditLedger) (done : List Command)
    (key : κ) : AuditLedger → Prop where
  | kept {ledger : AuditLedger} (held : start key = some ledger) :
      Holding place start done key ledger
  | recorded {before after : List Command} {command : Command} {ledger : AuditLedger}
      (split : done = before ++ command :: after) (empty : start key = none)
      (records : Records place command key ledger)
      (first : ∀ earlier ∈ before, ∀ other, ¬ Records place earlier key other) :
      Holding place start done key ledger

section Runs

variable [DecidableEq κ] {start : Cells κ AuditLedger} {done : List Command} {key : κ}

theorem replay_eq_some {ledger : AuditLedger} :
    replay start (done.filterMap (entry place)) key = some ledger ↔
      Holding place start done key ledger := by
  rw [replay_apply, Option.or_eq_some_iff, lookup_filterMap_eq_some]
  constructor
  · intro held
    cases held with
    | inl held => exact .kept held
    | inr first =>
        obtain ⟨empty, before, command, after, split, made, none⟩ := first
        refine .recorded split empty ((entry_eq_some place).mp made) ?_
        intro earlier member other records
        exact none earlier member other ((entry_eq_some place).mpr records)
  · intro holding
    cases holding with
    | kept held => exact .inl held
    | recorded split empty records first =>
        refine .inr ⟨empty, _, _, _, split, (entry_eq_some place).mpr records, ?_⟩
        intro earlier member other made
        exact first earlier member other ((entry_eq_some place).mp made)

theorem replay_empty : replay start (done.filterMap (entry place)) key = none ↔
    start key = none ∧ ∀ earlier ∈ done, ∀ other, ¬ Records place earlier key other := by
  simp only [replay_eq_none, lookup_filterMap_eq_none, ne_eq, entry_eq_some]

variable (debug texts) (faithful : io.Faithful Writable) {files : κ → LedgerFile}
include faithful

theorem Stored.call {cells : Cells κ AuditLedger} {command : Command}
    (stored : Stored io Writable files cells)
    (writable : ∀ key ledger, Records place command key ledger →
      ∀ event ∈ ledger.events, Writable event) :
    Stored io Writable (Calls.call (perform debug texts io place) files command).after
      (replay cells (entry place command).toList) := by
  cases made : entry place command with
  | none =>
      have never := (entry_eq_none place).mp made
      by_cases writes : Writes command
      · exact (call_refused debug texts io place faithful stored writes
          fun key ledger records => absurd records (never key ledger)).2
      · rw [call_reads debug texts io place writes]
        exact stored
  | some written =>
      obtain ⟨key, ledger⟩ := written
      have records := (entry_eq_some place).mp made
      cases held : cells key with
      | none =>
          obtain ⟨lines, -, holds, -⟩ := call_records debug texts io place faithful stored
            records held (writable key ledger records)
          exact holds
      | some other =>
          have kept : replay cells (some (key, ledger)).toList = cells := put_full held
          rw [kept]
          refine (call_refused debug texts io place faithful stored ?_ ?_).2
          · exact records.writes
          · intro key' ledger' records'
            obtain ⟨rfl, -⟩ := records.unique place records'
            rw [held]
            exact Option.some_ne_none other

theorem Stored.exec (stored : Stored io Writable files start)
    (writable : ∀ command ∈ done, ∀ key ledger, Records place command key ledger →
      ∀ event ∈ ledger.events, Writable event) :
    Stored io Writable (Calls.exec (perform debug texts io place) files done)
      (replay start (done.filterMap (entry place))) := by
  refine exec_invariant_ops (I := fun past files => Stored io Writable files
    (replay start (past.filterMap (entry place)))) ?_ stored
  intro past files command listed held
  have next := held.call debug texts faithful (writable command listed)
  rw [List.filterMap_append, replay_append]
  cases made : entry place command with
  | none => simpa [made] using next
  | some written => simpa [made] using next

variable (done)

/-- However many command lines and rehearsals there are, in whatever order: a command about
writing succeeds exactly as the first that comes to a write in a directory without a
ledger; every directory holds, and every receipt is rendered from, the ledger that this
one wrote or that was there before; and what a rehearsal printed is the receipt of what
it wrote. -/
theorem state_directories_write_once (stored : Stored io Writable files start)
    (command : Command) (writable : ∀ other ∈ done ++ [command], ∀ key ledger,
      Records place other key ledger → ∀ event ∈ ledger.events, Writable event) :
    let reached := Calls.exec (perform debug texts io place) files done
    let made := Calls.call (perform debug texts io place) reached command
    (Writes command → ((∃ lines, made.outcome = .ok lines) ↔
      ∃ key ledger, Records place command key ledger ∧ start key = none ∧
        ∀ earlier ∈ done, ∀ other, ¬ Records place earlier key other)) ∧
    (∀ key ledger, Holding place start done key ledger →
      ∀ state, loadLedger io state (reached key) = .ok ledger) ∧
    (∀ key runId, Shows place command key runId → ∀ lines, made.outcome = .ok lines ↔
      ∃ ledger receipt, Holding place start done key ledger ∧
        generateOperatorReceipt runId ledger = .ok receipt ∧ lines = [receipt.renderText]) ∧
    ∀ c lines, command = .agent c → made.outcome = .ok lines → ∃ receipt,
      generateOperatorReceipt dogfoodRunId c.options.ledger = .ok receipt ∧
        receipt.renderText ∈ lines := by
  intro reached made
  obtain ⟨earlier, ours⟩ := List.forall_mem_append.mp writable
  have held := stored.exec debug texts faithful earlier
  have writable := ours command List.mem_cons_self
  refine ⟨?_, ?_, ?_, ?_⟩
  · intro writes
    rw [call_succeeds_iff debug texts io place faithful held writes writable]
    simp only [replay_empty]
  · intro key ledger holding state
    have contains := held key
    rw [replay_eq_some.mpr holding] at contains
    exact contains.loads faithful state
  · intro key runId asks lines
    rw [call_shows debug texts io place faithful held asks]
    simp only [replay_eq_some]
  · intro c lines same succeeded
    subst same
    exact call_printed debug texts io place faithful held writable succeeded

end Runs

open Agent (sshdIo sshdLedger sshdRehearsal silentTexts)

def silentDebug : Operator.DebugTexts :=
  ⟨fun _ => "", fun _ => "", fun _ => "", fun _ => "", fun _ => "", fun _ => "", noTexts⟩

def sampleHost : Operator.Host where
  tree := fun _ => webTree true
  fleetYaml := webYaml
  ledgerFile := fun _ => none
  io := sshdIo
  var := fun _ => .notPresent

def showSshd : Command :=
  .operator sampleHost ["receipt", "show", dogfoodRunId, "/var/lib/runlane"]

/-- The operator is shown what the rehearsal printed. -/
theorem state_directories_write_once_sshd :
    let perform := perform silentDebug silentTexts sshdIo id
    let rehearsed := call perform (fun _ => none) (.agent sshdRehearsal)
    let shown := call perform rehearsed.after showSshd
    ∃ lines, ∃ receipt : OperatorReceipt, rehearsed.outcome = .ok lines ∧
      receipt.renderText ∈ lines ∧ shown.outcome = .ok [receipt.renderText] := by
  intro perform rehearsed shown
  have stored : Stored sshdIo (· ∈ sshdLedger.events)
      (fun _ : String => none) fun _ => none :=
    fun _ => .nothing ⟨rfl, rfl, List.forall_mem_nil _⟩
  have records : Records id (.agent sshdRehearsal) "/var/lib/runlane"
      sshdRehearsal.options.ledger :=
    ⟨rfl, Agent.sshd_rehearses, rfl⟩
  have writable : ∀ key ledger, Records id (.agent sshdRehearsal) key ledger →
      ∀ event ∈ ledger.events, event ∈ sshdLedger.events := by
    rintro key ledger ⟨-, -, rfl⟩
    rw [sshdRehearsal, Agent.sshd_ledger]
    exact fun _ => id
  obtain ⟨succeeds, -, -, prints⟩ := state_directories_write_once silentDebug silentTexts
    [] Agent.sshdIo_faithful stored (.agent sshdRehearsal)
    (List.forall_mem_singleton.mpr writable)
  obtain ⟨lines, succeeded⟩ := (succeeds trivial).mpr ⟨_, _, records, rfl, List.forall_mem_nil _⟩
  obtain ⟨receipt, generated, listed⟩ := prints sshdRehearsal lines rfl succeeded
  obtain ⟨-, -, shows, -⟩ := state_directories_write_once silentDebug silentTexts
    [.agent sshdRehearsal] Agent.sshdIo_faithful stored showSshd (by
      rw [List.forall_mem_append, List.forall_mem_singleton, List.forall_mem_singleton]
      exact ⟨writable, fun _ _ => False.elim⟩)
  have asks : Shows id showSshd "/var/lib/runlane" dogfoodRunId := by
    refine ⟨?_, rfl, rfl⟩
    decide
  have holding : Holding id (fun _ => none) [.agent sshdRehearsal] "/var/lib/runlane"
      sshdRehearsal.options.ledger :=
    .recorded (List.nil_append _).symm rfl records (List.forall_mem_nil _)
  exact ⟨lines, receipt, succeeded, listed,
    (shows _ _ asks [receipt.renderText]).mpr ⟨_, receipt, holding, generated, rfl⟩⟩

end StateDirectories

end Runlane
