import Runlane.Durable.Refinement

/-!
Several processes on one ledger file.

An append first reads the file and checks the event against it, and then writes the
document of the event at the end. No lock is held in between. The two halves are the
steps here, and the steps of different processes may come in any order.
-/

namespace Runlane

open Calls Fallible

namespace LocalServerState

variable (io : StateIo) (state : LocalServerState)

/-- The first half of an append: it reads the ledger and compares the sequence. -/
def checkEvent (event : AuditEvent) (file : LedgerFile) : Except DurableStateError Unit := do
  let ledger ← loadLedger io state file
  let expected := ledger.nextSequence
  if event.sequence ≠ expected then
    throw (.append (.nonMonotonicSequence expected event.sequence))

/-- The second half of an append: it writes one document. -/
def writeDocument (event : AuditEvent) : EStateM DurableStateError LedgerFile Unit := do
  attempt io .openAppend (.io state.layout.auditLedger "open audit ledger for append")
  write io (.io state.layout.auditLedger "write audit document separator") "---\n"
  write io (.corruptWrite state.layout.auditLedger) (io.toWriter event).1
  match (io.toWriter event).2 with
  | .error message => throw (.corruptWrite state.layout.auditLedger message)
  | .ok () => write io (.io state.layout.auditLedger "finish audit document") "\n"

variable {io state} {event : AuditEvent} {file : LedgerFile} {ledger : AuditLedger}

theorem checkEvent_of_loaded (loaded : loadLedger io state file = .ok ledger) :
    checkEvent io state event file =
      if event.sequence ≠ ledger.nextSequence then
        .error (.append (.nonMonotonicSequence ledger.nextSequence event.sequence))
      else .ok () := by
  rw [checkEvent, loaded]
  rfl

/-- An append that nothing interrupts is its two halves. -/
theorem run_appendEvent_halves :
    (appendEvent io state event).run file = (do
      ofExcept (checkEvent io state event file)
      writeDocument io state event : EStateM DurableStateError LedgerFile Unit).run file := by
  simp only [appendEvent, EStateM.run_bind, EStateM.run_get]
  cases loaded : loadLedger io state file with
  | error error =>
      rw [checkEvent, loaded]
      rfl
  | ok ledger =>
      rw [checkEvent_of_loaded loaded]
      by_cases next : event.sequence = ledger.nextSequence
      · simp only [next, ne_eq, not_true_eq_false, if_false, run_ofExcept_ok]
        rfl
      · simp only [next, ne_eq, not_false_eq_true, if_true, run_ofExcept_ok, run_ofExcept_error]
        rfl

/-- An append whose check has passed: its event, and the file that was read for it. -/
structure Pending where
  event : AuditEvent
  read : LedgerFile

/-- The file, and for each process the append it is in the middle of. -/
structure Shared (π : Type) where
  file : LedgerFile
  pending : π → Option Pending

inductive Action (π : Type) where
  | check (process : π) (event : AuditEvent)
  | write (process : π)

inductive Progress where
  | idle
  | checked
  | appended (event : AuditEvent)

variable (io state) {π : Type} [DecidableEq π]

def Shared.setPending (shared : Shared π) (process : π) (pending : Option Pending) : Shared π :=
  { shared with pending := fun other => if other = process then pending else shared.pending other }

/-- A process in the middle of an append starts no other, and one that is in none has
nothing to write. -/
def act : Action π → EStateM DurableStateError (Shared π) Progress
  | .check process event => do
      let shared ← get
      match shared.pending process with
      | some _ => return .idle
      | none => do
          ofExcept (checkEvent io state event shared.file)
          set (shared.setPending process (some ⟨event, shared.file⟩))
          return .checked
  | .write process => do
      let shared ← get
      match shared.pending process with
      | none => return .idle
      | some pending =>
          match (writeDocument io state pending.event).run shared.file with
          | .ok () file => do
              set (Shared.setPending { shared with file := file } process none)
              return .appended pending.event
          | .error error file => do
              set (Shared.setPending { shared with file := file } process none)
              throw error

/-- What one step can do. -/
inductive Step (shared : Shared π) :
    Action π → Except DurableStateError Progress → Shared π → Prop where
  | busy {process : π} {event : AuditEvent} {pending : Pending}
      (held : shared.pending process = some pending) :
      Step shared (.check process event) (.ok .idle) shared
  | checked {process : π} {event : AuditEvent}
      (passed : checkEvent io state event shared.file = .ok ()) :
      Step shared (.check process event) (.ok .checked)
        (shared.setPending process (some ⟨event, shared.file⟩))
  | refused {process : π} {event : AuditEvent} {error : DurableStateError}
      (failed : checkEvent io state event shared.file = .error error) :
      Step shared (.check process event) (.error error) shared
  | nothing {process : π} (held : shared.pending process = none) :
      Step shared (.write process) (.ok .idle) shared
  | appended {process : π} {pending : Pending} {file : LedgerFile}
      (held : shared.pending process = some pending)
      (wrote : (writeDocument io state pending.event).run shared.file = .ok () file) :
      Step shared (.write process) (.ok (.appended pending.event))
        (Shared.setPending { shared with file := file } process none)
  | failed {process : π} {pending : Pending} {error : DurableStateError} {file : LedgerFile}
      (held : shared.pending process = some pending)
      (wrote : (writeDocument io state pending.event).run shared.file = .error error file) :
      Step shared (.write process) (.error error)
        (Shared.setPending { shared with file := file } process none)

theorem act_check_step (shared : Shared π) (process : π) (event : AuditEvent) :
    Step io state shared (.check process event)
      (call (act io state) shared (.check process event)).outcome
      (call (act io state) shared (.check process event)).after := by
  cases held : shared.pending process with
  | some pending =>
      have run : (act io state (.check process event)).run shared = .ok .idle shared := by
        simp only [act, EStateM.run_bind, EStateM.run_get, held, EStateM.run_pure]
      rw [call_of_ok run]
      exact .busy held
  | none =>
      cases passed : checkEvent io state event shared.file with
      | error error =>
          have run : (act io state (.check process event)).run shared =
              .error error shared := by
            simp only [act, EStateM.run_bind, EStateM.run_get, held, passed,
              run_ofExcept_error]
          rw [call_of_error run]
          exact .refused passed
      | ok done =>
          have run : (act io state (.check process event)).run shared =
              .ok .checked (shared.setPending process (some ⟨event, shared.file⟩)) := by
            simp only [act, EStateM.run_bind, EStateM.run_get, held, passed, run_ofExcept_ok,
              EStateM.run_set, EStateM.run_pure]
          rw [call_of_ok run]
          exact .checked passed

theorem act_write_step (shared : Shared π) (process : π) :
    Step io state shared (.write process)
      (call (act io state) shared (.write process)).outcome
      (call (act io state) shared (.write process)).after := by
  cases held : shared.pending process with
  | none =>
      have run : (act io state (.write process)).run shared = .ok .idle shared := by
        simp only [act, EStateM.run_bind, EStateM.run_get, held, EStateM.run_pure]
      rw [call_of_ok run]
      exact .nothing held
  | some pending =>
      cases wrote : (writeDocument io state pending.event).run shared.file with
      | ok done file =>
          have run : (act io state (.write process)).run shared =
              .ok (.appended pending.event)
                (Shared.setPending { shared with file := file } process none) := by
            simp only [act, EStateM.run_bind, EStateM.run_get, held, wrote, EStateM.run_set,
              EStateM.run_pure]
          rw [call_of_ok run]
          exact .appended held wrote
      | error error file =>
          have run : (act io state (.write process)).run shared =
              .error error (Shared.setPending { shared with file := file } process none) := by
            simp only [act, EStateM.run_bind, EStateM.run_get, held, wrote, EStateM.run_set]
            rfl
          rw [call_of_error run]
          exact .failed held wrote

theorem act_step (shared : Shared π) (action : Action π) :
    Step io state shared action (call (act io state) shared action).outcome
      (call (act io state) shared action).after := by
  cases action with
  | check process event => exact act_check_step io state shared process event
  | write process => exact act_write_step io state shared process

/-- The event that the call has been told is stored, if any. -/
def stored (c : Call DurableStateError (Shared π) Progress (Action π)) : List AuditEvent :=
  match c.outcome with
  | .ok (.appended event) => [event]
  | _ => []

/-- A write finds the file as its check has read it. -/
def Undisturbed (c : Call DurableStateError (Shared π) Progress (Action π)) : Prop :=
  ∀ process pending, c.op = .write process → c.before.pending process = some pending →
    c.before.file = pending.read

omit [DecidableEq π] in
theorem undisturbed_check {shared after : Shared π} {process : π} {event : AuditEvent}
    {outcome : Except DurableStateError Progress} :
    Undisturbed ⟨shared, .check process event, outcome, after⟩ := by
  intro other pending same
  cases same

/-- No process is in the middle of an append. -/
def Shared.start (π : Type) (file : LedgerFile) : Shared π :=
  ⟨file, fun _ => none⟩

section Write

variable {io state} {Writable : AuditEvent → Prop} {event : AuditEvent} {file : LedgerFile}
  {events : List AuditEvent}

theorem run_writeDocument (works : ∀ file call, io.fails file call = none)
    (written : (io.toWriter event).2 = .ok ()) :
    (writeDocument io state event).run file =
      .ok () (file.map (· ++ ("---\n" ++ io.document event))) := by
  simp only [writeDocument, EStateM.run_bind, run_attempt_works works, run_write_works works,
    written, Option.map_map]
  congr 2
  funext content
  simp only [Function.comp_apply, String.append_assoc, SerdeYaml.document]

/-- The library also cuts a stream whose events are not numbered as in a ledger. -/
def SplitsStreams (io : StateIo) (Writable : AuditEvent → Prop) : Prop :=
  ∀ events : List AuditEvent, (∀ event ∈ events, Writable event) →
    io.documents (io.stream events) = events.map io.document

theorem Stores.written_eq (stores : Stores io Writable file ⟨events⟩) :
    file.map (· ++ ("---\n" ++ io.document event)) =
      some (io.stream (events ++ [event])) := by
  rw [stores.content, io.stream_concat]
  rfl

theorem Stores.write_next (stores : Stores io Writable file ⟨events⟩)
    (writable : Writable event) (next : event.sequence = events.length + 1) :
    Stores io Writable (file.map (· ++ ("---\n" ++ io.document event)))
      ⟨events ++ [event]⟩ where
  content := stores.written_eq
  built := stores.built.append (AuditLedger.append_eq_ok.mpr ⟨next, rfl⟩)
  writable := by
    intro stored member
    cases List.mem_append.mp member with
    | inl earlier => exact stores.writable stored earlier
    | inr last => exact List.mem_singleton.mp last ▸ writable

/-- Under another number than the next the document makes the file unreadable. -/
theorem Stores.write_other (faithful : io.Faithful Writable)
    (splits : SplitsStreams io Writable) (stores : Stores io Writable file ⟨events⟩)
    (writable : Writable event) (other : event.sequence ≠ events.length + 1) :
    loadLedger io state (file.map (· ++ ("---\n" ++ io.document event))) =
      .error (.append (.nonMonotonicSequence (events.length + 1) event.sequence)) := by
  have all : ∀ stored ∈ events ++ [event], Writable stored := by
    intro stored member
    cases List.mem_append.mp member with
    | inl earlier => exact stores.writable stored earlier
    | inr last => exact List.mem_singleton.mp last ▸ writable
  have blank : Text.isBlank (io.stream (events ++ [event])) = false := by
    cases events with
    | nil => exact io.stream_cons_not_blank event []
    | cons first rest => exact io.stream_cons_not_blank first (rest ++ [event])
  have before : (events.map io.document).foldlM (loadDocument io state) .empty =
      .ok ⟨events⟩ := load_documents faithful state stores.writable stores.built
  have refused : loadDocument io state ⟨events⟩ (io.document event) =
      .error (.append (.nonMonotonicSequence (events.length + 1) event.sequence)) := by
    rw [loadDocument, faithful.reads event writable]
    exact congrArg (Except.mapError DurableStateError.append)
      (AuditLedger.append_eq_error.mpr ⟨other, rfl⟩)
  rw [stores.written_eq, loadLedger_works faithful.works, blank, if_neg Bool.false_ne_true,
    splits _ all, List.map_append, List.foldlM_append, before]
  refine bind_eq_error.mpr (.inr ⟨⟨events⟩, rfl, ?_⟩)
  rw [List.map_singleton, List.foldlM_cons, refused]
  rfl

end Write

/-- Every file of the run loads, and holds the events reported stored by then. -/
def AppendsKept (file : LedgerFile) (actions : List (Action π)) : Prop :=
  ∀ done, done <+: actions → ∃ ledger,
    loadLedger io state (exec (act io state) (Shared.start π file) done).file = .ok ledger ∧
      ∀ event ∈ (history (act io state) (Shared.start π file) done).flatMap stored,
        event ∈ ledger.events

section Runs

variable {io state} {Writable : AuditEvent → Prop}

/-- An event that was checked against a first part of what is stored now. -/
structure Checked (io : StateIo) (Writable : AuditEvent → Prop) (events : List AuditEvent)
    (pending : Pending) : Prop where
  writable : Writable pending.event
  read : ∃ earlier, earlier <+: events ∧ Stores io Writable pending.read ⟨earlier⟩ ∧
    pending.event.sequence = earlier.length + 1

theorem Checked.extend {events : List AuditEvent} {pending : Pending}
    (checked : Checked io Writable events pending) (more : List AuditEvent) :
    Checked io Writable (events ++ more) pending where
  writable := checked.writable
  read := by
    obtain ⟨earlier, before, stores, next⟩ := checked.read
    exact ⟨earlier, before.trans (List.prefix_append events more), stores, next⟩

/-- The events are stored, and every process in the middle of an append has checked it. -/
structure Held (io : StateIo) (Writable : AuditEvent → Prop) (shared : Shared π)
    (events : List AuditEvent) : Prop where
  stores : Stores io Writable shared.file ⟨events⟩
  checked : ∀ process pending, shared.pending process = some pending →
    Checked io Writable events pending

omit [DecidableEq π] in
theorem Held.start {file : LedgerFile} {ledger : AuditLedger}
    (stores : Stores io Writable file ledger) :
    Held io Writable (Shared.start π file) ledger.events where
  stores := stores
  checked := by
    intro process pending here
    cases here

theorem Held.setPending {shared : Shared π} {events : List AuditEvent}
    (held : Held io Writable shared events) (process : π) {pending : Option Pending}
    (fresh : ∀ p ∈ pending, Checked io Writable events p) :
    Held io Writable (shared.setPending process pending) events where
  stores := held.stores
  checked := by
    intro other pending' here
    by_cases same : other = process
    · exact fresh pending' (by simpa [Shared.setPending, same] using here)
    · exact held.checked other pending' (by simpa [Shared.setPending, same] using here)

/-- As long as every write is undisturbed, what was there and what was reported stored
is held; and as long as the file loads, every write has been undisturbed. -/
structure Tracked (io : StateIo) (state : LocalServerState) (Writable : AuditEvent → Prop)
    (events : List AuditEvent) (past : List (Call DurableStateError (Shared π) Progress (Action π)))
    (shared : Shared π) : Prop where
  held : (∀ c ∈ past, Undisturbed c) →
    Held io Writable shared (events ++ past.flatMap stored)
  undisturbed : (∀ c ∈ past, ∃ ledger, loadLedger io state c.after.file = .ok ledger) →
    ∀ c ∈ past, Undisturbed c

variable (faithful : io.Faithful Writable)
include faithful

theorem Stores.checked {file : LedgerFile} {events : List AuditEvent} {event : AuditEvent}
    (stores : Stores io Writable file ⟨events⟩) (writable : Writable event)
    (passed : checkEvent io state event file = .ok ()) :
    Checked io Writable events ⟨event, file⟩ where
  writable := writable
  read := by
    refine ⟨events, List.prefix_rfl, stores, ?_⟩
    by_contra wrong
    have other : event.sequence ≠ (AuditLedger.mk events).nextSequence := wrong
    rw [checkEvent_of_loaded (stores.loads faithful state), if_pos other] at passed
    cases passed

omit [DecidableEq π] in
/-- The event has the next number exactly where its check has read the file as it is. -/
theorem Held.next_iff {shared : Shared π} {events : List AuditEvent} {process : π}
    {pending : Pending} (held : Held io Writable shared events)
    (here : shared.pending process = some pending) :
    pending.event.sequence = events.length + 1 ↔ shared.file = pending.read := by
  obtain ⟨earlier, before, stores, next⟩ := (held.checked process pending here).read
  rw [next, Nat.add_right_cancel_iff]
  constructor
  · intro same
    rw [held.stores.content, stores.content, before.eq_of_length same]
  · intro same
    have loaded := stores.loads faithful («open» "")
    rw [← same, held.stores.loads faithful («open» "")] at loaded
    cases loaded
    rfl

/-- An undisturbed step keeps what is held, and stores what it says it has stored. -/
theorem Held.step {shared after : Shared π} {events : List AuditEvent} {action : Action π}
    {outcome : Except DurableStateError Progress} (held : Held io Writable shared events)
    (writable : ∀ process event, action = .check process event → Writable event)
    (undisturbed : Undisturbed ⟨shared, action, outcome, after⟩)
    (step : Step io state shared action outcome after) :
    Held io Writable after (events ++ stored ⟨shared, action, outcome, after⟩) := by
  cases step with
  | busy | refused | nothing => simpa [stored] using held
  | @checked process event passed =>
      rw [stored, List.append_nil]
      refine held.setPending process ?_
      intro pending fresh
      cases fresh
      exact held.stores.checked faithful (writable process event rfl) passed
  | @appended process pending file here wrote =>
      have fits := (held.checked process pending here).writable
      have next := (held.next_iff faithful here).mpr (undisturbed process pending rfl here)
      rw [run_writeDocument faithful.works (faithful.written _ fits)] at wrote
      cases wrote
      have longer : Held io Writable
          { shared with file := shared.file.map (· ++ ("---\n" ++ io.document pending.event)) }
          (events ++ [pending.event]) :=
        ⟨held.stores.write_next fits next,
          fun other pending' there => (held.checked other pending' there).extend _⟩
      refine longer.setPending process ?_
      intro other none
      cases none
  | @failed process pending error file here wrote =>
      have fits := (held.checked process pending here).writable
      rw [run_writeDocument faithful.works (faithful.written _ fits)] at wrote
      cases wrote

/-- The file still loads after a step exactly when the step is undisturbed. -/
theorem Held.loads_iff (splits : SplitsStreams io Writable) {shared after : Shared π}
    {events : List AuditEvent} {action : Action π} {outcome : Except DurableStateError Progress}
    (held : Held io Writable shared events)
    (step : Step io state shared action outcome after) :
    (∃ ledger, loadLedger io state after.file = .ok ledger) ↔
      Undisturbed ⟨shared, action, outcome, after⟩ := by
  have loads := held.stores.loads faithful state
  cases step with
  | busy | checked | refused => exact ⟨fun _ => undisturbed_check, fun _ => ⟨⟨events⟩, loads⟩⟩
  | @nothing process absent =>
      refine ⟨fun _ => ?_, fun _ => ⟨⟨events⟩, loads⟩⟩
      intro other pending same here
      cases same
      cases absent.symm.trans here
  | @appended process pending file here wrote =>
      have fits := (held.checked process pending here).writable
      rw [run_writeDocument faithful.works (faithful.written _ fits)] at wrote
      cases wrote
      constructor
      · intro loaded other pending' same there
        cases same
        cases here.symm.trans there
        refine (held.next_iff faithful here).mp ?_
        by_contra wrong
        obtain ⟨ledger, read⟩ := loaded
        cases (held.stores.write_other faithful splits fits wrong).symm.trans read
      · intro undisturbed
        have next := (held.next_iff faithful here).mpr (undisturbed process pending rfl here)
        exact ⟨⟨events ++ [pending.event]⟩,
          (held.stores.write_next fits next).loads faithful state⟩
  | @failed process pending error file here wrote =>
      have fits := (held.checked process pending here).writable
      rw [run_writeDocument faithful.works (faithful.written _ fits)] at wrote
      cases wrote

theorem Tracked.step (splits : SplitsStreams io Writable) {events : List AuditEvent}
    {past : List (Call DurableStateError (Shared π) Progress (Action π))} {shared : Shared π}
    (tracked : Tracked io state Writable events past shared) (action : Action π)
    (writable : ∀ process event, action = .check process event → Writable event) :
    Tracked io state Writable events (past ++ [call (act io state) shared action])
      (call (act io state) shared action).after := by
  have taken := act_step io state shared action
  have same := call_mk (act io state) shared action
  constructor
  · intro all
    have held := tracked.held fun c member => all c (List.mem_append_left _ member)
    have now : Undisturbed (call (act io state) shared action) := all _ (by simp)
    rw [List.flatMap_append, List.flatMap_singleton, ← List.append_assoc]
    rw [← same] at now
    have kept := held.step faithful writable now taken
    rwa [same] at kept
  · intro loads
    have earlier := tracked.undisturbed fun c member => loads c (List.mem_append_left _ member)
    have now := (tracked.held earlier).loads_iff faithful splits taken
    rw [same] at now
    intro c member
    cases List.mem_append.mp member with
    | inl before => exact earlier c before
    | inr last =>
        cases List.mem_singleton.mp last
        exact now.mp (loads _ (by simp))

variable (splits : SplitsStreams io Writable) {file : LedgerFile} {ledger : AuditLedger}
  (stores : Stores io Writable file ledger) (actions : List (Action π))
  (writable : ∀ process event, .check process event ∈ actions → Writable event)
include splits stores writable

theorem tracked_run :
    Tracked io state Writable ledger.events
      (history (act io state) (Shared.start π file) actions)
      (exec (act io state) (Shared.start π file) actions) := by
  refine exec_invariant_history ?_ ⟨fun _ => ?_, fun _ => ?_⟩
  · intro past shared action member tracked
    refine tracked.step faithful splits action ?_
    intro process event same
    exact writable process event (same ▸ member)
  · simpa using Held.start stores
  · exact List.forall_mem_nil _

/-- The file of an undisturbed run holds what was there and what was reported stored. -/
theorem undisturbed_appends_stored
    (undisturbed : ∀ c ∈ history (act io state) (Shared.start π file) actions,
      Undisturbed c) :
    loadLedger io state (exec (act io state) (Shared.start π file) actions).file =
      .ok ⟨ledger.events ++
        (history (act io state) (Shared.start π file) actions).flatMap stored⟩ :=
  ((tracked_run faithful splits stores actions writable).held undisturbed).stores.loads
    faithful state

/-- The file loads all along the run, with every event reported stored, exactly when
each write finds the file as its own check has read it. -/
theorem appends_kept_iff :
    AppendsKept io state file actions ↔
      ∀ c ∈ history (act io state) (Shared.start π file) actions, Undisturbed c := by
  constructor
  · intro kept
    refine (tracked_run faithful splits stores actions writable).undisturbed ?_
    intro c member
    obtain ⟨before, action, after, rfl, rfl⟩ := (mem_history_iff _).mp member
    obtain ⟨ledger, loaded, -⟩ := kept (before ++ [action]) ⟨after, by simp⟩
    rw [exec_append] at loaded
    exact ⟨ledger, loaded⟩
  · intro undisturbed done part
    obtain ⟨rest, rfl⟩ := part
    rw [history_append] at undisturbed
    refine ⟨_, undisturbed_appends_stored faithful splits stores done ?_ ?_, ?_⟩
    · intro process event member
      exact writable process event (List.mem_append_left rest member)
    · exact fun c member => undisturbed c (List.mem_append_left _ member)
    · exact fun event member => List.mem_append_right _ member

end Runs

theorem sampleIo_splitsStreams : SplitsStreams sampleIo (· ∈ sampleEvents) :=
  fun _ sample => sampleYaml_documents sample

theorem Stores.nothing (io : StateIo) (Writable : AuditEvent → Prop) :
    Stores io Writable (some "") .empty :=
  ⟨rfl, rfl, List.forall_mem_nil _⟩

theorem appends_kept_sample :
    AppendsKept sampleIo («open» "state") (some "")
      [.check true firstEvent, .write true, .check false firstEvent] := by
  refine (appends_kept_iff sampleIo_faithful sampleIo_splitsStreams (Stores.nothing _ _) _
    ?_).mpr ?_
  · simp [sampleEvents]
  · intro c hc process pending write held
    simp only [history, List.mem_cons, List.not_mem_nil, or_false] at hc
    obtain rfl | rfl | rfl := hc
    · cases write
    · rw [call_op] at write
      cases write
      rw [call_before] at held ⊢
      cases held
      rfl
    · rw [call_op] at write
      cases write

/-- Two processes check the first event, and then both write it. -/
theorem overtaken_file_corrupt :
    loadLedger sampleIo («open» "state")
        (exec (act sampleIo («open» "state")) (Shared.start Bool (some ""))
          [.check true firstEvent, .check false firstEvent, .write true, .write false]).file =
      .error (.append (.nonMonotonicSequence 2 1)) := by
  decide +kernel

theorem interleaved_appends_corrupt :
    ¬ ∀ (io : StateIo) (Writable : AuditEvent → Prop), io.Faithful Writable →
      SplitsStreams io Writable →
      ∀ (state : LocalServerState) (file : LedgerFile) (ledger : AuditLedger),
        Stores io Writable file ledger → ∀ actions : List (Action Bool),
          (∀ process event, .check process event ∈ actions → Writable event) →
          AppendsKept io state file actions := by
  intro claimed
  obtain ⟨ledger, loaded, -⟩ := claimed sampleIo (· ∈ sampleEvents) sampleIo_faithful
    sampleIo_splitsStreams («open» "state") (some "") .empty (Stores.nothing _ _)
    [.check true firstEvent, .check false firstEvent, .write true, .write false]
    (by simp [sampleEvents]) _ List.prefix_rfl
  rw [overtaken_file_corrupt] at loaded
  cases loaded

end LocalServerState

end Runlane
