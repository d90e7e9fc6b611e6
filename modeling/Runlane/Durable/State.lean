import Runlane.Lib.Calls
import Runlane.Lib.Fallible
import Runlane.Lib.Frame
import Runlane.Lib.Text
import Runlane.Receipt.Generation

/-!
The durable state of a local server: the audit ledger as a file of YAML documents.

Every call reads the whole file again and validates it; an event is then written
behind a separator as one more document. The state here is the content of the
ledger file, `none` while there is no such file. How an event is written as YAML,
how YAML text is cut into documents and read, and which calls on the file fail and
what they leave is a parameter.
-/

namespace Runlane

open Calls Frame

structure ServerStateLayout where
  root : String
  ledgerDir : String
  auditLedger : String
deriving DecidableEq

def ServerStateLayout.new (root : String) : ServerStateLayout :=
  let ledgerDir := Text.joinPath root "ledger"
  { root, ledgerDir, auditLedger := Text.joinPath ledgerDir "audit.yaml" }

/-- The YAML library. A writer leaves text behind also when it fails. -/
structure SerdeYaml where
  toWriter : AuditEvent → String × Except String Unit
  documents : String → List String
  deserialize : String → Except String AuditEvent

/-- The content of the ledger file, if it exists. -/
abbrev LedgerFile := Option String

/-- A call on the state directory. -/
inductive StateCall where
  | createDirAll
  | create
  | metadata
  | readToString
  | openAppend
  | write (text : String)

/-- What a server state asks of its surroundings: the YAML library, and the calls on
the ledger file, of which any may fail with a message. A write that fails has written
something or nothing. -/
structure StateIo extends SerdeYaml where
  fails : LedgerFile → StateCall → Option String
  leftover : LedgerFile → String → String

/-- Surroundings in which every call works. -/
def StateIo.sound (serde : SerdeYaml) : StateIo where
  toSerdeYaml := serde
  fails _ _ := none
  leftover _ _ := ""

inductive DurableStateError where
  | missingLedger (path : String)
  | io (path operation message : String)
  | corruptLedger (path message : String)
  | corruptWrite (path message : String)
  | append (error : AuditAppendError)
  | receipt (error : ReceiptError)
deriving DecidableEq

structure LocalServerState where
  layout : ServerStateLayout
deriving DecidableEq

namespace LocalServerState

variable (io : StateIo)

/-- Makes a call that leaves the file as it is. -/
def attempt (call : StateCall) (blame : String → DurableStateError) :
    EStateM DurableStateError LedgerFile Unit := do
  match io.fails (← get) call with
  | some message => throw (blame message)
  | none => pure ()

/-- Writes at the end of the ledger file, opened for appending. -/
def write (blame : String → DurableStateError) (text : String) :
    EStateM DurableStateError LedgerFile Unit := do
  let file ← get
  match io.fails file (.write text) with
  | some message => do
      set (file.map (· ++ io.leftover file text))
      throw (blame message)
  | none => set (file.map (· ++ text))

def «open» (root : String) : LocalServerState :=
  ⟨.new root⟩

/-- Initializes a local server state directory. A ledger file that exists
already is kept as it is. -/
def init (root : String) : EStateM DurableStateError LedgerFile LocalServerState := do
  let layout := ServerStateLayout.new root
  attempt io .createDirAll (.io layout.ledgerDir "create ledger directory")
  attempt io .create (.io layout.auditLedger "create audit ledger")
  modify fun file => some (file.getD "")
  return { layout }

variable (state : LocalServerState)

/-- One document more, read and appended to what was read before it. -/
def loadDocument (ledger : AuditLedger) (document : String) :
    Except DurableStateError AuditLedger := do
  let event ← (io.deserialize document).mapError (.corruptLedger state.layout.auditLedger)
  (ledger.append event).mapError .append

/-- Loads the append-only audit ledger and validates event sequencing. A file that
cannot be looked at is taken for a missing one. -/
def loadLedger (file : LedgerFile) : Except DurableStateError AuditLedger :=
  match io.fails file .metadata, file with
  | some _, _ | none, none => .error (.missingLedger state.layout.auditLedger)
  | none, some content =>
      match io.fails file .readToString with
      | some message => .error (.io state.layout.auditLedger "read audit ledger" message)
      | none =>
          if Text.isBlank content then .ok .empty
          else (io.documents content).foldlM (loadDocument io state) .empty

/-- Appends one event after validating the durable sequence remains monotonic. -/
def appendEvent (event : AuditEvent) : EStateM DurableStateError LedgerFile Unit := do
  let ledger ← ofExcept (loadLedger io state (← get))
  let expected := ledger.nextSequence
  if event.sequence ≠ expected then
    throw (.append (.nonMonotonicSequence expected event.sequence))
  attempt io .openAppend (.io state.layout.auditLedger "open audit ledger for append")
  write io (.io state.layout.auditLedger "write audit document separator") "---\n"
  write io (.corruptWrite state.layout.auditLedger) (io.toWriter event).1
  match (io.toWriter event).2 with
  | .error message => throw (.corruptWrite state.layout.auditLedger message)
  | .ok () => write io (.io state.layout.auditLedger "finish audit document") "\n"

section Calls

variable {io} {call : StateCall} {blame : String → DurableStateError} {text root : String}
  {file : LedgerFile}

theorem run_attempt : (attempt io call blame).run file =
    match io.fails file call with
    | some message => .error (blame message) file
    | none => .ok () file := by
  rw [attempt, EStateM.run_bind, EStateM.run_get]
  dsimp only
  cases io.fails file call with
  | some message => rfl
  | none => rfl

theorem run_write : (write io blame text).run file =
    match io.fails file (.write text) with
    | some message => .error (blame message) (file.map (· ++ io.leftover file text))
    | none => .ok () (file.map (· ++ text)) := by
  rw [write, EStateM.run_bind, EStateM.run_get]
  dsimp only
  cases io.fails file (.write text) with
  | some message => rfl
  | none => rfl

/-- Whatever fails, initializing a state changes nothing of what its ledger file holds. -/
theorem run_init : (init io root).run file =
    match io.fails file .createDirAll, io.fails file .create with
    | some message, _ => .error
        (.io (ServerStateLayout.new root).ledgerDir "create ledger directory" message) file
    | none, some message => .error
        (.io (ServerStateLayout.new root).auditLedger "create audit ledger" message) file
    | none, none => .ok («open» root) (some (file.getD "")) := by
  simp only [init, EStateM.run_bind, run_attempt]
  cases io.fails file .createDirAll with
  | some message => rfl
  | none =>
      dsimp only
      cases io.fails file .create with
      | some message => rfl
      | none => rfl

theorem loadLedger_none (state : LocalServerState) :
    loadLedger io state none = .error (.missingLedger state.layout.auditLedger) := by
  unfold loadLedger
  cases io.fails none .metadata with
  | some message => rfl
  | none => rfl

variable (works : ∀ file call, io.fails file call = none)
include works

@[simp] theorem run_attempt_works : (attempt io call blame).run file = .ok () file := by
  rw [run_attempt, works]

@[simp] theorem run_write_works :
    (write io blame text).run file = .ok () (file.map (· ++ text)) := by
  rw [run_write, works]

theorem run_init_works :
    (init io root).run file = .ok («open» root) (some (file.getD "")) := by
  simp only [run_init, works]

/-- Where every call works, a ledger is read off the content of its file. -/
theorem loadLedger_works (state : LocalServerState) (content : String) :
    loadLedger io state (some content) =
      if Text.isBlank content then .ok .empty
      else (io.documents content).foldlM (loadDocument io state) .empty := by
  simp only [loadLedger, works]

end Calls

section Append

variable {io : StateIo} {state : LocalServerState} {file : LedgerFile} {ledger : AuditLedger}
  {event : AuditEvent} (loaded : loadLedger io state file = .ok ledger)
include loaded

theorem run_appendEvent (works : ∀ file call, io.fails file call = none)
    (next : event.sequence = ledger.nextSequence) (written : (io.toWriter event).2 = .ok ()) :
    (appendEvent io state event).run file =
      .ok () (file.map (· ++ ("---\n" ++ ((io.toWriter event).1 ++ "\n")))) := by
  simp only [appendEvent, EStateM.run_bind, EStateM.run_get, loaded, run_ofExcept_ok, next,
    ne_eq, not_true_eq_false, if_false, run_attempt_works works, run_write_works works, written,
    Option.map_map]
  congr 2
  funext content
  simp only [Function.comp_apply, String.append_assoc]

theorem run_appendEvent_refused (other : event.sequence ≠ ledger.nextSequence) :
    (appendEvent io state event).run file =
      .error (.append (.nonMonotonicSequence ledger.nextSequence event.sequence)) file := by
  simp only [appendEvent, EStateM.run_bind, EStateM.run_get, loaded, run_ofExcept_ok, ne_eq,
    other, not_false_eq_true, if_true, EStateM.run_throw]

end Append

/-- Appends every event from an in-memory ledger. -/
def appendLedger (ledger : AuditLedger) : EStateM DurableStateError LedgerFile Unit :=
  ledger.events.forM (appendEvent io state)

/-- What the file held is there, and whatever else it holds stands behind it. -/
def Grows (file next : LedgerFile) : Prop :=
  ∃ text, next.getD "" = file.getD "" ++ text

instance : Std.Refl Grows where
  refl _ := ⟨"", String.append_empty.symm⟩

instance : IsTrans LedgerFile Grows where
  trans _ _ _ first second := by
    obtain ⟨text, first⟩ := first
    obtain ⟨more, second⟩ := second
    exact ⟨text ++ more, by rw [second, first, String.append_assoc]⟩

theorem grows_map (file : LedgerFile) (text : String) : Grows file (file.map (· ++ text)) := by
  cases file with
  | none => exact Std.Refl.refl (none : LedgerFile)
  | some content => exact ⟨text, rfl⟩

theorem keeps_attempt (call : StateCall) (blame : String → DurableStateError) :
    Keeps Grows (attempt io call blame) := by
  refine keeps_of_same fun file => ?_
  rw [left, run_attempt]
  cases io.fails file call with
  | some message => rfl
  | none => rfl

theorem keeps_write (blame : String → DurableStateError) (text : String) :
    Keeps Grows (write io blame text) := by
  intro file
  rw [left, run_write]
  cases io.fails file (.write text) with
  | some message => exact grows_map file _
  | none => exact grows_map file text

/-- Whichever call fails, a state directory loses nothing when it is initialized. -/
theorem keeps_init (root : String) : Keeps Grows (init io root) := by
  refine (keeps_attempt io _ _).bind fun _ => (keeps_attempt io _ _).bind fun _ => ?_
  intro file
  exact ⟨"", String.append_empty.symm⟩

/-- Whichever call fails, an append changes nothing of what was there before. -/
theorem keeps_appendEvent (event : AuditEvent) : Keeps Grows (appendEvent io state event) := by
  have written : Keeps Grows (do
      attempt io .openAppend (.io state.layout.auditLedger "open audit ledger for append")
      write io (.io state.layout.auditLedger "write audit document separator") "---\n"
      write io (.corruptWrite state.layout.auditLedger) (io.toWriter event).1
      match (io.toWriter event).2 with
      | .error message => throw (.corruptWrite state.layout.auditLedger message)
      | .ok () => write io (.io state.layout.auditLedger "finish audit document") "\n") := by
    refine (keeps_attempt io _ _).bind fun _ => (keeps_write io _ _).bind fun _ => ?_
    refine (keeps_write io _ _).bind fun _ => ?_
    cases (io.toWriter event).2 with
    | error message => exact keeps_throw _
    | ok done => exact keeps_write io _ _
  refine keeps_get_bind fun file => (keeps_ofExcept _).bind (fun ledger => ?_) file
  dsimp only
  split
  · exact (keeps_throw _).bind fun _ => written
  · exact written

theorem keeps_appendLedger (ledger : AuditLedger) : Keeps Grows (appendLedger io state ledger) :=
  keeps_forM _ fun event _ => keeps_appendEvent io state event

/-- Renders a receipt from the durable ledger after a process restart. -/
def renderReceipt (runId : String) (file : LedgerFile) :
    Except DurableStateError OperatorReceipt := do
  let ledger ← loadLedger io state file
  (generateOperatorReceipt runId ledger).mapError .receipt

end LocalServerState

end Runlane
