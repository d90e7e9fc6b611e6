import Runlane.Durable.State

/-!
The durable ledger as an in-memory ledger that survives restarts.

Between calls the file is the document stream of a ledger that `append` has
built. Reading it back gives that ledger, so a call that validates against what
it reads is a call on the ledger.
-/

namespace Runlane

open Calls Fallible

namespace SerdeYaml

variable (serde : SerdeYaml)

/-- The text of one event between two separators. -/
def document (event : AuditEvent) : String :=
  (serde.toWriter event).1 ++ "\n"

def stream (events : List AuditEvent) : String :=
  String.join (events.map fun event => "---\n" ++ serde.document event)

/-- What is relied on of the YAML library, for the events that are written. -/
structure Faithful (Writable : AuditEvent → Prop) : Prop where
  written : ∀ event, Writable event → (serde.toWriter event).2 = .ok ()
  reads : ∀ event, Writable event → serde.deserialize (serde.document event) = .ok event
  splits : ∀ ledger : AuditLedger, ledger.Built → (∀ event ∈ ledger.events, Writable event) →
    serde.documents (serde.stream ledger.events) = ledger.events.map serde.document

theorem stream_concat (events : List AuditEvent) (event : AuditEvent) :
    serde.stream (events ++ [event]) =
      serde.stream events ++ ("---\n" ++ serde.document event) := by
  simp [stream, String.join_append]

theorem stream_cons_not_blank (event : AuditEvent) (events : List AuditEvent) :
    Text.isBlank (serde.stream (event :: events)) = false := by
  simp [stream, Text.isBlank, Text.isWhitespace, String.join_cons]

end SerdeYaml

/-- The YAML library can be relied on, and I/O does not fail. -/
structure StateIo.Faithful (io : StateIo) (Writable : AuditEvent → Prop) : Prop extends
    io.toSerdeYaml.Faithful Writable where
  works : ∀ file call, io.fails file call = none

namespace LocalServerState

inductive Operation where
  | init
  | appendEvent (event : AuditEvent)
  | appendLedger (ledger : {ledger : AuditLedger // ledger.Built})

def Operation.events : Operation → List AuditEvent
  | .init => []
  | .appendEvent event => [event]
  | .appendLedger ledger => ledger.1.events

def perform (io : StateIo) (root : String) :
    Operation → EStateM DurableStateError LedgerFile Unit
  | .init => discard (init io root)
  | .appendEvent event => appendEvent io («open» root) event
  | .appendLedger ledger => appendLedger io («open» root) ledger.1

/-- The events that a call has been told are stored. -/
def accepted (c : Call DurableStateError LedgerFile Unit Operation) : List AuditEvent :=
  match c.outcome with
  | .ok () => c.op.events
  | .error _ => []

/-- The file holds what the ledger holds, and the next call does to the file
what it does to the ledger, or nothing at all. -/
structure Refines (io : StateIo) (Writable : AuditEvent → Prop) (state : LocalServerState)
    (file : LedgerFile) (ledger : AuditLedger) : Prop where
  built : ledger.Built
  loads : loadLedger io state file = .ok ledger
  receipts : ∀ runId, renderReceipt io state runId file =
    (generateOperatorReceipt runId ledger).mapError .receipt
  event_appended : ∀ event next, Writable event → ledger.append event = .ok next →
    ∃ file', (appendEvent io state event).run file = .ok () file' ∧
      loadLedger io state file' = .ok next
  event_refused : ∀ event error, ledger.append event = .error error →
    (appendEvent io state event).run file = .error (.append error) file
  ledger_stored : ∀ other : AuditLedger, other.Built → (∀ event ∈ other.events, Writable event) →
    ledger.events = [] → ∃ file', (appendLedger io state other).run file = .ok () file' ∧
      loadLedger io state file' = .ok other
  ledger_refused : ∀ other : AuditLedger, other.Built → other.events ≠ [] → ledger.events ≠ [] →
    ∃ error, (appendLedger io state other).run file = .error (.append error) file
  nothing_appended : ∀ other : AuditLedger, other.events = [] →
    (appendLedger io state other).run file = .ok () file

/-- The file is the document stream of a ledger of writable events. -/
structure Stores (io : StateIo) (Writable : AuditEvent → Prop) (file : LedgerFile)
    (ledger : AuditLedger) : Prop where
  content : file = some (io.stream ledger.events)
  built : ledger.Built
  writable : ∀ event ∈ ledger.events, Writable event

section Refinement

variable {io : StateIo} {Writable : AuditEvent → Prop}
  (faithful : io.Faithful Writable) (state : LocalServerState)
include faithful

theorem loadDocument_eq_append {ledger next : AuditLedger} {event : AuditEvent}
    (writable : Writable event) (appended : ledger.append event = .ok next) :
    loadDocument io state ledger (io.document event) = .ok next := by
  rw [loadDocument, faithful.reads event writable]
  exact mapError_eq_ok.mpr appended

theorem load_documents {ledger next : AuditLedger} {events : List AuditEvent}
    (writable : ∀ event ∈ events, Writable event)
    (appended : events.foldlM AuditLedger.append ledger = .ok next) :
    (events.map io.document).foldlM (loadDocument io state) ledger = .ok next := by
  induction events generalizing ledger with
  | nil =>
      cases appended
      rfl
  | cons event events ih =>
      rw [List.foldlM_cons, bind_eq_ok] at appended
      obtain ⟨longer, first, rest⟩ := appended
      rw [List.map_cons, List.foldlM_cons, bind_eq_ok]
      refine ⟨longer, ?_, ?_⟩
      · exact loadDocument_eq_append faithful state (writable event List.mem_cons_self) first
      · exact ih (fun later h => writable later (List.mem_cons_of_mem _ h)) rest

theorem Stores.loads {file : LedgerFile} {ledger : AuditLedger}
    (h : Stores io Writable file ledger) : loadLedger io state file = .ok ledger := by
  have read := load_documents faithful state h.writable h.built
  have split := faithful.splits ledger h.built h.writable
  obtain ⟨events⟩ := ledger
  rw [h.content, loadLedger_works faithful.works]
  cases events with
  | nil => rfl
  | cons event events =>
      rw [io.stream_cons_not_blank, if_neg Bool.false_ne_true, split, read]

theorem Stores.appendEvent {file : LedgerFile} {ledger next : AuditLedger} {event : AuditEvent}
    (h : Stores io Writable file ledger) (writable : Writable event)
    (appended : ledger.append event = .ok next) :
    ∃ file', (appendEvent io state event).run file = .ok () file' ∧
      Stores io Writable file' next := by
  have built := h.built.append appended
  obtain ⟨sequence, rfl⟩ := AuditLedger.append_eq_ok.mp appended
  refine ⟨_, run_appendEvent (h.loads faithful state) faithful.works sequence
    (faithful.written event writable),
    ?_, built, ?_⟩
  · rw [h.content, io.stream_concat]
    rfl
  · intro stored hstored
    cases List.mem_append.mp hstored with
    | inl earlier => exact h.writable stored earlier
    | inr last => exact List.mem_singleton.mp last ▸ writable

theorem Stores.appendEvent_refused {file : LedgerFile} {ledger : AuditLedger} {event : AuditEvent}
    {error : AuditAppendError} (h : Stores io Writable file ledger)
    (refused : ledger.append event = .error error) :
    (LocalServerState.appendEvent io state event).run file = .error (.append error) file := by
  obtain ⟨other, rfl⟩ := AuditLedger.append_eq_error.mp refused
  exact run_appendEvent_refused (h.loads faithful state) other

theorem Stores.appendEvents {file : LedgerFile} {ledger next : AuditLedger}
    {events : List AuditEvent} (h : Stores io Writable file ledger)
    (writable : ∀ event ∈ events, Writable event)
    (appended : events.foldlM AuditLedger.append ledger = .ok next) :
    ∃ file', (events.forM (LocalServerState.appendEvent io state)).run file = .ok () file' ∧
      Stores io Writable file' next := by
  induction events generalizing file ledger with
  | nil =>
      cases appended
      exact ⟨file, rfl, h⟩
  | cons event events ih =>
      rw [List.foldlM_cons, bind_eq_ok] at appended
      obtain ⟨longer, first, rest⟩ := appended
      obtain ⟨file₁, ran, stored⟩ :=
        h.appendEvent faithful state (writable event List.mem_cons_self) first
      obtain ⟨file₂, ranRest, storedRest⟩ :=
        ih stored (fun later hlater => writable later (List.mem_cons_of_mem _ hlater)) rest
      refine ⟨file₂, ?_, storedRest⟩
      have unfolded : (event :: events).forM (LocalServerState.appendEvent io state) =
          (LocalServerState.appendEvent io state event >>= fun _ =>
            events.forM (LocalServerState.appendEvent io state)) := rfl
      rw [unfolded, EStateM.run_bind, ran]
      exact ranRest

theorem Stores.appendLedger {file : LedgerFile} {ledger other : AuditLedger}
    (h : Stores io Writable file ledger) (built : other.Built)
    (writable : ∀ event ∈ other.events, Writable event) (empty : ledger.events = []) :
    ∃ file', (appendLedger io state other).run file = .ok () file' ∧
      Stores io Writable file' other := by
  have start : ledger = .empty := congrArg AuditLedger.mk empty
  exact h.appendEvents faithful state writable (by rwa [start])

theorem Stores.appendLedger_refused {file : LedgerFile} {ledger other : AuditLedger}
    (h : Stores io Writable file ledger) (built : other.Built) (some : other.events ≠ [])
    (occupied : ledger.events ≠ []) :
    ∃ error, (LocalServerState.appendLedger io state other).run file =
      .error (.append error) file := by
  obtain ⟨events⟩ := other
  cases events with
  | nil => exact absurd rfl some
  | cons event events =>
      have numbered : event.sequence ≠ ledger.nextSequence := by
        have stored := List.length_pos_iff.mpr occupied
        rw [(List.cons.inj built.sequences).1, AuditLedger.nextSequence]
        omega
      have refused := h.appendEvent_refused faithful state
        (AuditLedger.append_eq_error.mpr ⟨numbered, rfl⟩)
      have unfolded : LocalServerState.appendLedger io state ⟨event :: events⟩ =
          (LocalServerState.appendEvent io state event >>= fun _ =>
            LocalServerState.appendLedger io state ⟨events⟩) := rfl
      exact ⟨_, by rw [unfolded, EStateM.run_bind, refused]⟩

theorem Stores.refines {file : LedgerFile} {ledger : AuditLedger}
    (h : Stores io Writable file ledger) : Refines io Writable state file ledger where
  built := h.built
  loads := h.loads faithful state
  receipts := by
    intro runId
    rw [renderReceipt, h.loads faithful state]
    rfl
  event_appended := by
    intro event next writable appended
    obtain ⟨file', ran, stored⟩ := h.appendEvent faithful state writable appended
    exact ⟨file', ran, stored.loads faithful state⟩
  event_refused := fun _ _ refused => h.appendEvent_refused faithful state refused
  ledger_stored := by
    intro other built writable empty
    obtain ⟨file', ran, stored⟩ := h.appendLedger faithful state built writable empty
    exact ⟨file', ran, stored.loads faithful state⟩
  ledger_refused := fun _ built some occupied =>
    h.appendLedger_refused faithful state built some occupied
  nothing_appended := by
    intro other nothing
    rw [LocalServerState.appendLedger, nothing]
    rfl

variable (root : String)

theorem run_perform_init (file : LedgerFile) :
    (perform io root .init).run file = .ok () (some (file.getD "")) := by
  have made : init io root file = .ok («open» root) (some (file.getD "")) :=
    run_init_works faithful.works
  simp only [perform, discard, EStateM.run, Functor.mapConst, Function.comp_apply,
    EStateM.map, made]

omit faithful in
theorem Stores.call_ok {file file' : LedgerFile} {events : List AuditEvent} {op : Operation}
    (ran : (perform io root op).run file = .ok () file')
    (stored : Stores io Writable file' ⟨events ++ op.events⟩) :
    Stores io Writable (call (perform io root) file op).after
      ⟨events ++ accepted (call (perform io root) file op)⟩ := by
  rw [call_of_ok ran]
  exact stored

omit faithful in
theorem Stores.call_error {file : LedgerFile} {events : List AuditEvent} {op : Operation}
    {error : DurableStateError} (h : Stores io Writable file ⟨events⟩)
    (refused : (perform io root op).run file = .error error file) :
    Stores io Writable (call (perform io root) file op).after
      ⟨events ++ accepted (call (perform io root) file op)⟩ := by
  rw [call_of_error refused]
  simpa [accepted] using h

/-- A call adds what it accepts to the stored ledger and leaves a ledger stored. -/
theorem Stores.call {file : LedgerFile} {events : List AuditEvent}
    (h : Stores io Writable file ⟨events⟩) (op : Operation)
    (writable : ∀ event ∈ op.events, Writable event) :
    Stores io Writable (Calls.call (perform io root) file op).after
      ⟨events ++ accepted (Calls.call (perform io root) file op)⟩ := by
  cases op with
  | init =>
      have kept : (perform io root .init).run file = .ok () file := by
        rw [run_perform_init faithful, h.content]
        rfl
      exact Stores.call_ok root kept (by simpa [Operation.events] using h)
  | appendEvent event =>
      cases appended : AuditLedger.append ⟨events⟩ event with
      | error error =>
          exact h.call_error root (h.appendEvent_refused faithful («open» root) appended)
      | ok next =>
          obtain ⟨file', ran, stored⟩ := h.appendEvent faithful («open» root)
            (writable event List.mem_cons_self) appended
          obtain ⟨-, rfl⟩ := AuditLedger.append_eq_ok.mp appended
          exact Stores.call_ok root ran stored
  | appendLedger other =>
      by_cases nothing : other.1.events = []
      · have kept : (perform io root (.appendLedger other)).run file = .ok () file :=
          (h.refines faithful («open» root)).nothing_appended other.1 nothing
        exact Stores.call_ok root kept (by simpa [Operation.events, nothing] using h)
      by_cases empty : events = []
      · obtain ⟨file', ran, stored⟩ :=
          h.appendLedger faithful («open» root) other.2 writable empty
        exact Stores.call_ok root ran (by rwa [empty, List.nil_append])
      · obtain ⟨error, refused⟩ :=
          h.appendLedger_refused faithful («open» root) other.2 nothing empty
        exact h.call_error root refused

/-- Whatever is called on an initialised state, the file is then the in-memory
ledger of the accepted events. -/
theorem durable_ledger_refines (ops : List Operation)
    (writable : ∀ op ∈ ops, ∀ event ∈ op.events, Writable event) :
    Refines io Writable («open» root) (exec (perform io root) none (.init :: ops))
      ⟨(history (perform io root) none (.init :: ops)).flatMap accepted⟩ := by
  have start : Stores io Writable (some "") ⟨List.flatMap accepted []⟩ :=
    ⟨rfl, rfl, List.forall_mem_nil _⟩
  have made : call (perform io root) none .init = ⟨none, .init, .ok (), some ""⟩ :=
    call_of_ok (run_perform_init faithful root none)
  have run : Stores io Writable (exec (perform io root) (some "") ops)
      ⟨(history (perform io root) (some "") ops).flatMap accepted⟩ := by
    refine exec_invariant_history
      (I := fun past file => Stores io Writable file ⟨past.flatMap accepted⟩) ?_ start
    intro past file op hop stored
    rw [List.flatMap_append, List.flatMap_singleton]
    exact stored.call faithful root op (writable op hop)
  rw [exec, history, made]
  exact run.refines faithful («open» root)

end Refinement

/-- Cuts a document stream at its separators. -/
def splitDocuments : List Char → List (List Char)
  | '-' :: '-' :: '-' :: '\n' :: rest => [] :: splitDocuments rest
  | c :: rest =>
      match splitDocuments rest with
      | [] => [[c]]
      | document :: documents => (c :: document) :: documents
  | [] => [[]]

def firstEvent : AuditEvent :=
  ⟨"event-1", "run-1", 1, .evidenceCollected "service_status"⟩

def sampleEvents : List AuditEvent :=
  [firstEvent, ⟨"event-2", "run-1", 2, .evidenceCollected "recent_logs"⟩]

def sampleText : AuditEvent → String × Except String Unit
  | ⟨id, runId, sequence, .evidenceCollected source⟩ =>
      (s!"id: {id}\nrun_id: {runId}\nsequence: {sequence}\nkind: !EvidenceCollected\n" ++
        s!"  source: {source}\n", .ok ())
  | _ => ("", .error "not one of the sample events")

/-- Writes and reads the sample events as YAML. -/
def sampleYaml : SerdeYaml where
  toWriter := sampleText
  documents content := ((splitDocuments content.toList).drop 1).map String.ofList
  deserialize text :=
    match sampleEvents.find? fun event => (sampleText event).1 ++ "\n" = text with
    | some event => .ok event
    | none => .error "not one of the sample events"

theorem sampleYaml_stream_cons (event : AuditEvent) (events : List AuditEvent) :
    (sampleYaml.stream (event :: events)).toList =
      '-' :: '-' :: '-' :: '\n' ::
        ((sampleYaml.document event).toList ++ (sampleYaml.stream events).toList) := by
  simp [SerdeYaml.stream, String.join_cons]

/-- A sample document reaches to the next separator, or to the end. -/
theorem splitDocuments_document {event : AuditEvent} (sample : event ∈ sampleEvents) :
    splitDocuments (sampleYaml.document event).toList = [(sampleYaml.document event).toList] ∧
      ∀ more, splitDocuments
          ((sampleYaml.document event).toList ++ '-' :: '-' :: '-' :: '\n' :: more) =
        (sampleYaml.document event).toList :: splitDocuments more := by
  simp only [sampleEvents, List.mem_cons, List.not_mem_nil, or_false] at sample
  obtain rfl | rfl := sample
  · exact ⟨rfl, fun _ => rfl⟩
  · exact ⟨rfl, fun _ => rfl⟩

theorem splitDocuments_stream {events : List AuditEvent}
    (sample : ∀ event ∈ events, event ∈ sampleEvents) :
    splitDocuments (sampleYaml.stream events).toList =
      [] :: events.map fun event => (sampleYaml.document event).toList := by
  induction events with
  | nil => rfl
  | cons event events ih =>
      obtain ⟨ends, continues⟩ := splitDocuments_document (sample event List.mem_cons_self)
      have rest := ih fun later member => sample later (List.mem_cons_of_mem _ member)
      rw [sampleYaml_stream_cons, splitDocuments]
      cases events with
      | nil => exact congrArg ([] :: ·) (by simpa [SerdeYaml.stream] using ends)
      | cons next events =>
          rw [sampleYaml_stream_cons, splitDocuments] at rest
          rw [sampleYaml_stream_cons, continues, (List.cons.inj rest).2]
          rfl

theorem sampleYaml_documents {events : List AuditEvent}
    (sample : ∀ event ∈ events, event ∈ sampleEvents) :
    sampleYaml.documents (sampleYaml.stream events) = events.map sampleYaml.document := by
  have split : sampleYaml.documents (sampleYaml.stream events) =
      ((splitDocuments (sampleYaml.stream events).toList).drop 1).map String.ofList := rfl
  rw [split, splitDocuments_stream sample, List.drop_one, List.tail_cons, List.map_map]
  exact List.map_congr_left fun event _ => String.ofList_toList

/-- The sample events in a directory where every call works. -/
def sampleIo : StateIo :=
  .sound sampleYaml

theorem sampleIo_faithful : sampleIo.Faithful (· ∈ sampleEvents) where
  written := by decide
  reads := by decide
  splits := fun _ _ sample => sampleYaml_documents sample
  works := fun _ _ => rfl

theorem durable_ledger_refines_sample :
    Refines sampleIo (· ∈ sampleEvents) («open» "state")
      (exec (perform sampleIo "state") none
        [.init, .appendEvent firstEvent, .appendLedger ⟨⟨sampleEvents⟩, rfl⟩])
      ⟨[firstEvent]⟩ := by
  have stored : (history (perform sampleIo "state") none
      [.init, .appendEvent firstEvent, .appendLedger ⟨⟨sampleEvents⟩, rfl⟩]).flatMap accepted =
        [firstEvent] := by
    decide +kernel
  have run := durable_ledger_refines sampleIo_faithful "state"
    [.appendEvent firstEvent, .appendLedger ⟨⟨sampleEvents⟩, rfl⟩]
    (by simp [Operation.events, sampleEvents])
  rwa [stored] at run

/-- A ledger without events is accepted, and nothing written, whatever is stored. -/
theorem empty_ledger_accepted :
    ¬ ∀ (io : StateIo) (Writable : AuditEvent → Prop), io.Faithful Writable →
      ∀ (root : String) (ops : List Operation),
        (∀ op ∈ ops, ∀ event ∈ op.events, Writable event) →
        ∀ other : AuditLedger, other.Built → (∀ event ∈ other.events, Writable event) →
          let file := exec (perform io root) none (.init :: ops)
          loadLedger io («open» root) file ≠ .ok .empty →
            ∃ error, (appendLedger io («open» root) other).run file = .error error file := by
  intro claimed
  obtain ⟨error, refused⟩ := claimed sampleIo (· ∈ sampleEvents) sampleIo_faithful "state"
    [.appendEvent firstEvent] (by simp [Operation.events, sampleEvents]) .empty rfl
    (List.forall_mem_nil _)
    (by decide +kernel)
  cases refused

end LocalServerState

end Runlane
