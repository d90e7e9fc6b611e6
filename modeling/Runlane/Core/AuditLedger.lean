import Runlane.Core.Vocabulary
import Runlane.Lib.Fallible
import Mathlib.Data.List.Nodup

/-!
The append-only audit ledger. An event is accepted only under the next sequence
number; a caller that numbers its event with `nextSequence` is therefore never
refused, which is what every component below does.
-/

namespace Runlane

inductive AuditEventKind where
  | enrollmentTokenCreated (tokenId nodeId : String)
  | agentEnrolled (nodeId : String) (os : OperatingSystem)
  | agentTaskPulled (envelopeId taskId nodeId : String)
  | agentTaskRejected (nodeId reason : String)
  | agentResultAccepted (envelopeId taskId nodeId : String)
  | agentResultRejected (envelopeId reason : String)
  | agentResultSpooled (spoolId : String) (reason : SpoolReason)
  | incidentCreated (incidentId nodeId runbook : String)
  | evidenceCollected (source : String)
  | proposalGenerated (proposalId hypothesis : String)
  | capabilityLeaseIssued (leaseId approvalId : String)
  | verificationCompleted (checkId resourceId : String)
  | runStateTransition (source target : RunState)
  | resourceLeaseRequested (taskId resourceId : String) (mode : LeaseMode)
  | resourceLeaseGranted (leaseId resourceId : String) (mode : LeaseMode)
  | resourceLeaseDenied (resourceId : String) (mode : LeaseMode) (reason : String)
  | schedulerDecision (decision : SchedulerDecision)
  | verificationSelected (plan : VerificationPlan)
  | verificationSkipped (skipped : SkippedVerification)
  | approvalDecision (approvalId actor : String) (outcome : ApprovalOutcome)
  | approvalRequested (approvalId proposalId actionId : String)
  | approvalExpired (approvalId : String)
  | approvalSuperseded (approvalId supersededBy : String)
  | approvalAdapterRejected (adapter reason : String)
  | actionResult (action : ActionKind) (target : ActionTarget) (status : HelperActionStatus)
  | cognitiveReceiptGenerated (receiptId : String)
deriving DecidableEq

structure AuditEvent where
  id : String
  runId : String
  sequence : Nat
  kind : AuditEventKind
deriving DecidableEq

inductive AuditAppendError where
  | nonMonotonicSequence (expected actual : Nat)
deriving DecidableEq

structure AuditLedger where
  events : List AuditEvent
deriving DecidableEq

namespace AuditLedger

def empty : AuditLedger := ⟨[]⟩

def nextSequence (ledger : AuditLedger) : Nat :=
  ledger.events.length + 1

/-- Appends an event when its sequence is the next monotonic sequence. A refused
ledger is unchanged, so the result carries the new ledger only on success. -/
def append (ledger : AuditLedger) (event : AuditEvent) : Except AuditAppendError AuditLedger :=
  if event.sequence ≠ ledger.nextSequence then
    .error (.nonMonotonicSequence ledger.nextSequence event.sequence)
  else
    .ok ⟨ledger.events ++ [event]⟩

/-- The ledger with one more event, numbered as `append` asks. -/
def record (ledger : AuditLedger) (id runId : String) (kind : AuditEventKind) : AuditLedger :=
  ⟨ledger.events ++ [⟨id, runId, ledger.nextSequence, kind⟩]⟩

theorem append_next (ledger : AuditLedger) (id runId : String) (kind : AuditEventKind) :
    ledger.append ⟨id, runId, ledger.nextSequence, kind⟩ = .ok (ledger.record id runId kind) := by
  simp [append, record]

/-- What the events of a ledger say in one respect, in their order. -/
def project {α : Type} (ledger : AuditLedger) (entry : AuditEventKind → Option α) : List α :=
  ledger.events.filterMap fun event => entry event.kind

@[simp] theorem project_record {α : Type} (ledger : AuditLedger) (id runId : String)
    (kind : AuditEventKind) (entry : AuditEventKind → Option α) :
    (ledger.record id runId kind).project entry = ledger.project entry ++ (entry kind).toList := by
  cases logged : entry kind with
  | none => simp [project, record, logged]
  | some a => simp [project, record, logged]

/-- The ledgers that `append` builds, the only ones there are outside the ledger's module. -/
def Built (ledger : AuditLedger) : Prop :=
  ledger.events.foldlM append empty = .ok ledger

theorem append_eq_ok {ledger next : AuditLedger} {event : AuditEvent} :
    ledger.append event = .ok next ↔
      event.sequence = ledger.nextSequence ∧ next = ⟨ledger.events ++ [event]⟩ := by
  unfold append
  by_cases h : event.sequence = ledger.nextSequence
  · simp [h, eq_comm]
  · simp [h]

theorem append_eq_error {ledger : AuditLedger} {event : AuditEvent} {error : AuditAppendError} :
    ledger.append event = .error error ↔ event.sequence ≠ ledger.nextSequence ∧
      error = .nonMonotonicSequence ledger.nextSequence event.sequence := by
  unfold append
  by_cases h : event.sequence = ledger.nextSequence
  · simp [h]
  · simp [h, eq_comm]

theorem Built.append {ledger next : AuditLedger} {event : AuditEvent} (h : ledger.Built)
    (appended : ledger.append event = .ok next) : next.Built := by
  obtain ⟨-, rfl⟩ := append_eq_ok.mp appended
  unfold Built
  rw [List.foldlM_append, Fallible.bind_eq_ok]
  exact ⟨ledger, h, Fallible.bind_eq_ok.mpr ⟨_, appended, rfl⟩⟩

theorem sequences_of_foldlM {ledger next : AuditLedger} {events : List AuditEvent}
    (appended : events.foldlM append ledger = .ok next) :
    events.map AuditEvent.sequence = List.range' ledger.nextSequence events.length := by
  induction events generalizing ledger with
  | nil => rfl
  | cons event events ih =>
      rw [List.foldlM_cons, Fallible.bind_eq_ok] at appended
      obtain ⟨longer, first, rest⟩ := appended
      obtain ⟨sequence, rfl⟩ := append_eq_ok.mp first
      rw [List.map_cons, List.length_cons, List.range'_succ, sequence, ih rest]
      simp [nextSequence]

/-- A built ledger is numbered from one on. -/
theorem Built.sequences {ledger : AuditLedger} (h : ledger.Built) :
    ledger.events.map AuditEvent.sequence = List.range' 1 ledger.events.length :=
  sequences_of_foldlM h

/-- The ledger with one event after another of a run. -/
def recordAll (ledger : AuditLedger) (eventId : Nat → String) (runId : String)
    (kinds : List AuditEventKind) : AuditLedger :=
  kinds.foldl (fun ledger kind => ledger.record (eventId ledger.nextSequence) runId kind) ledger

section Many

variable {eventId : Nat → String} {runId : String}

theorem recordAll_append (ledger : AuditLedger) (kinds more : List AuditEventKind) :
    ledger.recordAll eventId runId (kinds ++ more) =
      (ledger.recordAll eventId runId kinds).recordAll eventId runId more :=
  List.foldl_append

theorem Built.record {ledger : AuditLedger} (h : ledger.Built) (id runId : String)
    (kind : AuditEventKind) : (ledger.record id runId kind).Built :=
  h.append (append_next ledger id runId kind)

theorem Built.recordAll {ledger : AuditLedger} (h : ledger.Built) (kinds : List AuditEventKind) :
    (ledger.recordAll eventId runId kinds).Built := by
  induction kinds generalizing ledger with
  | nil => exact h
  | cons kind kinds ih => exact ih (h.record _ _ _)

/-- The new events are all of the run, and say what was recorded. -/
theorem events_recordAll (ledger : AuditLedger) (eventId : Nat → String) (runId : String)
    (kinds : List AuditEventKind) :
    ∃ events, (ledger.recordAll eventId runId kinds).events = ledger.events ++ events ∧
      events.map AuditEvent.kind = kinds ∧ ∀ event ∈ events, event.runId = runId := by
  induction kinds generalizing ledger with
  | nil => exact ⟨[], (List.append_nil _).symm, rfl, nofun⟩
  | cons kind kinds ih =>
      obtain ⟨events, rest, same, ours⟩ := ih (ledger.record (eventId ledger.nextSequence) runId kind)
      refine ⟨_ :: events, rest.trans (List.append_assoc _ [_] _), congrArg (kind :: ·) same, ?_⟩
      exact List.forall_mem_cons.mpr ⟨rfl, ours⟩

end Many

/-- The events are numbered from one on, and an event's number determines its id. -/
structure Numbered (eventId : Nat → String) (ledger : AuditLedger) : Prop where
  sequences : ledger.events.map AuditEvent.sequence = List.range' 1 ledger.events.length
  ids : ledger.events.map AuditEvent.id = (List.range' 1 ledger.events.length).map eventId

namespace Numbered

variable {eventId : Nat → String} {ledger : AuditLedger}

theorem empty : Numbered eventId empty :=
  ⟨rfl, rfl⟩

theorem record (h : Numbered eventId ledger) (runId : String) (kind : AuditEventKind) :
    Numbered eventId (ledger.record (eventId ledger.nextSequence) runId kind) where
  sequences := by
    simp [AuditLedger.record, h.sequences, nextSequence, List.range'_concat, Nat.add_comm]
  ids := by
    simp [AuditLedger.record, h.ids, nextSequence, List.range'_concat, Nat.add_comm]

theorem ids_nodup (h : Numbered eventId ledger) (distinct : Function.Injective eventId) :
    (ledger.events.map AuditEvent.id).Nodup := by
  rw [h.ids]
  exact List.Nodup.map distinct List.nodup_range'

end Numbered

/-- A counter that is printed behind a label tells the labels apart. -/
theorem labelled_injective (label : String) {eventId : Nat → String}
    (printed : ∀ n, eventId n = label ++ Nat.repr n) : Function.Injective eventId := by
  intro m n same
  rw [printed, printed, String.append_right_inj] at same
  have digits := congrArg (fun text => Nat.ofDigitChars 10 text.toList 0) same
  simpa only [Nat.toList_repr, Nat.ofDigitChars_ten_toDigits] using digits

end AuditLedger

end Runlane
