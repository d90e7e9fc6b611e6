import Runlane.Agent.Rehearsal
import Runlane.Durable.Refinement

/-!
Rehearsals that share a state directory.

A rehearsal appends a whole ledger numbered from one on, so the first that comes
that far in a directory without events is the only one that ever succeeds there.
What it printed stays the receipt of the directory.
-/

namespace Runlane.Agent

open Calls LocalServerState

/-- One call of the command. -/
structure RehearsalCall where
  native : NativeBackend
  run : CollectorCommand → Except String CommandOutput
  options : DogfoodOptions

def RehearsalCall.Rehearses (c : RehearsalCall) : Prop :=
  Agent.Rehearses c.native c.run c.options

def rehearse (texts : DogfoodTexts) (io : StateIo) (c : RehearsalCall) :
    Dogfood DogfoodReport :=
  runDogfoodServiceUnhealthy texts io c.native c.run c.options

/-- What a directory that held a ledger holds after the calls. -/
inductive Holds (start : AuditLedger) (calls : List RehearsalCall) : AuditLedger → Prop where
  | occupied (some : start.events ≠ []) : Holds start calls start
  | untouched (none : ∀ c ∈ calls, ¬ c.Rehearses) : Holds start calls start
  | recorded {before after : List RehearsalCall} {c : RehearsalCall}
      (split : calls = before ++ c :: after) (empty : start.events = [])
      (first : ∀ earlier ∈ before, ¬ earlier.Rehearses) (rehearses : c.Rehearses) :
      Holds start calls c.options.ledger

theorem eq_of_first {α : Type} {p : α → Prop} {before before' after after' : List α} {a a' : α}
    (split : before ++ a :: after = before' ++ a' :: after') (first : ∀ b ∈ before, ¬ p b)
    (first' : ∀ b ∈ before', ¬ p b) (found : p a) (found' : p a') : a = a' := by
  induction before generalizing before' with
  | nil =>
      cases before' with
      | nil => exact (List.cons.inj split).1
      | cons b before' =>
          obtain rfl := (List.cons.inj split).1
          exact absurd found (first' a List.mem_cons_self)
  | cons b before ih =>
      cases before' with
      | nil =>
          obtain rfl := (List.cons.inj split).1
          exact absurd found' (first b List.mem_cons_self)
      | cons b' before' =>
          exact ih (List.cons.inj split).2 (fun c member => first c (List.mem_cons_of_mem _ member))
            fun c member => first' c (List.mem_cons_of_mem _ member)

theorem DogfoodOptions.ledger_built (options : DogfoodOptions) : options.ledger.Built := by
  have start : AuditLedger.empty.Built := rfl
  exact start.recordAll options.events

theorem DogfoodOptions.ledger_some (options : DogfoodOptions) : options.ledger.events ≠ [] := by
  obtain ⟨events, all, kinds, -⟩ := AuditLedger.events_recordAll .empty dogfoodEventId
    dogfoodRunId options.events
  rw [DogfoodOptions.ledger, all]
  rintro rfl
  cases kinds

section Directory

variable (texts : DogfoodTexts) {io : StateIo} {Writable : AuditEvent → Prop}
  (faithful : io.Faithful Writable)
include faithful

theorem call_rehearsed {state : DogfoodState} {ledger : AuditLedger} {c : RehearsalCall}
    (stored : Stores io Writable (some (state.file.getD "")) ledger)
    (writable : ∀ event ∈ c.options.ledger.events, Writable event) (rehearses : c.Rehearses)
    (empty : ledger.events = []) :
    ∃ report receipt, (call (rehearse texts io) state c).outcome = .ok report ∧
      generateOperatorReceipt dogfoodRunId c.options.ledger = .ok receipt ∧
      report.receiptText = receipt.renderText ∧
      Stores io Writable (call (rehearse texts io) state c).after.file c.options.ledger := by
  obtain ⟨receipt, generated⟩ := c.options.receipted
  obtain ⟨file, appended, holds⟩ := stored.appendLedger faithful (.open c.options.stateDir)
    c.options.ledger_built writable empty
  have ran := runDogfood_rehearsed texts io rehearses state generated
  simp only [Recorded, run_init_works faithful.works, appended] at ran
  have called : call (rehearse texts io) state c = _ := call_of_ok ran
  rw [called]
  exact ⟨_, receipt, rfl, generated, rfl, holds⟩

theorem call_stopped {state : DogfoodState} {ledger : AuditLedger} {c : RehearsalCall}
    (stored : Stores io Writable (some (state.file.getD "")) ledger)
    (stopped : ¬ (c.Rehearses ∧ ledger.events = [])) :
    (∃ error, (call (rehearse texts io) state c).outcome = .error error) ∧
      (call (rehearse texts io) state c).after.file.getD "" = state.file.getD "" := by
  by_cases rehearses : c.Rehearses
  · obtain ⟨receipt, generated⟩ := c.options.receipted
    obtain ⟨error, refused⟩ := stored.appendLedger_refused faithful (.open c.options.stateDir)
      c.options.ledger_built c.options.ledger_some fun empty => stopped ⟨rehearses, empty⟩
    have ran := runDogfood_rehearsed texts io rehearses state generated
    simp only [Recorded, run_init_works faithful.works, refused] at ran
    have called : call (rehearse texts io) state c = _ := call_of_error ran
    rw [called]
    exact ⟨⟨_, rfl⟩, rfl⟩
  · obtain ⟨error, commands, ran⟩ := runDogfood_refused texts io rehearses state
    have called : call (rehearse texts io) state c = _ := call_of_error ran
    rw [called]
    exact ⟨⟨_, rfl⟩, rfl⟩

omit texts faithful in
theorem stores_again {file : LedgerFile} {ledger : AuditLedger}
    (stored : Stores io Writable file ledger) :
    Stores io Writable (some (file.getD "")) ledger := by
  have content := stored.content
  rw [content] at stored ⊢
  exact stored

/-- What the directory holds follows the calls. -/
theorem Holds.call {state : DogfoodState} {start ledger : AuditLedger}
    {past : List RehearsalCall} {c : RehearsalCall} (holds : Holds start past ledger)
    (stored : Stores io Writable (some (state.file.getD "")) ledger)
    (writable : ∀ event ∈ c.options.ledger.events, Writable event) :
    ∃ next, Holds start (past ++ [c]) next ∧
      Stores io Writable
        (some ((Calls.call (rehearse texts io) state c).after.file.getD "")) next := by
  have kept (stopped : ¬ (c.Rehearses ∧ ledger.events = [])) :
      Stores io Writable
        (some ((Calls.call (rehearse texts io) state c).after.file.getD "")) ledger := by
    rw [(call_stopped texts faithful stored stopped).2]
    exact stored
  cases holds with
  | occupied some => exact ⟨start, .occupied some, kept fun both => some both.2⟩
  | untouched none =>
      by_cases both : c.Rehearses ∧ start.events = []
      · obtain ⟨-, -, -, -, -, later⟩ := call_rehearsed texts faithful stored writable both.1 both.2
        exact ⟨_, .recorded rfl both.2 none both.1, stores_again later⟩
      · refine ⟨start, ?_, kept both⟩
        by_cases rehearses : c.Rehearses
        · exact .occupied fun empty => both ⟨rehearses, empty⟩
        · refine .untouched ?_
          rw [List.forall_mem_append, List.forall_mem_singleton]
          exact ⟨none, rehearses⟩
  | @recorded before after earlier split empty first rehearses =>
      have longer : past ++ [c] = before ++ earlier :: (after ++ [c]) := by
        rw [split, List.append_assoc, List.cons_append]
      exact ⟨_, .recorded longer empty first rehearses,
        kept fun both => earlier.options.ledger_some both.2⟩

variable {state : DogfoodState} {start : AuditLedger}
  (stored : Stores io Writable (some (state.file.getD "")) start)
include stored

theorem holds_exec (calls : List RehearsalCall)
    (writable : ∀ c ∈ calls, ∀ event ∈ c.options.ledger.events, Writable event) :
    ∃ ledger, Holds start calls ledger ∧ Stores io Writable
      (some ((exec (rehearse texts io) state calls).file.getD "")) ledger := by
  refine exec_invariant_ops (I := fun past (state : DogfoodState) => ∃ ledger,
    Holds start past ledger ∧ Stores io Writable (some (state.file.getD "")) ledger) ?_
    ⟨start, .untouched nofun, stored⟩
  intro past state c listed held
  obtain ⟨ledger, holds, stored⟩ := held
  exact holds.call texts faithful stored (writable c listed)

/-- A rehearsal succeeds in a directory without events as the first that is let
through, and then only. -/
theorem rehearsal_succeeds_iff {before : List RehearsalCall} {c : RehearsalCall}
    (writable : ∀ other ∈ before ++ [c], ∀ event ∈ other.options.ledger.events, Writable event) :
    (∃ report, (call (rehearse texts io) (exec (rehearse texts io) state before) c).outcome =
        .ok report) ↔
      start.events = [] ∧ (∀ earlier ∈ before, ¬ earlier.Rehearses) ∧ c.Rehearses := by
  obtain ⟨earlier, ours⟩ := List.forall_mem_append.mp writable
  obtain ⟨ledger, holds, held⟩ := holds_exec texts faithful stored before earlier
  have succeeds : (∃ report, (call (rehearse texts io) (exec (rehearse texts io) state
      before) c).outcome = .ok report) ↔ c.Rehearses ∧ ledger.events = [] := by
    constructor
    · intro succeeded
      by_contra stopped
      obtain ⟨report, succeeded⟩ := succeeded
      obtain ⟨⟨error, failed⟩, -⟩ := call_stopped texts faithful held stopped
      cases succeeded.symm.trans failed
    · intro both
      obtain ⟨report, -, succeeded, -⟩ := call_rehearsed texts faithful held
        (ours c List.mem_cons_self) both.1 both.2
      exact ⟨report, succeeded⟩
  rw [succeeds]
  cases holds with
  | occupied some => exact ⟨fun both => absurd both.2 some, fun all => absurd all.1 some⟩
  | untouched none => exact ⟨fun both => ⟨both.2, none, both.1⟩, fun all => ⟨all.2.2, all.1⟩⟩
  | recorded split empty first rehearses =>
      refine ⟨fun both => absurd both.2 (DogfoodOptions.ledger_some _), fun all => ?_⟩
      refine absurd rehearses (all.2.1 _ ?_)
      rw [split]
      exact List.mem_append_right _ List.mem_cons_self

end Directory

/-- However many rehearsals share a state directory, the ledger it ends with is the
one it held, or that of the one rehearsal that succeeds, the first that is let
through; and what this one printed is the receipt that is rendered from the
directory at the end. -/
theorem rehearsals_record_once (texts : DogfoodTexts) {io : StateIo}
    {Writable : AuditEvent → Prop} (faithful : io.Faithful Writable) (dir : String)
    (state : DogfoodState) {start : AuditLedger}
    (stored : Stores io Writable (some (state.file.getD "")) start)
    (calls : List RehearsalCall)
    (writable : ∀ c ∈ calls, ∀ event ∈ c.options.ledger.events, Writable event) :
    let final := some ((exec (rehearse texts io) state calls).file.getD "")
    (∃ ledger, Holds start calls ledger ∧ Refines io Writable (.open dir) final ledger) ∧
    ∀ before c after, calls = before ++ c :: after →
      let made := call (rehearse texts io) (exec (rehearse texts io) state before) c
      ((∃ report, made.outcome = .ok report) ↔
        start.events = [] ∧ (∀ earlier ∈ before, ¬ earlier.Rehearses) ∧ c.Rehearses) ∧
      ∀ report, made.outcome = .ok report → ∃ receipt,
        renderReceipt io (.open dir) dogfoodRunId final = .ok receipt ∧
        report.receiptText = receipt.renderText := by
  intro final
  obtain ⟨ledger, holds, held⟩ := holds_exec texts faithful stored calls writable
  refine ⟨⟨ledger, holds, held.refines faithful (.open dir)⟩, ?_⟩
  intro before c after split made
  have written : ∀ other ∈ before ++ [c], ∀ event ∈ other.options.ledger.events,
      Writable event := by
    intro other listed
    refine writable other ?_
    rw [split, List.append_cons]
    exact List.mem_append_left _ listed
  have succeeds := rehearsal_succeeds_iff texts faithful stored written
  refine ⟨succeeds, ?_⟩
  intro report succeeded
  obtain ⟨empty, first, rehearses⟩ := succeeds.mp ⟨report, succeeded⟩
  have listed : c ∈ calls := by
    rw [split]
    exact List.mem_append_right _ List.mem_cons_self
  have ours : ledger = c.options.ledger := by
    cases holds with
    | occupied some => exact absurd empty some
    | untouched none => exact absurd rehearses (none c listed)
    | recorded other _ first' rehearses' =>
        rw [eq_of_first (other.symm.trans split) first' first rehearses' rehearses]
  obtain ⟨earlier, holding, before_held⟩ := holds_exec texts faithful stored before
    (List.forall_mem_append.mp written).1
  have none : earlier.events = [] := by
    cases holding with
    | occupied some => exact absurd empty some
    | untouched => exact empty
    | recorded other _ _ rehearses' =>
        refine absurd rehearses' (first _ ?_)
        rw [other]
        exact List.mem_append_right _ List.mem_cons_self
  obtain ⟨printed, receipt, same, generated, text, -⟩ :=
    call_rehearsed texts faithful before_held (writable c listed) rehearses none
  cases succeeded.symm.trans same
  refine ⟨receipt, ?_, text⟩
  rw [(held.refines faithful (.open dir)).receipts, ours, generated]
  rfl

def tierYaml : VerificationTier → String
  | .precondition => "Precondition"
  | .directImpact => "DirectImpact"
  | .dependent => "Dependent"
  | .broadRegression => "BroadRegression"

def checkYaml (check : VerificationCheck) : String :=
  s!"    - id: {check.id}\n      resource_id: {check.resourceId}\n" ++
    s!"      tier: {tierYaml check.tier}\n"

def skippedYaml (skipped : SkippedVerification) : String :=
  s!"    - check_id: {skipped.checkId}\n      reason: {skipped.reason}\n"

/-- The kinds of events that a rehearsal records. -/
def kindYaml : AuditEventKind → Option String
  | .incidentCreated incidentId nodeId runbook => some
      s!"!IncidentCreated\n  incident_id: {incidentId}\n  node_id: {nodeId}\n  runbook: {runbook}\n"
  | .evidenceCollected source => some s!"!EvidenceCollected\n  source: {source}\n"
  | .proposalGenerated proposalId hypothesis => some
      s!"!ProposalGenerated\n  proposal_id: {proposalId}\n  hypothesis: {hypothesis}\n"
  | .approvalRequested approvalId proposalId actionId => some
      (s!"!ApprovalRequested\n  approval_id: {approvalId}\n  proposal_id: {proposalId}\n" ++
        s!"  action_id: {actionId}\n")
  | .approvalDecision approvalId actor .approved => some
      s!"!ApprovalDecision\n  approval_id: {approvalId}\n  actor: {actor}\n  outcome: Approved\n"
  | .capabilityLeaseIssued leaseId approvalId => some
      s!"!CapabilityLeaseIssued\n  lease_id: {leaseId}\n  approval_id: {approvalId}\n"
  | .resourceLeaseGranted leaseId resourceId .exclusive => some
      (s!"!ResourceLeaseGranted\n  lease_id: {leaseId}\n  resource_id: {resourceId}\n" ++
        "  mode: Exclusive\n")
  | .actionResult action target status => some
      (s!"!ActionResult\n  action: {action.debug}\n  target:\n" ++
        s!"    resource_id: {target.resourceId}\n    subject: {target.subject}\n" ++
        s!"  status: {status.debug}\n")
  | .verificationSelected ⟨required, [], skipped⟩ => some
      ("!VerificationSelected\n  plan:\n    required:\n" ++ String.join (required.map checkYaml) ++
        "    conditional: []\n    skipped:\n" ++ String.join (skipped.map skippedYaml))
  | .verificationCompleted checkId resourceId => some
      s!"!VerificationCompleted\n  check_id: {checkId}\n  resource_id: {resourceId}\n"
  | .verificationSkipped skipped => some
      (s!"!VerificationSkipped\n  skipped:\n    check_id: {skipped.checkId}\n" ++
        s!"    reason: {skipped.reason}\n")
  | .cognitiveReceiptGenerated receiptId => some
      s!"!CognitiveReceiptGenerated\n  receipt_id: {receiptId}\n"
  | _ => none

def eventYaml (event : AuditEvent) : String × Except String Unit :=
  match kindYaml event.kind with
  | some kind =>
      (s!"id: {event.id}\nrun_id: {event.runId}\nsequence: {event.sequence}\nkind: {kind}", .ok ())
  | none => ("", .error "not an event of a rehearsal")

def documentYaml (event : AuditEvent) : String :=
  (eventYaml event).1 ++ "\n"

def streamYaml (events : List AuditEvent) : String :=
  String.join (events.map fun event => "---\n" ++ documentYaml event)

/-- Writes events as YAML, and reads what is written of the events of a list. -/
def listedYaml (listed : List AuditEvent) : SerdeYaml where
  toWriter := eventYaml
  documents content :=
    match listed.inits.find? fun events => streamYaml events = content with
    | some events => events.map documentYaml
    | none => []
  deserialize text :=
    match listed.find? fun event => documentYaml event = text with
    | some event => .ok event
    | none => .error "not one of the events"

/-- The ledgers made of the events of a ledger are its beginnings. -/
theorem prefix_of_built {ledger whole : AuditLedger} (built : ledger.Built)
    (numbered : whole.Built) (sample : ∀ event ∈ ledger.events, event ∈ whole.events) :
    ledger.events <+: whole.events := by
  have place {l : AuditLedger} (built : l.Built) {i : Nat} {event : AuditEvent}
      (found : l.events[i]? = some event) : event.sequence = 1 + i := by
    have sequence := congrArg (·[i]?) built.sequences
    obtain ⟨bound, rfl⟩ := List.getElem?_eq_some_iff.mp found
    simpa [bound] using sequence
  rw [List.prefix_iff_getElem?]
  intro i bound
  have here : ledger.events[i]? = some ledger.events[i] := List.getElem?_eq_getElem bound
  obtain ⟨j, there⟩ := List.mem_iff_getElem?.mp (sample _ (List.getElem_mem bound))
  obtain rfl : j = i := Nat.add_left_cancel ((place numbered there).symm.trans (place built here))
  exact there

theorem streamYaml_longer {events longer : List AuditEvent} (start : events <+: longer)
    (same : streamYaml events = streamYaml longer) : events = longer := by
  obtain ⟨rest, rfl⟩ := start
  cases rest with
  | nil => rw [List.append_nil]
  | cons event rest =>
      have sizes := congrArg String.length same
      simp [streamYaml, String.join_append, String.join_cons] at sizes

theorem listedYaml_faithful {whole : AuditLedger} (numbered : whole.Built)
    (written : ∀ event ∈ whole.events, (eventYaml event).2 = .ok ())
    (reads : ∀ event ∈ whole.events,
      (listedYaml whole.events).deserialize (documentYaml event) = .ok event) :
    (listedYaml whole.events).Faithful (· ∈ whole.events) where
  written := written
  reads := reads
  splits := by
    intro ledger built sample
    have start := prefix_of_built built numbered sample
    change (match whole.events.inits.find? fun events =>
      streamYaml events = streamYaml ledger.events with
      | some events => events.map documentYaml
      | none => []) = ledger.events.map documentYaml
    cases found : whole.events.inits.find? fun events =>
        decide (streamYaml events = streamYaml ledger.events) with
    | none =>
        have none := List.find?_eq_none.mp found ledger.events ((List.mem_inits _ _).mpr start)
        exact absurd (decide_eq_true rfl) none
    | some events =>
        have same : streamYaml events = streamYaml ledger.events :=
          of_decide_eq_true (by simpa using List.find?_some found)
        have listed := (List.mem_inits _ _).mp (List.mem_of_find?_eq_some found)
        refine congrArg (List.map documentYaml) ?_
        cases List.prefix_or_prefix_of_prefix listed start with
        | inl shorter => exact streamYaml_longer shorter same
        | inr longer => exact (streamYaml_longer longer same.symm).symm

def sshdOptions : DogfoodOptions := ⟨"sshd", "/var/lib/runlane", "web-1"⟩

def serviceFailed : CommandOutput := ⟨true, some 0, "ActiveState=failed\n", ""⟩

def noEntries : CommandOutput := ⟨true, some 0, "no entries\n", ""⟩

/-- A host on which the service has failed. -/
def failedHost (command : CollectorCommand) : Except String CommandOutput :=
  if command.program = "systemctl" then .ok serviceFailed else .ok noEntries

def sshdRehearsal : RehearsalCall := ⟨.linux, failedHost, sshdOptions⟩

def silentTexts : DogfoodTexts :=
  ⟨fun _ => "", fun _ => "", fun _ => "", fun _ => "", fun _ => "", fun _ => "", fun _ => ""⟩

def sshdVerification : VerificationPlan where
  required := [
    ⟨"helper_result_matches_request", "system:node/web-1/service/sshd", .directImpact⟩,
    ⟨"service_active", "system:node/web-1/service/sshd", .directImpact⟩]
  conditional := []
  skipped := [
    ⟨"package_audit",
      "service-unhealthy restart mutates only the service resource, not package-db"⟩,
    ⟨"firewall_audit",
      "service-unhealthy restart mutates only the service resource, not firewall rules"⟩]

theorem sshd_verification : sshdOptions.verification = sshdVerification := by
  have plain : ∀ name ∈ ["web-1", "sshd"], ¬ name.contains "package-db" = true := by
    simp only [String.contains_string_iff]
    decide
  have route := sshdOptions.request.route
  rw [if_neg fun named => named.elim (plain _ (by decide)) (plain _ (by decide))] at route
  have planned : VerificationPolicy.minimal.plan .serviceRestart sshdOptions.request.impact =
      planGenericServiceChange .serviceRestart sshdOptions.request.impact := by
    rw [VerificationPolicy.plan_eq_route, route]
    rfl
  rw [DogfoodOptions.verification, ServiceUnhealthyRunbookRequest.verification, planned]
  rfl

/-- The events of the sample, with the verification that is planned for it. -/
def sshdEvents : List AuditEventKind :=
  sshdOptions.opening ++ DogfoodOptions.observations ++
    ([.proposalGenerated "proposal-real-host-service-unhealthy" sshdOptions.hypothesis] ++
      sshdOptions.approval ++ [.actionResult .serviceRestart sshdOptions.target .succeeded] ++
      ([.verificationSelected sshdVerification] ++
        (sshdVerification.required.map fun check =>
          .verificationCompleted check.id check.resourceId) ++
        sshdVerification.skipped.map .verificationSkipped)) ++
    [.cognitiveReceiptGenerated "receipt-real-host-service-unhealthy"]

def sshdLedger : AuditLedger :=
  AuditLedger.empty.recordAll dogfoodEventId dogfoodRunId sshdEvents

theorem sshd_ledger : sshdOptions.ledger = sshdLedger := by
  rw [DogfoodOptions.ledger, DogfoodOptions.events, DogfoodOptions.authorisation,
    DogfoodOptions.verified, sshd_verification]
  rfl

theorem sshdYaml_faithful : (listedYaml sshdLedger.events).Faithful (· ∈ sshdLedger.events) := by
  have numbered : sshdLedger.Built := by
    rw [← sshd_ledger]
    exact sshdOptions.ledger_built
  refine listedYaml_faithful numbered ?_ ?_
  · decide +kernel
  · decide +kernel

/-- A state directory for the events of the sample in which every call works. -/
def sshdIo : StateIo :=
  .sound (listedYaml sshdLedger.events)

theorem sshdIo_faithful : sshdIo.Faithful (· ∈ sshdLedger.events) where
  toFaithful := sshdYaml_faithful
  works := fun _ _ => rfl

theorem failedHost_allows : ∀ output ∈ [serviceFailed, noEntries],
    output.success = true ∧ output.body.isEmpty = false ∧ output.Allows := by
  have printed : ∀ output ∈ [serviceFailed, noEntries],
      output.success = true ∧ output.body.isEmpty = false := by
    decide +kernel
  have shown : ∀ output ∈ [serviceFailed, noEntries], ∀ marker ∈ activeMarkers ++
      unsupportedMarkers, ¬ marker.toList <:+: lowercase output.body := by
    decide +kernel
  intro output listed
  have none {markers : List String} (known : markers ⊆ activeMarkers ++ unsupportedMarkers) :
      output.shows markers = false := by
    rw [← Bool.not_eq_true, CommandOutput.shows, showsAny_iff]
    intro found
    obtain ⟨marker, member, found⟩ := found
    exact shown output listed marker (known member) found
  exact ⟨(printed output listed).1, (printed output listed).2,
    none (List.subset_append_left _ _), none (List.subset_append_right _ _)⟩

theorem sshd_rehearses : sshdRehearsal.Rehearses := by
  have valid : IsServiceName "sshd" := ⟨by decide +kernel, by decide, by decide, by decide⟩
  refine ⟨rfl, valid, ?_, by decide⟩
  intro spec _
  change ∃ output, failedHost _ = .ok output ∧ _
  unfold failedHost
  split
  · exact ⟨_, rfl, failedHost_allows _ List.mem_cons_self⟩
  · exact ⟨_, rfl, failedHost_allows _ (List.mem_cons_of_mem _ List.mem_cons_self)⟩

/-- Two rehearsals in a new directory: the first succeeds, and its receipt is the one
that is rendered afterwards. -/
theorem rehearsals_record_once_sshd :
    let perform := rehearse silentTexts sshdIo
    let final := some ((exec perform ⟨[], none⟩ [sshdRehearsal, sshdRehearsal]).file.getD "")
    (∃ report receipt, (call perform ⟨[], none⟩ sshdRehearsal).outcome = .ok report ∧
      renderReceipt sshdIo (.open "/var/lib/runlane") dogfoodRunId final =
        .ok receipt ∧ report.receiptText = receipt.renderText) ∧
    ¬ ∃ report, (call perform (exec perform ⟨[], none⟩ [sshdRehearsal]) sshdRehearsal).outcome =
      .ok report := by
  intro perform final
  have stored : Stores sshdIo (· ∈ sshdLedger.events)
      (some ((none : LedgerFile).getD "")) .empty :=
    ⟨rfl, rfl, nofun⟩
  have writable : ∀ c ∈ [sshdRehearsal, sshdRehearsal], ∀ event ∈ c.options.ledger.events,
      event ∈ sshdLedger.events := by
    simp only [List.forall_mem_cons, sshdRehearsal, sshd_ledger]
    exact ⟨fun _ => id, fun _ => id, nofun⟩
  obtain ⟨-, outcomes⟩ := rehearsals_record_once silentTexts sshdIo_faithful "/var/lib/runlane"
    ⟨[], none⟩ stored [sshdRehearsal, sshdRehearsal] writable
  obtain ⟨succeeds, printed⟩ := outcomes [] sshdRehearsal [sshdRehearsal] rfl
  obtain ⟨report, succeeded⟩ := succeeds.mpr ⟨rfl, nofun, sshd_rehearses⟩
  obtain ⟨receipt, rendered, text⟩ := printed report succeeded
  refine ⟨⟨report, receipt, succeeded, rendered, text⟩, ?_⟩
  intro again
  obtain ⟨-, first, -⟩ := (outcomes [sshdRehearsal] sshdRehearsal [] rfl).1.mp again
  exact first sshdRehearsal List.mem_cons_self sshd_rehearses

end Runlane.Agent
