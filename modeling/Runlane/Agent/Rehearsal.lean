import Runlane.Agent.Dogfood
import Runlane.Approval.Authorisation
import Runlane.Planner.RestartVerification
import Runlane.Receipt.Backing

/-!
What a rehearsal records.

A rehearsal comes to its receipt exactly when the host gives evidence of every kind
with nothing in it against a restart and the node's id has no slash. Its ledger is
then a function of the options alone. Nothing that a command printed is in it.
-/

namespace Runlane.Agent

open Fallible Journal ApprovalStore

namespace DogfoodOptions

variable (options : DogfoodOptions)

def request : ServiceUnhealthyRunbookRequest :=
  ⟨dogfoodRunId, options.nodeId, options.serviceName⟩

def target : ActionTarget :=
  ⟨serviceResourceId options.nodeId options.serviceName, options.serviceName⟩

def verification : VerificationPlan :=
  (VerificationPolicy.minimal.plan .serviceRestart options.request.impact).withSkipped
    options.request.verification.skipped

def opening : List AuditEventKind :=
  [.incidentCreated dogfoodIncidentId options.nodeId "service-unhealthy"]

def hypothesis : String :=
  let service := options.serviceName
  let node := options.nodeId
  s!"{service} appears unhealthy on {node}; restart is the typed recovery action"

def approval : List AuditEventKind := [
  .approvalRequested dogfoodApprovalId "proposal-real-host-service-unhealthy" "restart-service",
  .approvalDecision dogfoodApprovalId "real-host-dogfood-operator" .approved,
  .capabilityLeaseIssued s!"lease-{dogfoodApprovalId}" dogfoodApprovalId,
  .resourceLeaseGranted s!"lease-{dogfoodApprovalId}" options.target.resourceId .exclusive]

def verified : List AuditEventKind :=
  [.verificationSelected options.verification] ++
    (options.verification.required.map fun check =>
      .verificationCompleted check.id check.resourceId) ++
    options.verification.skipped.map .verificationSkipped

/-- The restart is proposed, approved, leased and validated, and verified as planned. -/
def authorisation : List AuditEventKind :=
  [.proposalGenerated "proposal-real-host-service-unhealthy" options.hypothesis] ++
    options.approval ++ [.actionResult .serviceRestart options.target .succeeded] ++
    options.verified

/-- One collector after another, whatever it found. -/
def observations : List AuditEventKind :=
  linuxBackend.collectorSpecs.map fun spec =>
    .evidenceCollected s!"collector:{spec.program}:{spec.kind.debug}"

def events : List AuditEventKind :=
  options.opening ++ observations ++ options.authorisation ++
    [.cognitiveReceiptGenerated "receipt-real-host-service-unhealthy"]

/-- All that a rehearsal records. -/
def ledger : AuditLedger :=
  AuditLedger.empty.recordAll dogfoodEventId dogfoodRunId options.events

end DogfoodOptions

section Steps

variable (texts : DogfoodTexts)

theorem appendDogfoodEvent_eq (ledger : AuditLedger) (runId : String) (kind : AuditEventKind) :
    appendDogfoodEvent texts ledger runId kind =
      .ok (ledger.recordAll dogfoodEventId runId [kind]) := by
  rw [appendDogfoodEvent, AuditLedger.append_next]
  rfl

theorem appendDogfoodEvents_eq (ledger : AuditLedger) (runId : String)
    (kinds : List AuditEventKind) :
    appendDogfoodEvents texts ledger runId kinds =
      .ok (ledger.recordAll dogfoodEventId runId kinds) := by
  unfold appendDogfoodEvents
  induction kinds generalizing ledger with
  | nil => rfl
  | cons kind kinds ih =>
      rw [List.foldlM_cons, appendDogfoodEvent_eq]
      exact ih _

/-- A native backend reports what the runbook requires on its operating system. -/
theorem NativeBackend.plans {native : NativeBackend} (known : native.backend.os ≠ .unknown)
    (request : ServiceUnhealthyRunbookRequest) :
    ∃ capabilities, nativeServiceCapabilities native.backend.os = some capabilities ∧
      planServiceUnhealthyRunbook request
        (native.backend.capabilityReport request.nodeId).toCapabilityReport =
          .ok (request.plan capabilities) := by
  simp only [planServiceUnhealthyRunbook_eq_ok, ← List.all_eq_true]
  cases native with
  | linux => exact ⟨_, rfl, rfl, _, rfl, rfl, rfl⟩
  | freeBsd => exact ⟨_, rfl, rfl, _, rfl, rfl, rfl⟩
  | openBsd => exact ⟨_, rfl, rfl, _, rfl, rfl, rfl⟩
  | unknown => exact absurd rfl known

theorem planDogfoodRunbook_linux (options : DogfoodOptions) :
    ∃ capabilities, planDogfoodRunbook texts .linux dogfoodRunId options =
      .ok (options.request.plan capabilities) := by
  have known : NativeBackend.linux.backend.os ≠ .unknown := by decide
  obtain ⟨capabilities, -, planned⟩ := NativeBackend.plans known options.request
  exact ⟨capabilities, mapError_eq_ok.mpr planned⟩

theorem dogfoodRestartTask_plan (options : DogfoodOptions)
    (capabilities : ServiceUnhealthyCapabilities) :
    dogfoodRestartTask (options.request.plan capabilities) =
      .ok (options.request.restartService capabilities) :=
  rfl

/-- The evidence with what the ledger says of it. -/
def observed (ledger : AuditLedger) (runId : String) (evidence : List EvidenceEnvelope) :
    List EvidenceEnvelope × AuditLedger :=
  (evidence, ledger.recordAll dogfoodEventId runId
    (evidence.map fun envelope => .evidenceCollected envelope.source))

/-- Collecting for a rehearsal is the smoke test with the ledger kept beside it. -/
theorem collectDogfoodEvidence_eq {native : NativeBackend}
    (known : native.backend.os ≠ .unknown)
    (run : CollectorCommand → Except String CommandOutput) (serviceName : String)
    (ledger : AuditLedger) (runId : String) :
    collectDogfoodEvidence texts native run serviceName ledger runId =
      observed ledger runId <$> runCollectSmoke native run serviceName := by
  rw [runCollectSmoke, if_neg known]
  refine foldlM_image (observed ledger runId) ?_ serviceUnhealthyCollectorKinds []
  intro evidence kind
  rw [observeKind, map_bind]
  congr 1
  funext envelope
  rw [observed, appendDogfoodEvent_eq, map_pure, observed, List.map_append,
    AuditLedger.recordAll_append]
  rfl

def DogfoodOptions.proposal (options : DogfoodOptions) (evidence : List EvidenceEnvelope) :
    StructuredProposal :=
  (assessService options.nodeId options.serviceName false true false).proposal
    "proposal-real-host-service-unhealthy" evidence

theorem analyzeServiceUnhealthy_restart {proposalId nodeId service : String}
    {evidence : List EvidenceEnvelope}
    (restart : (analyzeServiceUnhealthy proposalId nodeId service evidence).kinds =
      [.serviceRestart]) :
    analyzeServiceUnhealthy proposalId nodeId service evidence =
      (assessService nodeId service false true false).proposal proposalId evidence := by
  unfold analyzeServiceUnhealthy at restart ⊢
  dsimp only at restart ⊢
  generalize showsAny activeMarkers (normalizedEvidence evidence) = active at restart ⊢
  generalize showsAny unhealthyMarkers (normalizedEvidence evidence) = unhealthy at restart ⊢
  generalize showsAny unsupportedMarkers (normalizedEvidence evidence) = unsupported at restart ⊢
  cases unsupported with
  | true => cases restart
  | false =>
      cases unhealthy with
      | false => cases active <;> cases restart
      | true =>
          cases active with
          | true => cases restart
          | false => rfl

theorem proposalHasServiceRestart_iff {proposalId nodeId service : String}
    {evidence : List EvidenceEnvelope} :
    proposalHasServiceRestart (analyzeServiceUnhealthy proposalId nodeId service evidence) = true ↔
      (analyzeServiceUnhealthy proposalId nodeId service evidence).kinds = [.serviceRestart] := by
  obtain ⟨action, single, -⟩ := analyzeServiceUnhealthy_action proposalId nodeId evidence service
  simp only [proposalHasServiceRestart, StructuredProposal.kinds, single, List.any_cons,
    List.any_nil, Bool.or_false, decide_eq_true_eq, List.map_cons, List.map_nil,
    List.cons.injEq, and_true]

section Propose

variable {options : DogfoodOptions} {evidence : List EvidenceEnvelope}

theorem buildDogfoodProposal_restart (ledger : AuditLedger) (runId : String)
    (restart : (analyzeServiceUnhealthy "proposal-real-host-service-unhealthy" options.nodeId
      options.serviceName evidence).kinds = [.serviceRestart]) :
    buildDogfoodProposal texts ledger runId options evidence =
      .ok (options.proposal evidence, ledger.recordAll dogfoodEventId runId
        [.proposalGenerated "proposal-real-host-service-unhealthy" options.hypothesis]) := by
  obtain ⟨-, -, -, valid, -⟩ := analyzeServiceUnhealthy_action
    "proposal-real-host-service-unhealthy" options.nodeId evidence options.serviceName
  rw [buildDogfoodProposal, valid, proposalHasServiceRestart_iff.mpr restart,
    analyzeServiceUnhealthy_restart restart, appendDogfoodEvent_eq]
  rfl

theorem buildDogfoodProposal_refused (ledger : AuditLedger) (runId : String)
    (other : (analyzeServiceUnhealthy "proposal-real-host-service-unhealthy" options.nodeId
      options.serviceName evidence).kinds ≠ [.serviceRestart]) :
    ∃ error, buildDogfoodProposal texts ledger runId options evidence = .error error := by
  obtain ⟨-, -, -, valid, -⟩ := analyzeServiceUnhealthy_action
    "proposal-real-host-service-unhealthy" options.nodeId evidence options.serviceName
  have unrestarted := mt proposalHasServiceRestart_iff.mp other
  rw [Bool.not_eq_true] at unrestarted
  rw [buildDogfoodProposal, valid, unrestarted]
  exact ⟨_, rfl⟩

end Propose

/-- The record that is approved. -/
def DogfoodOptions.record (options : DogfoodOptions) (evidence : List EvidenceEnvelope) :
    ApprovalRecord where
  id := dogfoodApprovalId
  runId := dogfoodRunId
  proposalId := "proposal-real-host-service-unhealthy"
  actionId := "restart-service"
  action := .serviceRestart
  layer := .system
  target := options.target
  impact := options.request.impact
  leaseRequest := ⟨options.target.resourceId, .exclusive,
    "service-unhealthy analyzer proposed serialized restart"⟩
  verification := options.request.verification
  evidenceReferences := evidence.map fun envelope => envelope.source
  state := .pending
  requestedAtUnixSeconds := dogfoodRequestedAt
  expiresAtUnixSeconds := dogfoodExpiresAt

def DogfoodOptions.claims (options : DogfoodOptions) (evidence : List EvidenceEnvelope)
    (entry : String) : CapabilityLeaseClaims :=
  leaseClaims dogfoodApprovalId (options.record evidence) .serviceRestart entry
    "real-host-dogfood-lease-nonce"

section Approve

variable {options : DogfoodOptions} {evidence : List EvidenceEnvelope}

theorem record_new (capabilities : ServiceUnhealthyCapabilities) :
    ApprovalRecord.new dogfoodApprovalId dogfoodRunId (options.proposal evidence)
        "restart-service" .system options.serviceName
        (options.request.restartService capabilities).impact
        (options.request.restartService capabilities).verification dogfoodRequestedAt
        dogfoodExpiresAt =
      some (options.record evidence) :=
  rfl

theorem leaseDogfoodRestart_eq (ledger : AuditLedger) (entry : String) :
    leaseDogfoodRestart texts ledger dogfoodRunId (options.record evidence) entry =
      .ok (options.claims evidence entry,
        ledger.recordAll dogfoodEventId dogfoodRunId options.approval) := by
  have asked : (request (options.record evidence)).run empty =
      .ok () (empty.requested (options.record evidence)) := rfl
  have unexpired : dogfoodApprovedAt < dogfoodExpiresAt := by decide
  have approves : Approves (empty.requested (options.record evidence)) dogfoodApprovalId
      "restart-service" dogfoodApprovedAt (options.record evidence) .serviceRestart :=
    ⟨⟨rfl, rfl⟩, unexpired, rfl, rfl⟩
  have granted := approve_run approves "real-host-dogfood-operator" entry
    "real-host-dogfood-lease-nonce"
  simp only [leaseDogfoodRestart, bind_eq_ok]
  refine ⟨((), _), by rw [approvalCall, asked], (_, _), by rw [approvalCall, granted], _,
    appendDogfoodEvents_eq texts _ _ _, _, appendDogfoodEvent_eq texts _ _ _, _,
    appendDogfoodEvent_eq texts _ _ _, ?_⟩
  rfl

theorem approveDogfoodRestart_eq (ledger : AuditLedger)
    (capabilities : ServiceUnhealthyCapabilities) (entry : String) :
    approveDogfoodRestart texts ledger dogfoodRunId (options.proposal evidence)
        (options.request.restartService capabilities) options.serviceName entry =
      .ok (options.claims evidence entry,
        ledger.recordAll dogfoodEventId dogfoodRunId options.approval) := by
  rw [approveDogfoodRestart, record_new]
  exact mapError_eq_ok.mpr (leaseDogfoodRestart_eq texts ledger entry)

theorem nodeFromTarget_no_slash (resourceId : String) :
    '/' ∉ (nodeFromTarget resourceId).toList := by
  unfold nodeFromTarget
  split
  next rest _ =>
    rw [String.toList_ofList]
    intro slash
    simpa using List.mem_takeWhile_imp slash
  next => decide

/-- The helper compares its node with what it reads off the target. -/
theorem validateDogfoodHelper_eq_ok {ledger next : AuditLedger} {entry : String} :
    validateDogfoodHelper texts ledger dogfoodRunId (options.claims evidence entry) options entry =
        .ok next ↔
      '/' ∉ options.nodeId.toList ∧ ledger.recordAll dogfoodEventId dogfoodRunId
        [.actionResult .serviceRestart options.target .succeeded] = next := by
  have home : (options.record evidence).target.resourceId =
      "system:node/" ++ options.nodeId ++ "/" ++ ("service/" ++ options.serviceName) := by
    change "system:node/" ++ options.nodeId ++ "/service/" ++ options.serviceName = _
    simp only [String.append_assoc]
    rfl
  simp only [validateDogfoodHelper, bind_eq_ok, mapError_eq_ok, appendDogfoodEvent_eq,
    validateHelperRequest_eq_ok]
  constructor
  · intro validated
    obtain ⟨_, ⟨checks, -⟩, appended⟩ := validated
    have node : nodeFromTarget (options.record evidence).target.resourceId = options.nodeId :=
      checks.node
    exact ⟨node ▸ nodeFromTarget_no_slash _, Except.ok.inj appended⟩
  · intro validated
    obtain ⟨simple, rfl⟩ := validated
    let request : HelperActionRequest := ⟨s!"lease-{dogfoodApprovalId}", .serviceRestart,
      options.target, [⟨"service", options.serviceName⟩]⟩
    let context : HelperValidationContext := ⟨options.nodeId, dogfoodApprovedAt, .valid, [],
      ⟨[⟨entry, .serviceRestart, options.target.resourceId⟩]⟩⟩
    have unexpired : dogfoodApprovedAt < dogfoodExpiresAt := by decide
    have approved : AsApproved (options.record evidence) options.nodeId entry
        "real-host-dogfood-lease-nonce" request context :=
      ⟨rfl, rfl, rfl, rfl, unexpired, nofun, _, List.mem_singleton.mpr rfl, rfl, rfl, rfl⟩
    have checks : HelperChecks request ⟨options.claims evidence entry, "real-host-dogfood-key",
        "real-host-dogfood-signature"⟩ context ∧ _ :=
      (helperChecks_leaseClaims rfl home simple rfl).mpr approved
    exact ⟨_, ⟨checks.1, checks.2, rfl⟩, rfl⟩

end Approve

variable {options : DogfoodOptions} {evidence : List EvidenceEnvelope}

theorem recordDogfoodVerification_eq (ledger : AuditLedger)
    (capabilities : ServiceUnhealthyCapabilities) :
    recordDogfoodVerification texts ledger dogfoodRunId
        (options.request.restartService capabilities) =
      .ok (ledger.recordAll dogfoodEventId dogfoodRunId options.verified) := by
  simp only [recordDogfoodVerification, appendDogfoodEvent_eq, appendDogfoodEvents_eq,
    DogfoodOptions.verified, AuditLedger.recordAll_append]
  rfl

/-- The analysis asks for a restart, on a node that the helper can tell. -/
def DogfoodOptions.Restarts (options : DogfoodOptions) (evidence : List EvidenceEnvelope) : Prop :=
  (analyzeServiceUnhealthy "proposal-real-host-service-unhealthy" options.nodeId
    options.serviceName evidence).kinds = [.serviceRestart] ∧ '/' ∉ options.nodeId.toList

theorem authoriseDogfoodRestart_eq (capabilities : ServiceUnhealthyCapabilities)
    (ledger : AuditLedger) (restarts : options.Restarts evidence) :
    authoriseDogfoodRestart texts options (options.request.plan capabilities) evidence ledger =
      .ok (ledger.recordAll dogfoodEventId dogfoodRunId options.authorisation) := by
  obtain ⟨restart, simple⟩ := restarts
  simp only [authoriseDogfoodRestart, bind_eq_ok, mapError_eq_ok]
  refine ⟨(_, _), buildDogfoodProposal_restart texts _ _ restart, _,
    dogfoodRestartTask_plan _ _, (_, _), approveDogfoodRestart_eq texts _ _ _, _,
    (validateDogfoodHelper_eq_ok texts).mpr ⟨simple, rfl⟩, ?_⟩
  rw [recordDogfoodVerification_eq]
  simp only [DogfoodOptions.authorisation, AuditLedger.recordAll_append]

theorem authoriseDogfoodRestart_refused (capabilities : ServiceUnhealthyCapabilities)
    (ledger : AuditLedger) (other : ¬ options.Restarts evidence) :
    ∃ error, authoriseDogfoodRestart texts options (options.request.plan capabilities) evidence
      ledger = .error (.failed error) := by
  unfold authoriseDogfoodRestart
  by_cases restart : (analyzeServiceUnhealthy "proposal-real-host-service-unhealthy"
      options.nodeId options.serviceName evidence).kinds = [.serviceRestart]
  · have proposed := buildDogfoodProposal_restart texts ledger dogfoodRunId restart
    cases validated : validateDogfoodHelper texts ((ledger.recordAll dogfoodEventId dogfoodRunId
        [.proposalGenerated "proposal-real-host-service-unhealthy"
          options.hypothesis]).recordAll dogfoodEventId dogfoodRunId options.approval)
        dogfoodRunId (options.claims evidence s!"allow-{options.serviceName}-restart") options
        s!"allow-{options.serviceName}-restart" with
    | ok next => exact absurd ⟨restart, ((validateDogfoodHelper_eq_ok texts).mp validated).1⟩ other
    | error error =>
        refine ⟨error, bind_eq_error.mpr (.inr ⟨(_, _), mapError_eq_ok.mpr proposed,
          bind_eq_error.mpr (.inr ⟨_, mapError_eq_ok.mpr (dogfoodRestartTask_plan _ _),
            bind_eq_error.mpr (.inr ⟨(_, _), approveDogfoodRestart_eq texts _ _ _,
              bind_eq_error.mpr (.inl ?_)⟩)⟩)⟩)⟩
        rw [validated]
        rfl
  · obtain ⟨error, refused⟩ := buildDogfoodProposal_refused texts ledger dogfoodRunId restart
    rw [refused]
    exact ⟨error, rfl⟩

theorem DogfoodOptions.ledger_eventsOf (options : DogfoodOptions) :
    options.ledger.eventsOf dogfoodRunId = options.events :=
  AuditLedger.eventsOf_recordAll _ _ _

/-- A rehearsal leaves no section of its receipt without an event. -/
theorem DogfoodOptions.events_complete (options : DogfoodOptions) : Complete options.events := by
  have opened : options.opening ⊆ options.events := by
    intro kind member
    simp only [DogfoodOptions.events, List.mem_append]
    exact .inl (.inl (.inl member))
  have authorised : options.authorisation ⊆ options.events := by
    intro kind member
    simp only [DogfoodOptions.events, List.mem_append]
    exact .inl (.inr member)
  have approved : options.approval ⊆ options.authorisation := by
    intro kind member
    simp only [DogfoodOptions.authorisation, List.mem_append]
    exact .inl (.inl (.inr member))
  have verified : options.verified ⊆ options.authorisation := by
    intro kind member
    simp only [DogfoodOptions.authorisation, List.mem_append]
    exact .inr member
  obtain ⟨check, required⟩ := List.exists_mem_of_ne_nil _
    (VerificationPolicy.minimal.plan_required .serviceRestart options.request.impact)
  refine ⟨⟨_, _, _, opened List.mem_cons_self⟩, ?_, ?_, ?_, ?_, ?_, ?_⟩
  · refine ⟨"collector:systemctl:ServiceStatus", ?_⟩
    simp only [DogfoodOptions.events, List.mem_append]
    exact .inl (.inl (.inr List.mem_cons_self))
  · exact ⟨_, _, authorised List.mem_cons_self⟩
  · refine ⟨s!"lease-{dogfoodApprovalId}", dogfoodApprovalId, authorised (approved ?_)⟩
    simp [DogfoodOptions.approval]
  · refine ⟨.serviceRestart, options.target, .succeeded, authorised ?_⟩
    simp [DogfoodOptions.authorisation]
  · refine ⟨options.verification, authorised (verified ?_),
      VerificationPolicy.minimal.plan_required _ _⟩
    simp [DogfoodOptions.verified]
  · refine ⟨check.id, check.resourceId, authorised (verified ?_)⟩
    simp only [DogfoodOptions.verified, List.mem_append, List.mem_map]
    exact .inl (.inr ⟨check, required, rfl⟩)

theorem DogfoodOptions.receipted (options : DogfoodOptions) :
    ∃ receipt, generateOperatorReceipt dogfoodRunId options.ledger = .ok receipt := by
  rw [generateOperatorReceipt_isOk, options.ledger_eventsOf]
  exact options.events_complete

end Steps

theorem evidence_isOk {spec : CollectorSpec} {os : OperatingSystem} {name : ServiceName}
    {answer : Except String CommandOutput} :
    (∃ envelope, spec.evidence os name answer = .ok envelope) ↔
      ∃ output, answer = .ok output ∧ output.success = true ∧ output.body.isEmpty = false := by
  cases answer with
  | error reason => exact ⟨fun ⟨_, made⟩ => (nomatch made), fun ⟨_, printed, _⟩ => nomatch printed⟩
  | ok output =>
      simp only [CollectorSpec.evidence, ite_error_eq_ok, exists_and_left, Except.ok.injEq,
        exists_eq', and_true, exists_eq_left', Bool.not_eq_true, Bool.not_eq_eq_eq_not,
        Bool.not_true, Bool.not_eq_false]

theorem source_of_evidence {spec : CollectorSpec} {os : OperatingSystem} {name : ServiceName}
    {answer : Except String CommandOutput} {envelope : EvidenceEnvelope}
    (made : spec.evidence os name answer = .ok envelope) :
    envelope.source = s!"collector:{spec.program}:{spec.kind.debug}" := by
  cases answer with
  | error reason => cases made
  | ok output =>
      simp only [CollectorSpec.evidence, ite_error_eq_ok] at made
      rw [← Except.ok.inj made.2.2]
      rfl

/-- The host answers every collector, with nothing against a restart, and the helper
can tell the node. -/
structure Rehearses (native : NativeBackend) (run : CollectorCommand → Except String CommandOutput)
    (options : DogfoodOptions) : Prop where
  linux : native = .linux
  valid : IsServiceName options.serviceName
  answered : ∀ spec ∈ linuxBackend.collectorSpecs, ∃ output,
    run (spec.commandLine ⟨options.serviceName, valid⟩) = .ok output ∧ output.success = true ∧
      output.body.isEmpty = false ∧ output.Allows
  simple : '/' ∉ options.nodeId.toList

section Run

variable (texts : DogfoodTexts) (io : StateIo) {native : NativeBackend}
  {run : CollectorCommand → Except String CommandOutput} {options : DogfoodOptions}

theorem Dogfood.run_of_ok {α : Type} (a : α) (state : DogfoodState) :
    (Dogfood.of (.ok a)).run state = .ok a state :=
  rfl

theorem Dogfood.run_onHost {α : Type} {step : AgentRun α} {outcome : Except CliError α}
    {state : DogfoodState} {commands : List CollectorCommand}
    (ran : step.run state.commands = ended outcome commands) :
    (Dogfood.onHost step).run state = (Dogfood.of outcome).run { state with commands } := by
  rw [EStateM.run, Dogfood.onHost, ran]
  cases outcome with
  | ok a => rfl
  | error error => rfl

theorem Dogfood.run_onDisk {α : Type} (step : EStateM CliError LedgerFile α)
    (state : DogfoodState) :
    (Dogfood.onDisk step).run state =
      match step.run state.file with
      | .ok a file => .ok a { state with file }
      | .error error file => .error (.failed error) { state with file } :=
  rfl

/-- On any other system than Linux a rehearsal ends before it has begun. -/
theorem runDogfood_unsupported (other : native ≠ .linux) (state : DogfoodState) :
    ∃ error, (runDogfoodServiceUnhealthy texts io native run options).run state =
      .error (.failed error) state := by
  have os : native.backend.os ≠ .linux := by
    cases native with
    | linux => exact absurd rfl other
    | freeBsd => nofun
    | openBsd => nofun
    | unknown => nofun
  rw [runDogfoodServiceUnhealthy, requireLinuxDogfoodBackend, if_neg os]
  exact ⟨_, rfl⟩

/-- What a rehearsal on Linux does with what its collectors found. -/
theorem runDogfood_linux {state : DogfoodState} {result : Except CliError (List EvidenceEnvelope)}
    {commands : List CollectorCommand}
    (ran : (runCollectSmoke .linux run options.serviceName).run state.commands =
      ended result commands) :
    ∃ capabilities,
      (runDogfoodServiceUnhealthy texts io .linux run options).run state = (do
        let (evidence, ledger) ← .of (observed (AuditLedger.empty.recordAll dogfoodEventId
          dogfoodRunId options.opening) dogfoodRunId <$> result)
        let ledger ← ofExcept (authoriseDogfoodRestart texts options
          (options.request.plan capabilities) evidence ledger)
        let (receiptText, stateDir) ← .onDisk (persistDogfoodReceipt texts io ledger
          dogfoodRunId options)
        return ⟨.linux, options.nodeId, options.serviceName, evidence.length, stateDir,
          receiptText⟩ : Dogfood DogfoodReport).run { state with commands } := by
  have known : NativeBackend.linux.backend.os ≠ .unknown := by decide
  obtain ⟨capabilities, planned⟩ := planDogfoodRunbook_linux texts options
  have linux : requireLinuxDogfoodBackend .linux = .ok .linux := rfl
  have opened : dogfoodIncidentLedger texts dogfoodRunId dogfoodIncidentId options.nodeId =
      .ok (AuditLedger.empty.recordAll dogfoodEventId dogfoodRunId options.opening) :=
    appendDogfoodEvent_eq texts _ _ _
  refine ⟨capabilities, ?_⟩
  simp only [runDogfoodServiceUnhealthy, EStateM.run_bind, linux, opened, planned,
    Dogfood.run_of_ok, collectDogfoodEvidence_eq texts known,
    Dogfood.run_onHost (run_map_ended _ ran)]
  rfl

/-- With evidence of every kind it goes on to authorise and to persist. -/
theorem runDogfood_observed {state : DogfoodState} {envelopes : List EvidenceEnvelope}
    {commands : List CollectorCommand}
    (ran : (runCollectSmoke .linux run options.serviceName).run state.commands =
      ended (.ok envelopes) commands) :
    ∃ capabilities,
      (runDogfoodServiceUnhealthy texts io .linux run options).run state =
        match authoriseDogfoodRestart texts options (options.request.plan capabilities) envelopes
          (AuditLedger.empty.recordAll dogfoodEventId dogfoodRunId (options.opening ++
            envelopes.map fun envelope => .evidenceCollected envelope.source)) with
        | .error halt => .error halt { state with commands }
        | .ok ledger =>
            match (persistDogfoodReceipt texts io ledger dogfoodRunId options).run
              state.file with
            | .ok (receiptText, stateDir) file =>
                .ok ⟨.linux, options.nodeId, options.serviceName, envelopes.length, stateDir,
                  receiptText⟩ ⟨commands, file⟩
            | .error error file => .error (.failed error) ⟨commands, file⟩ := by
  obtain ⟨capabilities, same⟩ := runDogfood_linux texts io ran
  refine ⟨capabilities, same.trans ?_⟩
  rw [AuditLedger.recordAll_append]
  change (ofExcept (authoriseDogfoodRestart _ _ _ _ _) >>= _ : Dogfood _).run _ = _
  rw [EStateM.run_bind]
  cases authoriseDogfoodRestart texts options (options.request.plan capabilities) envelopes
      ((AuditLedger.empty.recordAll dogfoodEventId dogfoodRunId options.opening).recordAll
        dogfoodEventId dogfoodRunId
        (envelopes.map fun envelope => .evidenceCollected envelope.source)) with
  | error halt => rfl
  | ok ledger =>
      simp only [Calls.run_ofExcept_ok, EStateM.run_bind, Dogfood.run_onDisk]
      cases (persistDogfoodReceipt texts io ledger dogfoodRunId options).run state.file with
      | ok printed file => rfl
      | error error file => rfl

theorem stateCall_run {α : Type} (label : String) (method : EStateM DurableStateError LedgerFile α)
    (file : LedgerFile) :
    (stateCall texts label method).run file =
      match method.run file with
      | .ok a next => .ok a next
      | .error error next => .error (.dogfood s!"{label}: {texts.state error}") next := by
  rw [stateCall, EStateM.run, EStateM.run, EStateM.adaptExcept]
  cases method file with
  | ok a next => rfl
  | error error next => rfl

/-- The receipt is made before the file is touched; the directory is then initialised
and the ledger appended whole. -/
theorem persistDogfoodReceipt_run {ledger : AuditLedger} {receipt : OperatorReceipt}
    (recorded : ledger.recordAll dogfoodEventId dogfoodRunId
      [.cognitiveReceiptGenerated "receipt-real-host-service-unhealthy"] = options.ledger)
    (generated : generateOperatorReceipt dogfoodRunId options.ledger = .ok receipt)
    (file : LedgerFile) :
    (persistDogfoodReceipt texts io ledger dogfoodRunId options).run file =
      match (LocalServerState.init io options.stateDir).run file with
      | .error error file => .error (.dogfood s!"state init failed: {texts.state error}") file
      | .ok opened file =>
          match (LocalServerState.appendLedger io opened options.ledger).run file with
          | .ok () file => .ok (receipt.renderText, opened.layout.root) file
          | .error error file =>
              .error (.dogfood s!"state ledger append failed: {texts.state error}") file := by
  have receipted : (generateOperatorReceipt dogfoodRunId options.ledger).mapError (fun error =>
      CliError.dogfood s!"receipt generation failed: {texts.receipt error}") = .ok receipt :=
    mapError_eq_ok.mpr generated
  rw [persistDogfoodReceipt, appendDogfoodEvent_eq, recorded]
  simp only [EStateM.run_bind, Calls.run_ofExcept_ok, receipted, stateCall_run, EStateM.run_pure]
  cases (LocalServerState.init io options.stateDir).run file with
  | error error next => rfl
  | ok opened next =>
      dsimp only
      cases (LocalServerState.appendLedger io opened options.ledger).run next with
      | ok done last => rfl
      | error error last => rfl

theorem restarts_iff (valid : IsServiceName options.serviceName) {envelopes : List EvidenceEnvelope}
    (each : List.Forall₂ (fun spec envelope => spec.evidence .linux ⟨options.serviceName, valid⟩
      (run (spec.commandLine ⟨options.serviceName, valid⟩)) = .ok envelope)
      linuxBackend.collectorSpecs envelopes) :
    options.Restarts envelopes ↔ Rehearses .linux run options := by
  have known : NativeBackend.linux.backend.os ≠ .unknown := by decide
  rw [DogfoodOptions.Restarts, collected_restart_iff known each]
  constructor
  · intro restarts
    obtain ⟨allowed, simple⟩ := restarts
    refine ⟨rfl, valid, ?_, simple⟩
    intro spec listed
    obtain ⟨envelope, -, made⟩ := (exists_of_forall₂ each).1 spec listed
    obtain ⟨output, printed, success, some⟩ := evidence_isOk.mp ⟨envelope, made⟩
    exact ⟨output, printed, success, some, allowed spec listed output printed⟩
  · intro rehearses
    refine ⟨?_, rehearses.simple⟩
    intro spec listed output printed
    obtain ⟨output', printed', -, -, allows⟩ := rehearses.answered spec listed
    cases printed.symm.trans printed'
    exact allows

/-- Whatever stops a rehearsal before its receipt leaves the file alone. -/
theorem runDogfood_refused (refused : ¬ Rehearses native run options) (state : DogfoodState) :
    ∃ error commands, (runDogfoodServiceUnhealthy texts io native run options).run state =
      .error (.failed error) ⟨state.commands ++ commands, state.file⟩ := by
  by_cases linux : native = .linux
  · subst linux
    have known : NativeBackend.linux.backend.os ≠ .unknown := by decide
    by_cases valid : IsServiceName options.serviceName
    · obtain ⟨done, result, collected, ran⟩ :=
        runCollectSmoke_collected known run ⟨options.serviceName, valid⟩ state.commands
      cases collected with
      | failed before split passed stopped =>
          obtain ⟨capabilities, same⟩ := runDogfood_linux texts io ran
          exact ⟨_, _, same⟩
      | all each =>
          obtain ⟨capabilities, same⟩ := runDogfood_observed texts io ran
          obtain ⟨error, stopped⟩ := authoriseDogfoodRestart_refused texts capabilities _
            (mt (restarts_iff valid each).mp refused)
          rw [stopped] at same
          exact ⟨error, _, same⟩
    · have nameless : NativeBackend.linux.backend.os = .unknown ∨
          ¬ IsServiceName options.serviceName := .inr valid
      obtain ⟨error, ran⟩ := runCollectSmoke_refused run nameless state.commands
      have ended : (runCollectSmoke .linux run options.serviceName).run state.commands =
        ended (.error error) state.commands := ran
      obtain ⟨capabilities, same⟩ := runDogfood_linux texts io ended
      exact ⟨error, [], by rw [same, List.append_nil]; rfl⟩
  · obtain ⟨error, unsupported⟩ := runDogfood_unsupported texts io linux state
    exact ⟨error, [], by rw [unsupported, List.append_nil]⟩

theorem observations_of_evidence {name : ServiceName} {specs : List CollectorSpec}
    {envelopes : List EvidenceEnvelope}
    (each : List.Forall₂ (fun spec envelope =>
      spec.evidence .linux name (run (spec.commandLine name)) = .ok envelope) specs envelopes) :
    (envelopes.map fun envelope => AuditEventKind.evidenceCollected envelope.source) =
      specs.map fun spec => .evidenceCollected s!"collector:{spec.program}:{spec.kind.debug}" := by
  induction each with
  | nil => rfl
  | cons made _ ih => rw [List.map_cons, List.map_cons, source_of_evidence made, ih]

/-- How a rehearsal that is let through ends: as the initialisation of the directory and
the append of its ledger do. -/
def Recorded (texts : DogfoodTexts) (io : StateIo) (options : DogfoodOptions)
    (receipt : OperatorReceipt) (commands : List CollectorCommand) (file : LedgerFile) :
    EStateM.Result Halt DogfoodState DogfoodReport :=
  match (LocalServerState.init io options.stateDir).run file with
  | .error error file =>
      .error (.failed (.dogfood s!"state init failed: {texts.state error}")) ⟨commands, file⟩
  | .ok opened file =>
      match (LocalServerState.appendLedger io opened options.ledger).run file with
      | .ok () file => .ok ⟨.linux, options.nodeId, options.serviceName, 5, opened.layout.root,
          receipt.renderText⟩ ⟨commands, file⟩
      | .error error file =>
          .error (.failed (.dogfood s!"state ledger append failed: {texts.state error}"))
            ⟨commands, file⟩

/-- A rehearsal that is let through appends its ledger to what the file holds. -/
theorem runDogfood_rehearsed (rehearses : Rehearses native run options) (state : DogfoodState)
    {receipt : OperatorReceipt}
    (generated : generateOperatorReceipt dogfoodRunId options.ledger = .ok receipt) :
    (runDogfoodServiceUnhealthy texts io native run options).run state =
      Recorded texts io options receipt
        (state.commands ++ linuxBackend.collectorSpecs.map fun spec =>
          spec.commandLine ⟨options.serviceName, rehearses.valid⟩) state.file := by
  obtain rfl := rehearses.linux
  have known : NativeBackend.linux.backend.os ≠ .unknown := by decide
  obtain ⟨done, result, collected, ran⟩ :=
    runCollectSmoke_collected known run ⟨options.serviceName, rehearses.valid⟩ state.commands
  cases collected with
  | @failed before after spec error split passed stopped =>
      have listed : spec ∈ linuxBackend.collectorSpecs := by
        rw [show linuxBackend.collectorSpecs = _ from split]
        exact List.mem_append_right _ List.mem_cons_self
      obtain ⟨output, printed, success, some, -⟩ := rehearses.answered spec listed
      obtain ⟨envelope, made⟩ := evidence_isOk.mpr ⟨output, printed, success, some⟩
      cases made.symm.trans stopped
  | @all envelopes each =>
      obtain ⟨capabilities, same⟩ := runDogfood_observed texts io ran
      have seen : (envelopes.map fun envelope => AuditEventKind.evidenceCollected
          envelope.source) = DogfoodOptions.observations := observations_of_evidence each
      rw [authoriseDogfoodRestart_eq texts capabilities _
        ((restarts_iff rehearses.valid each).mpr rehearses), seen,
        ← AuditLedger.recordAll_append] at same
      have recorded : (AuditLedger.empty.recordAll dogfoodEventId dogfoodRunId
          (options.opening ++ DogfoodOptions.observations ++ options.authorisation)).recordAll
            dogfoodEventId dogfoodRunId
            [.cognitiveReceiptGenerated "receipt-real-host-service-unhealthy"] = options.ledger :=
        (AuditLedger.recordAll_append _ _ _).symm
      have five : envelopes.length = 5 := each.length_eq.symm
      rw [same, five]
      dsimp only
      rw [persistDogfoodReceipt_run texts io recorded generated state.file, Recorded]
      cases (LocalServerState.init io options.stateDir).run state.file with
      | error error file => rfl
      | ok opened file =>
          dsimp only
          cases (LocalServerState.appendLedger io opened options.ledger).run file with
          | ok done last => rfl
          | error error last => rfl

theorem grows_of_recorded {rehearsal : Dogfood DogfoodReport} {state : DogfoodState}
    {receipt : OperatorReceipt} {commands : List CollectorCommand}
    (ran : rehearsal.run state = Recorded texts io options receipt commands state.file) :
    LocalServerState.Grows state.file (Frame.left rehearsal state).file := by
  have opening := LocalServerState.keeps_init io options.stateDir state.file
  rw [Frame.left] at opening
  rw [Frame.left, ran, Recorded]
  cases made : (LocalServerState.init io options.stateDir).run state.file with
  | error error next =>
      rw [made] at opening
      exact opening
  | ok opened next =>
      rw [made] at opening
      have appending := LocalServerState.keeps_appendLedger io opened options.ledger next
      rw [Frame.left] at appending
      dsimp only
      cases appended : (LocalServerState.appendLedger io opened options.ledger).run next with
      | ok done last =>
          rw [appended] at appending
          exact IsTrans.trans state.file next last opening appending
      | error error last =>
          rw [appended] at appending
          exact IsTrans.trans state.file next last opening appending

/-- However a rehearsal ends, it does not panic. It is let through or not; if not,
the file is untouched, and otherwise the one thing done to the directory is to
initialise it and to append a ledger that the options determine, whatever the
commands printed, and the rehearsal ends as these two calls do. Whichever call fails,
what the file held stays where it was. -/
theorem rehearsal_outcome (state : DogfoodState) :
    (∀ rehearses : Rehearses native run options, ∃ receipt,
      generateOperatorReceipt dogfoodRunId options.ledger = .ok receipt ∧
      (runDogfoodServiceUnhealthy texts io native run options).run state =
        match (LocalServerState.init io options.stateDir).run state.file with
        | .error error file =>
            .error (.failed (.dogfood s!"state init failed: {texts.state error}"))
              ⟨state.commands ++ linuxBackend.collectorSpecs.map fun spec =>
                spec.commandLine ⟨options.serviceName, rehearses.valid⟩, file⟩
        | .ok opened file =>
            match (LocalServerState.appendLedger io opened options.ledger).run file with
            | .ok () file =>
                .ok ⟨.linux, options.nodeId, options.serviceName, 5, opened.layout.root,
                  receipt.renderText⟩
                  ⟨state.commands ++ linuxBackend.collectorSpecs.map fun spec =>
                    spec.commandLine ⟨options.serviceName, rehearses.valid⟩, file⟩
            | .error error file =>
                .error (.failed (.dogfood s!"state ledger append failed: {texts.state error}"))
                  ⟨state.commands ++ linuxBackend.collectorSpecs.map fun spec =>
                    spec.commandLine ⟨options.serviceName, rehearses.valid⟩, file⟩) ∧
    (¬ Rehearses native run options → ∃ error commands,
      (runDogfoodServiceUnhealthy texts io native run options).run state =
        .error (.failed error) ⟨state.commands ++ commands, state.file⟩) ∧
    LocalServerState.Grows state.file
      (Frame.left (runDogfoodServiceUnhealthy texts io native run options) state).file := by
  obtain ⟨receipt, generated⟩ := options.receipted
  refine ⟨?_, fun refused => runDogfood_refused texts io refused state, ?_⟩
  · intro rehearses
    exact ⟨receipt, generated, runDogfood_rehearsed texts io rehearses state generated⟩
  · by_cases rehearses : Rehearses native run options
    · exact grows_of_recorded texts io (runDogfood_rehearsed texts io rehearses state generated)
    · obtain ⟨error, commands, ran⟩ := runDogfood_refused texts io rehearses state
      rw [Frame.left_of_error ran]
      exact Std.Refl.refl state.file

end Run

end Runlane.Agent
