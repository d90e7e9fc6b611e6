import Runlane.Agent.Flags
import Runlane.Analyzer.Signals
import Runlane.Lib.Journal
import Runlane.Planner.RestartGate

/-!
The collection of evidence about an unhealthy service on a native host.

The commands handed to the host are the templates of the backend, in their order,
up to the first that fails. Of what they print the analyzer heeds what speaks
against a restart; a service that nothing says is active counts as unhealthy.
-/

namespace Runlane.Agent

open Fallible Journal

def serviceUnhealthyCollectorKinds : List EvidenceKind :=
  [.serviceStatus, .recentLogs, .disk, .process, .socket]

def serviceUnhealthyCollectorRequest (kind : EvidenceKind) (serviceName : String) :
    Except CliError CollectorRequest :=
  match kind with
  | .serviceStatus | .recentLogs =>
      (CollectorRequest.service kind serviceName).mapError .collector
  | .disk | .process | .socket => .ok (.simple kind)

/-- The commands of a run of the agent are handed to the host one after another. -/
abbrev AgentRun := EStateM CliError (List CollectorCommand)

/-- The body of the loops over the collectors. -/
def collectKind (native : NativeBackend) (run : CollectorCommand → Except String CommandOutput)
    (serviceName : String) (kind : EvidenceKind) : AgentRun EvidenceEnvelope := do
  let request ← ofExcept (serviceUnhealthyCollectorRequest kind serviceName)
  (native.backend.collectNative run request).adaptExcept .collector

/-- What is printed of the smoke test is the evidence, a line for each. -/
def runCollectSmoke (native : NativeBackend)
    (run : CollectorCommand → Except String CommandOutput) (serviceName : String) :
    AgentRun (List EvidenceEnvelope) :=
  if native.backend.os = .unknown then
    throw (.config (.invalidField "platform_family"
      "native collector smoke requires Linux, FreeBSD, or OpenBSD"))
  else
    serviceUnhealthyCollectorKinds.foldlM (fun evidence kind => do
      return evidence ++ [← collectKind native run serviceName kind]) []

/-- A place of a template, filled. -/
def CollectorArg.fill (name : ServiceName) : CollectorArg → String
  | literal value => value
  | serviceName => name.value

namespace CollectorSpec

/-- The template with the name of the service in its places. -/
def commandLine (name : ServiceName) (spec : CollectorSpec) : CollectorCommand where
  kind := spec.kind
  program := spec.program
  args := spec.args.map (CollectorArg.fill name)

/-- What is made of the host's answer to a command. -/
def evidence (spec : CollectorSpec) (os : OperatingSystem) (name : ServiceName) :
    Except String CommandOutput → Except CollectorExecutionError EvidenceEnvelope
  | .error reason => .error (.io (spec.commandLine name) reason)
  | .ok output =>
      if !output.success then
        .error (.nonZeroStatus (spec.commandLine name) output.code (Text.trim output.stderr))
      else if output.body.isEmpty then .error (.emptyOutput (spec.commandLine name))
      else
        .ok (.text s!"collector:{spec.program}:{spec.kind.debug}"
          (normalizeFixture os spec.kind output.body))

end CollectorSpec

/-- The kinds whose collectors are asked about the host and not about a service. -/
def EvidenceKind.ofHost : EvidenceKind → Bool
  | serviceStatus | recentLogs => false
  | disk | process | socket => true

/-- Each native backend collects the kinds in order, and names the service in no
template about the host. -/
structure NativeBackend.Collects (native : NativeBackend) : Prop where
  kinds : native.backend.collectorSpecs.map CollectorSpec.kind = serviceUnhealthyCollectorKinds
  unnamed : ∀ spec ∈ native.backend.collectorSpecs, spec.kind.ofHost = true →
    .serviceName ∉ spec.args

theorem NativeBackend.collects {native : NativeBackend} (known : native.backend.os ≠ .unknown) :
    native.Collects := by
  cases native with
  | linux => exact ⟨rfl, by decide⟩
  | freeBsd => exact ⟨rfl, by decide⟩
  | openBsd => exact ⟨rfl, by decide⟩
  | unknown => exact absurd rfl known

theorem fills_commandLine {service : Option ServiceName} {name : ServiceName}
    (args : List CollectorArg) (given : .serviceName ∈ args → service = some name) :
    List.Forall₂ (PlatformBackend.Fills service) args (args.map (CollectorArg.fill name)) := by
  rw [List.forall₂_map_right_iff, List.forall₂_same]
  intro arg member
  cases arg with
  | literal value => exact .literal value
  | serviceName => exact .service (given member)

theorem request_of_host {kind : EvidenceKind} (host : kind.ofHost = true) (serviceName : String) :
    serviceUnhealthyCollectorRequest kind serviceName = .ok (.simple kind) := by
  cases kind with
  | serviceStatus => cases host
  | recentLogs => cases host
  | disk => rfl
  | process => rfl
  | socket => rfl

theorem request_of_service {kind : EvidenceKind} (service : kind.ofHost = false)
    (serviceName : String) :
    serviceUnhealthyCollectorRequest kind serviceName =
      (CollectorRequest.service kind serviceName).mapError .collector := by
  cases kind with
  | serviceStatus => rfl
  | recentLogs => rfl
  | disk => cases service
  | process => cases service
  | socket => cases service

/-- The requests of the collection name the service wherever a template asks for it. -/
theorem request_commandLine {native : NativeBackend} (collects : native.Collects)
    (name : ServiceName) {spec : CollectorSpec}
    (listed : spec ∈ native.backend.collectorSpecs) :
    ∃ request, serviceUnhealthyCollectorRequest spec.kind name.value = .ok request ∧
      native.backend.collectorCommand request = .ok (spec.commandLine name) := by
  have made (service : Option ServiceName)
      (given : .serviceName ∈ spec.args → service = some name) :
      native.backend.collectorCommand ⟨spec.kind, service⟩ = .ok (spec.commandLine name) :=
    (PlatformBackend.collectorCommand_eq_ok native.coherent).mpr
      ⟨spec, listed, rfl, rfl, rfl, fills_commandLine spec.args given⟩
  cases asked : spec.kind.ofHost with
  | true =>
      have host := made none fun named => absurd named (collects.unnamed spec listed asked)
      exact ⟨.simple spec.kind, request_of_host asked _, host⟩
  | false =>
      refine ⟨⟨spec.kind, some name⟩, ?_, made (some name) fun _ => rfl⟩
      rw [request_of_service asked, CollectorRequest.service, ServiceName.parse_eq_ok.mpr rfl]
      rfl

theorem enters_output (run : CollectorCommand → Except String CommandOutput)
    (command : CollectorCommand) :
    Enters (PlatformBackend.output run command) command ((run command).mapError (.io command)) := by
  intro journal
  rw [PlatformBackend.output, EStateM.run_bind, EStateM.run_modify]
  exact run_ofExcept _ _

theorem enters_collectNative {backend : PlatformBackend} {request : CollectorRequest}
    {name : ServiceName} {spec : CollectorSpec}
    (run : CollectorCommand → Except String CommandOutput)
    (made : backend.collectorCommand request = .ok (spec.commandLine name)) :
    Enters (backend.collectNative run request) (spec.commandLine name)
      (spec.evidence backend.os name (run (spec.commandLine name))) := by
  refine Enters.after made ?_
  have judged : spec.evidence backend.os name (run (spec.commandLine name)) =
      ((run (spec.commandLine name)).mapError (.io (spec.commandLine name)) >>= fun output =>
        spec.evidence backend.os name (.ok output)) := by
    cases run (spec.commandLine name) with
    | ok output => rfl
    | error reason => rfl
  rw [judged]
  refine (enters_output run (spec.commandLine name)).bind ?_
  intro output journal
  unfold CollectorSpec.evidence
  dsimp only
  split
  next => rfl
  next =>
    split
    next => rfl
    next => rfl

/-- One collector hands one command to the host. -/
theorem enters_collectKind {native : NativeBackend} (collects : native.Collects)
    (run : CollectorCommand → Except String CommandOutput) (name : ServiceName)
    {spec : CollectorSpec} (listed : spec ∈ native.backend.collectorSpecs) :
    Enters (collectKind native run name.value spec.kind) (spec.commandLine name)
      ((spec.evidence native.backend.os name (run (spec.commandLine name))).mapError
        .collector) := by
  obtain ⟨request, named, made⟩ := request_commandLine collects name listed
  exact Enters.after named ((enters_collectNative run made).adaptExcept CliError.collector)

/-- Without a native backend, or with a name that does not pass, nothing is run. -/
theorem runCollectSmoke_refused {native : NativeBackend} {serviceName : String}
    (run : CollectorCommand → Except String CommandOutput)
    (refused : native.backend.os = .unknown ∨ ¬ IsServiceName serviceName)
    (journal : List CollectorCommand) :
    ∃ error, (runCollectSmoke native run serviceName).run journal = .error error journal := by
  by_cases unknown : native.backend.os = .unknown
  · rw [runCollectSmoke, if_pos unknown]
    exact ⟨_, rfl⟩
  · obtain ⟨reason, invalid⟩ := ServiceName.parse_error (refused.resolve_left unknown)
    rw [runCollectSmoke, if_neg unknown]
    have request : serviceUnhealthyCollectorRequest .serviceStatus serviceName =
        .error (.collector (.invalidServiceName serviceName reason)) := by
      rw [serviceUnhealthyCollectorRequest, CollectorRequest.service, invalid]
      rfl
    refine ⟨.collector (.invalidServiceName serviceName reason), ?_⟩
    simp only [serviceUnhealthyCollectorKinds, List.foldlM_cons, collectKind, request,
      EStateM.run_bind, Calls.run_ofExcept_error]

/-- How a collection ends: with evidence of every kind, or at the first command
that gave none. -/
inductive Collected (specs : List CollectorSpec)
    (evidence : CollectorSpec → Except CollectorExecutionError EvidenceEnvelope) :
    List CollectorSpec → Except CliError (List EvidenceEnvelope) → Prop where
  | all {envelopes : List EvidenceEnvelope}
      (each : List.Forall₂ (fun spec envelope => evidence spec = .ok envelope) specs envelopes) :
      Collected specs evidence specs (.ok envelopes)
  | failed (before : List CollectorSpec) {after : List CollectorSpec} {spec : CollectorSpec}
      {error : CollectorExecutionError} (split : specs = before ++ spec :: after)
      (passed : ∀ earlier ∈ before, ∃ envelope, evidence earlier = .ok envelope)
      (stopped : evidence spec = .error error) :
      Collected specs evidence (before ++ [spec]) (.error (.collector error))

theorem mapError_eq_error {evidence : Except CollectorExecutionError EvidenceEnvelope}
    {error : CliError} (failed : evidence.mapError .collector = .error error) :
    ∃ inner, evidence = .error inner ∧ error = .collector inner := by
  cases evidence with
  | ok envelope => cases failed
  | error inner =>
      cases failed
      exact ⟨inner, rfl, rfl⟩

theorem runCollectSmoke_collected {native : NativeBackend}
    (known : native.backend.os ≠ .unknown)
    (run : CollectorCommand → Except String CommandOutput) (name : ServiceName)
    (journal : List CollectorCommand) :
    ∃ done result,
      Collected native.backend.collectorSpecs
        (fun spec => spec.evidence native.backend.os name (run (spec.commandLine name)))
        done result ∧
      (runCollectSmoke native run name.value).run journal =
        ended result (journal ++ done.map fun spec => spec.commandLine name) := by
  have collects := NativeBackend.collects known
  let make : CollectorSpec → Except CliError EvidenceEnvelope := fun spec =>
    (spec.evidence native.backend.os name (run (spec.commandLine name))).mapError .collector
  have enters : ∀ spec ∈ native.backend.collectorSpecs, ∀ evidence : List EvidenceEnvelope,
      Enters (do return evidence ++ [← collectKind native run name.value spec.kind])
        (spec.commandLine name) (do return evidence ++ [← make spec]) :=
    fun spec listed evidence => (enters_collectKind collects run name listed).bind
      fun envelope journal => rfl
  obtain ⟨done, result, reached, ran⟩ := run_foldlM native.backend.collectorSpecs enters [] journal
  refine ⟨done, result, ?_, ?_⟩
  · cases reached with
    | all passed =>
        obtain ⟨envelopes, rfl, each⟩ := foldlM_gather_eq_ok.mp passed
        refine .all (each.imp fun spec envelope made => ?_)
        exact mapError_eq_ok.mp made
    | failed before split passed stopped =>
        obtain ⟨envelopes, rfl, each⟩ := foldlM_gather_eq_ok.mp passed
        obtain ⟨inner, none, rfl⟩ := mapError_eq_error
          ((bind_eq_error.mp stopped).resolve_right fun ⟨_, _, returned⟩ => nomatch returned)
        refine .failed before split (fun earlier member => ?_) none
        obtain ⟨envelope, -, made⟩ := (exists_of_forall₂ each).1 earlier member
        exact ⟨envelope, mapError_eq_ok.mp made⟩
  · rw [runCollectSmoke, if_neg known, ← collects.kinds, List.foldlM_map]
    exact ran

theorem Collected.isPrefix {specs done : List CollectorSpec}
    {evidence : CollectorSpec → Except CollectorExecutionError EvidenceEnvelope}
    {result : Except CliError (List EvidenceEnvelope)}
    (collected : Collected specs evidence done result) : done <+: specs := by
  cases collected with
  | all => exact List.prefix_rfl
  | failed before split =>
      rw [split]
      exact (List.prefix_append_right_inj _).mpr (List.prefix_append [_] _)

/-- A name that passes is read by no command as an option. -/
theorem ServiceName.not_option (name : ServiceName) : name.value.startsWith "-" = false := by
  rw [← Bool.not_eq_true, String.startsWith_string_iff]
  intro dashed
  obtain ⟨rest, chars⟩ := dashed
  have start : name.value.toList = '-' :: rest := chars.symm
  have first := name.valid.first
  rw [start, List.head?_cons, Option.any_some] at first
  exact absurd first (by decide)

theorem args_commandLine {spec : CollectorSpec} {name : ServiceName} {arg : String}
    (member : arg ∈ (spec.commandLine name).args) :
    .literal arg ∈ spec.args ∨ arg = name.value ∧ arg.startsWith "-" = false := by
  obtain ⟨place, listed, rfl⟩ := List.mem_map.mp member
  cases place with
  | literal value => exact .inl listed
  | serviceName => exact .inr ⟨rfl, name.not_option⟩

/-- Whatever the service is called and the host answers, the commands are the first
templates of the backend, up to one that gives no evidence, filled in with a name
that no command reads as an option. Without a native backend or a name that passes
there are none. -/
theorem collect_smoke_commands (native : NativeBackend)
    (run : CollectorCommand → Except String CommandOutput) (serviceName : String)
    (journal : List CollectorCommand) :
    (native.backend.os = .unknown ∨ ¬ IsServiceName serviceName →
      ∃ error, (runCollectSmoke native run serviceName).run journal = .error error journal) ∧
    ∀ valid : IsServiceName serviceName, native.backend.os ≠ .unknown →
      let name : ServiceName := ⟨serviceName, valid⟩
      ∃ done result,
        Collected native.backend.collectorSpecs
          (fun spec => spec.evidence native.backend.os name (run (spec.commandLine name)))
          done result ∧
        (runCollectSmoke native run serviceName).run journal =
          ended result (journal ++ done.map fun spec => spec.commandLine name) ∧
        done <+: native.backend.collectorSpecs ∧
        ∀ spec ∈ done, ∀ arg ∈ (spec.commandLine name).args,
          .literal arg ∈ spec.args ∨ arg = serviceName ∧ arg.startsWith "-" = false := by
  refine ⟨fun refused => runCollectSmoke_refused run refused journal, ?_⟩
  intro valid known name
  obtain ⟨done, result, collected, ran⟩ := runCollectSmoke_collected known run name journal
  exact ⟨done, result, collected, ran, collected.isPrefix, fun _ _ _ => args_commandLine⟩

def CommandOutput.shows (output : CommandOutput) (markers : List String) : Bool :=
  showsAny markers (output.body.map Char.toLower)

/-- What the agent says of a collection itself, in the last part of the first line. -/
def evidenceStatus (kind : EvidenceKind) (active : Bool) : String :=
  match kind with
  | .serviceStatus => if active then "service=active" else "service=not-active"
  | .recentLogs => "logs=present"
  | .disk => "disk=present"
  | .process => "process=present"
  | .socket => "socket=present"

def nativeStatusTexts : List String :=
  ["ActiveState=active", "is running", "(ok)"]

theorem normalizeFixture_eq (os : OperatingSystem) (kind : EvidenceKind) (body : String) :
    normalizeFixture os kind body =
      "os=" ++ os.debug ++ "; kind=" ++ kind.debug ++ "; " ++
        evidenceStatus kind (showsAny nativeStatusTexts body) ++ "\n" ++ Text.trim body := by
  simp only [normalizeFixture, evidenceStatus, showsAny, nativeStatusTexts, List.any_cons,
    List.any_nil, Bool.or_false, Bool.or_assoc]
  rfl

def lowercase (text : String) : List Char :=
  text.toList.map Char.toLower

/-- The lowercased parts of a piece of evidence, between the separators that no
marker contains. -/
theorem lowercase_normalizeFixture (os : OperatingSystem) (kind : EvidenceKind) (body : String) :
    lowercase (normalizeFixture os kind body) =
      lowercase ("os=" ++ os.debug) ++ ';' :: (lowercase (" kind=" ++ kind.debug) ++
        ';' :: (lowercase (" " ++ evidenceStatus kind (showsAny nativeStatusTexts body)) ++
          '\n' :: lowercase (Text.trim body))) := by
  simp only [normalizeFixture_eq, lowercase, String.toList_append, List.map_append,
    List.append_assoc]
  rfl

/-- What can be found in the parts that the agent writes. -/
theorem spoken_parts :
    (∀ marker ∈ activeMarkers ++ unhealthyMarkers ++ unsupportedMarkers,
      ';' ∉ marker.toList ∧ '\n' ∉ marker.toList ∧
      (∀ os ∈ [OperatingSystem.linux, .freeBsd, .openBsd, .unknown],
        ¬ marker.toList <:+: lowercase ("os=" ++ os.debug)) ∧
      ∀ kind ∈ serviceUnhealthyCollectorKinds,
        ¬ marker.toList <:+: lowercase (" kind=" ++ kind.debug)) ∧
    ∀ kind ∈ serviceUnhealthyCollectorKinds, ∀ active ∈ [true, false],
      let chars := lowercase (" " ++ evidenceStatus kind active)
      (∀ marker ∈ unsupportedMarkers, ¬ marker.toList <:+: chars) ∧
      ((∃ marker ∈ activeMarkers, marker.toList <:+: chars) ↔
        kind = .serviceStatus ∧ active = true) ∧
      ((∃ marker ∈ unhealthyMarkers, marker.toList <:+: chars) ↔
        kind = .serviceStatus ∧ active = false) := by
  decide +kernel

theorem showsAny_iff {markers : List String} {text : String} :
    showsAny markers (text.map Char.toLower) = true ↔
      ∃ marker ∈ markers, marker.toList <:+: lowercase text := by
  simp only [showsAny, List.any_eq_true, String.contains_string_iff, String.toList_map, lowercase]

theorem NativeBackend.os_listed (native : NativeBackend) :
    native.backend.os ∈ [OperatingSystem.linux, .freeBsd, .openBsd, .unknown] := by
  cases native <;> decide

section Evidence

variable {native : NativeBackend} {kind : EvidenceKind} {markers : List String}

/-- Evidence shows a marker in what the agent says of it, or in what a command printed. -/
theorem shows_normalizeFixture (native : NativeBackend)
    (collected : kind ∈ serviceUnhealthyCollectorKinds)
    (known : markers ⊆ activeMarkers ++ unhealthyMarkers ++ unsupportedMarkers) (body : String) :
    showsAny markers ((normalizeFixture native.backend.os kind body).map Char.toLower) = true ↔
      (∃ marker ∈ markers, marker.toList <:+:
        lowercase (" " ++ evidenceStatus kind (showsAny nativeStatusTexts body))) ∨
      ∃ marker ∈ markers, marker.toList <:+: lowercase (Text.trim body) := by
  have parts : ∀ marker ∈ markers,
      (marker.toList <:+: lowercase (normalizeFixture native.backend.os kind body) ↔
        marker.toList <:+:
            lowercase (" " ++ evidenceStatus kind (showsAny nativeStatusTexts body)) ∨
          marker.toList <:+: lowercase (Text.trim body)) := by
    intro marker listed
    obtain ⟨separator, line, os, kinds⟩ := spoken_parts.1 marker (known listed)
    rw [lowercase_normalizeFixture, Text.infix_append_cons_iff separator,
      Text.infix_append_cons_iff separator, Text.infix_append_cons_iff line,
      iff_false_intro (os _ native.os_listed), iff_false_intro (kinds kind collected),
      false_or, false_or]
  rw [showsAny_iff]
  constructor
  · intro shown
    obtain ⟨marker, listed, found⟩ := shown
    exact ((parts marker listed).mp found).imp (fun h => ⟨marker, listed, h⟩)
      fun h => ⟨marker, listed, h⟩
  · intro shown
    cases shown with
    | inl said =>
        obtain ⟨marker, listed, found⟩ := said
        exact ⟨marker, listed, (parts marker listed).mpr (.inl found)⟩
    | inr printed =>
        obtain ⟨marker, listed, found⟩ := printed
        exact ⟨marker, listed, (parts marker listed).mpr (.inr found)⟩

/-- A native status text reads as active to the analyzer as well. -/
theorem active_of_native {body : String} (native : showsAny nativeStatusTexts body = true) :
    ∃ marker ∈ activeMarkers, marker.toList <:+: lowercase body := by
  have lowered : ∀ text ∈ nativeStatusTexts,
      ∃ marker ∈ activeMarkers, marker.toList = lowercase text := by
    decide +kernel
  obtain ⟨text, listed, found⟩ := List.any_eq_true.mp native
  obtain ⟨marker, known, same⟩ := lowered text listed
  refine ⟨marker, known, ?_⟩
  rw [same]
  exact (String.contains_string_iff.mp found).map Char.toLower

theorem CommandOutput.trim_body (output : CommandOutput) : Text.trim output.body = output.body := by
  unfold CommandOutput.body
  split
  next => exact Text.trim_trim _
  next => exact Text.trim_trim _

/-- The signals of one piece of evidence, by what the command printed. -/
theorem signals_of_output (native : NativeBackend)
    (collected : kind ∈ serviceUnhealthyCollectorKinds) (output : CommandOutput) :
    let shows markers :=
      showsAny markers ((normalizeFixture native.backend.os kind output.body).map Char.toLower)
    (shows activeMarkers = true ↔ output.shows activeMarkers = true) ∧
      (shows unsupportedMarkers = true ↔ output.shows unsupportedMarkers = true) ∧
      (kind = .serviceStatus → output.shows activeMarkers = false →
        shows unhealthyMarkers = true) := by
  have listed : showsAny nativeStatusTexts output.body ∈ [true, false] := by
    cases showsAny nativeStatusTexts output.body <;> decide
  obtain ⟨unsupported, active, unhealthy⟩ := spoken_parts.2 kind collected _ listed
  refine ⟨?_, ?_, ?_⟩
  · rw [shows_normalizeFixture native collected (by simp), active, output.trim_body,
      CommandOutput.shows, showsAny_iff]
    exact ⟨fun shown => shown.elim (fun said => active_of_native said.2) id, .inr⟩
  · rw [shows_normalizeFixture native collected (by simp), output.trim_body,
      CommandOutput.shows, showsAny_iff]
    refine ⟨fun shown => shown.resolve_left ?_, .inr⟩
    rintro ⟨marker, known, found⟩
    exact unsupported marker known found
  · intro status quiet
    rw [shows_normalizeFixture native collected (by simp)]
    refine .inl (unhealthy.mpr ⟨status, ?_⟩)
    rw [← Bool.not_eq_true] at quiet ⊢
    intro native
    exact quiet (showsAny_iff.mpr (active_of_native native))

end Evidence

/-- What a command printed has nothing in it that speaks against a restart. -/
def CommandOutput.Allows (output : CommandOutput) : Prop :=
  output.shows activeMarkers = false ∧ output.shows unsupportedMarkers = false

theorem evidence_eq_ok {spec : CollectorSpec} {os : OperatingSystem} {name : ServiceName}
    {answer : Except String CommandOutput} {envelope : EvidenceEnvelope}
    (made : spec.evidence os name answer = .ok envelope) :
    ∃ output, answer = .ok output ∧ envelope.body = normalizeFixture os spec.kind output.body := by
  cases answer with
  | error reason => cases made
  | ok output =>
      refine ⟨output, rfl, ?_⟩
      simp only [CollectorSpec.evidence, ite_error_eq_ok] at made
      rw [← Except.ok.inj made.2.2]
      rfl

/-- The analysis of what was collected proposes a restart unless something that a
command printed speaks against it. No sign of a failure is asked for. -/
theorem collected_restart_iff {native : NativeBackend} (known : native.backend.os ≠ .unknown)
    {name : ServiceName} {run : CollectorCommand → Except String CommandOutput}
    {envelopes : List EvidenceEnvelope}
    (each : List.Forall₂ (fun spec envelope =>
      spec.evidence native.backend.os name (run (spec.commandLine name)) = .ok envelope)
      native.backend.collectorSpecs envelopes) (proposalId nodeId service : String) :
    (analyzeServiceUnhealthy proposalId nodeId service envelopes).kinds = [.serviceRestart] ↔
      ∀ spec ∈ native.backend.collectorSpecs, ∀ output,
        run (spec.commandLine name) = .ok output → output.Allows := by
  have kinds := (NativeBackend.collects known).kinds
  have collected : ∀ spec ∈ native.backend.collectorSpecs,
      spec.kind ∈ serviceUnhealthyCollectorKinds := fun spec listed =>
    kinds ▸ List.mem_map_of_mem listed
  obtain ⟨made, from_⟩ := exists_of_forall₂ each
  rw [kinds_restart_iff]
  constructor
  · intro restart spec listed output printed
    obtain ⟨-, active, unsupported⟩ := restart
    obtain ⟨envelope, member, same⟩ := made spec listed
    obtain ⟨output', printed', body⟩ := evidence_eq_ok same
    cases printed.symm.trans printed'
    obtain ⟨signalsActive, signalsUnsupported, -⟩ :=
      signals_of_output native (collected spec listed) output
    have quiet := active envelope member
    have supported := unsupported envelope member
    rw [EvidenceEnvelope.shows, body, ← Bool.not_eq_true] at quiet supported
    exact ⟨Bool.of_not_eq_true (mt signalsActive.mpr quiet),
      Bool.of_not_eq_true (mt signalsUnsupported.mpr supported)⟩
  · intro allowed
    have calm : ∀ envelope ∈ envelopes, envelope.shows activeMarkers = false ∧
        envelope.shows unsupportedMarkers = false := by
      intro envelope member
      obtain ⟨spec, listed, same⟩ := from_ envelope member
      obtain ⟨output, printed, body⟩ := evidence_eq_ok same
      obtain ⟨active, unsupported⟩ := allowed spec listed output printed
      obtain ⟨signalsActive, signalsUnsupported, -⟩ :=
        signals_of_output native (collected spec listed) output
      rw [← Bool.not_eq_true] at active unsupported
      rw [EvidenceEnvelope.shows, EvidenceEnvelope.shows, body]
      exact ⟨Bool.of_not_eq_true (mt signalsActive.mp active),
        Bool.of_not_eq_true (mt signalsUnsupported.mp unsupported)⟩
    have asked : EvidenceKind.serviceStatus ∈
        native.backend.collectorSpecs.map CollectorSpec.kind := by
      rw [kinds]
      decide
    obtain ⟨spec, listed, status⟩ := List.mem_map.mp asked
    obtain ⟨envelope, member, same⟩ := made spec listed
    obtain ⟨output, printed, body⟩ := evidence_eq_ok same
    refine ⟨⟨envelope, member, ?_⟩, fun other there => (calm other there).1,
      fun other there => (calm other there).2⟩
    rw [EvidenceEnvelope.shows, body]
    exact (signals_of_output native (collected spec listed) output).2.2 status
      (allowed spec listed output printed).1

end Runlane.Agent
