import Runlane.Lib.Calls
import Runlane.Lib.Fallible
import Runlane.Lib.KeyedList
import Runlane.Lib.Text
import Runlane.Planner.ServiceUnhealthy
import Mathlib.Tactic.SplitIfs

/-!
The platform backends of the agent: what each reports that it can do, and the
native commands by which it collects evidence.

A command line is a template of the backend, filled in with nothing but a checked
service name. Running a command is the host's part and a parameter here; the
state of a collection is the list of the commands handed to the host.
-/

namespace Runlane

structure UnsupportedCapability where
  capability : Capability
  reason : String
deriving DecidableEq

inductive CapabilityFailure where
  | unsupported (entry : UnsupportedCapability)
  | backendUnavailable (os : OperatingSystem) (reason : String)
deriving DecidableEq

/-- The text Rust's `Debug` prints. -/
def OperatingSystem.debug : OperatingSystem → String
  | linux => "Linux"
  | freeBsd => "FreeBsd"
  | openBsd => "OpenBsd"
  | solaris => "Solaris"
  | illumos => "Illumos"
  | unknown => "Unknown"

namespace Agent

open Fallible

inductive EvidenceKind where
  | serviceStatus
  | recentLogs
  | disk
  | process
  | socket
deriving DecidableEq

namespace EvidenceKind

def capabilityId : EvidenceKind → String
  | serviceStatus => "service.status"
  | recentLogs => "logs.recent"
  | disk => "storage.df"
  | process => "process.snapshot"
  | socket => "socket.snapshot"

def debug : EvidenceKind → String
  | serviceStatus => "ServiceStatus"
  | recentLogs => "RecentLogs"
  | disk => "Disk"
  | process => "Process"
  | socket => "Socket"

end EvidenceKind

inductive CollectorArg where
  | literal (value : String)
  | serviceName
deriving DecidableEq

structure CollectorSpec where
  kind : EvidenceKind
  capability : String
  program : String
  args : List CollectorArg
deriving DecidableEq

structure CollectorCommand where
  kind : EvidenceKind
  program : String
  args : List String
deriving DecidableEq

inductive CollectorExecutionError where
  | capability (failure : CapabilityFailure)
  | missingServiceName (kind : EvidenceKind)
  | invalidServiceName (serviceName reason : String)
  | io (command : CollectorCommand) (reason : String)
  | nonZeroStatus (command : CollectorCommand) (status : Option Int) (stderr : String)
  | emptyOutput (command : CollectorCommand)
deriving DecidableEq

def isServiceNameChar (c : Char) : Bool :=
  c.isAlphanum || c == '.' || c == '_' || c == '-' || c == '@'

/-- What the checks of a service name let through. -/
structure IsServiceName (value : String) : Prop where
  nonblank : Text.isBlank value = false
  short : value.utf8ByteSize ≤ 128
  first : value.toList.head?.any Char.isAlphanum = true
  chars : value.toList.all isServiceNameChar = true

structure ServiceName where
  value : String
  valid : IsServiceName value

def ServiceName.parse (value : String) : Except CollectorExecutionError ServiceName :=
  if blank : Text.isBlank value = true then
    .error (.invalidServiceName value "service name must not be empty")
  else if long : 128 < value.utf8ByteSize then
    .error (.invalidServiceName value "service name is too long")
  else if first : ¬ value.toList.head?.any Char.isAlphanum = true then
    .error (.invalidServiceName value
      "service name must start with an ASCII alphanumeric character")
  else if chars : ¬ value.toList.all isServiceNameChar = true then
    .error (.invalidServiceName value ("service name may contain only ASCII alphanumeric " ++
      "characters, dot, underscore, dash, or @"))
  else
    .ok ⟨value, Bool.of_not_eq_true blank, Nat.not_lt.mp long, not_not.mp first,
      not_not.mp chars⟩

theorem ServiceName.parse_of_valid {value : String} (valid : IsServiceName value) :
    ServiceName.parse value = .ok ⟨value, valid⟩ := by
  have filled : ¬ Text.isBlank value = true := by
    rw [valid.nonblank]
    exact Bool.false_ne_true
  rw [ServiceName.parse, dif_neg filled, dif_neg (Nat.not_lt.mpr valid.short),
    dif_neg (not_not.mpr valid.first), dif_neg (not_not.mpr valid.chars)]

theorem ServiceName.parse_eq_ok {value : String} {name : ServiceName} :
    ServiceName.parse value = .ok name ↔ name.value = value := by
  constructor
  · intro parsed
    unfold ServiceName.parse at parsed
    split_ifs at parsed
    cases parsed
    rfl
  · intro same
    obtain ⟨_, valid⟩ := name
    cases same
    exact ServiceName.parse_of_valid valid

/-- A name that is refused is refused for itself. -/
theorem ServiceName.parse_error {value : String} (invalid : ¬ IsServiceName value) :
    ∃ reason, ServiceName.parse value = .error (.invalidServiceName value reason) := by
  cases parsed : ServiceName.parse value with
  | ok name =>
      rw [ServiceName.parse_eq_ok] at parsed
      exact absurd (parsed ▸ name.valid) invalid
  | error error =>
      unfold ServiceName.parse at parsed
      split_ifs at parsed
      all_goals
        cases parsed
        exact ⟨_, rfl⟩

/-- A collector request, which names a service or not. -/
structure CollectorRequest where
  kind : EvidenceKind
  serviceName : Option ServiceName

namespace CollectorRequest

def simple (kind : EvidenceKind) : CollectorRequest :=
  ⟨kind, none⟩

def service (kind : EvidenceKind) (serviceName : String) :
    Except CollectorExecutionError CollectorRequest := do
  return ⟨kind, some (← ServiceName.parse serviceName)⟩

end CollectorRequest

/-- A capability report with what the backend explains that it does not support. -/
structure BackendReport extends CapabilityReport where
  unsupported : List UnsupportedCapability
deriving DecidableEq

structure PlatformBackend where
  os : OperatingSystem
  capabilityReport : String → BackendReport
  collectorSpecs : List CollectorSpec

def capabilities (values : List String) : List Capability :=
  values.map Capability.mk

def unsupported (values : List (String × String)) : List UnsupportedCapability :=
  values.map fun (capability, reason) => ⟨⟨capability⟩, reason⟩

def linuxBackend : PlatformBackend where
  os := .linux
  capabilityReport nodeId := {
    nodeId
    os := .linux
    capabilities := capabilities ["os.linux", "service.systemd", "logs.journald",
      "logs.syslog-file", "process.procfs", "process.ps", "socket.ss", "storage.df",
      "privilege.sudo-helper"]
    unsupported := unsupported [
      ("service.freebsd-rc", "Linux backend reports systemd for v0.1 service management"),
      ("service.openbsd-rcctl", "Linux backend reports systemd for v0.1 service management")] }
  collectorSpecs := [
    ⟨.serviceStatus, "service.systemd", "systemctl",
      [.literal "show", .literal "--no-pager", .serviceName]⟩,
    ⟨.recentLogs, "logs.journald", "journalctl",
      [.literal "-u", .serviceName, .literal "--since", .literal "-30m", .literal "--no-pager"]⟩,
    ⟨.disk, "storage.df", "df", [.literal "-P"]⟩,
    ⟨.process, "process.procfs", "ps", [.literal "-eo", .literal "pid,stat,comm"]⟩,
    ⟨.socket, "socket.ss", "ss", [.literal "-ltnp"]⟩]

def freeBsdBackend : PlatformBackend where
  os := .freeBsd
  capabilityReport nodeId := {
    nodeId
    os := .freeBsd
    capabilities := capabilities ["os.freebsd", "service.freebsd-rc", "logs.syslog-file",
      "process.procstat", "process.ps", "socket.sockstat", "storage.df", "package.freebsd-pkg",
      "privilege.sudo-helper"]
    unsupported := unsupported [
      ("service.systemd", "FreeBSD uses rc.d/service, not systemd"),
      ("logs.journald", "FreeBSD v0.1 backend uses syslog files"),
      ("service.openbsd-rcctl", "FreeBSD uses rc.d/service, not rcctl")] }
  collectorSpecs := [
    ⟨.serviceStatus, "service.freebsd-rc", "service", [.serviceName, .literal "status"]⟩,
    ⟨.recentLogs, "logs.syslog-file", "tail",
      [.literal "-n", .literal "300", .literal "/var/log/messages"]⟩,
    ⟨.disk, "storage.df", "df", [.literal "-P"]⟩,
    ⟨.process, "process.procstat", "procstat", [.literal "-a"]⟩,
    ⟨.socket, "socket.sockstat", "sockstat", [.literal "-l4"]⟩]

def openBsdBackend : PlatformBackend where
  os := .openBsd
  capabilityReport nodeId := {
    nodeId
    os := .openBsd
    capabilities := capabilities ["os.openbsd", "service.openbsd-rcctl", "logs.syslog-file",
      "process.ps", "socket.fstat", "storage.df", "package.openbsd-pkg-info",
      "privilege.doas-helper"]
    unsupported := unsupported [
      ("service.systemd", "OpenBSD uses rcctl, not systemd"),
      ("logs.journald", "OpenBSD v0.1 backend uses syslog files"),
      ("service.freebsd-rc", "OpenBSD uses rcctl, not FreeBSD rc.d/service")] }
  collectorSpecs := [
    ⟨.serviceStatus, "service.openbsd-rcctl", "rcctl", [.literal "check", .serviceName]⟩,
    ⟨.recentLogs, "logs.syslog-file", "tail",
      [.literal "-n", .literal "300", .literal "/var/log/messages"]⟩,
    ⟨.disk, "storage.df", "df", [.literal "-P"]⟩,
    ⟨.process, "process.ps", "ps", [.literal "axo", .literal "pid,stat,command"]⟩,
    ⟨.socket, "socket.fstat", "fstat", [.literal "-n"]⟩]

def unknownBackend : PlatformBackend where
  os := .unknown
  capabilityReport nodeId := {
    nodeId
    os := .unknown
    capabilities := []
    unsupported := [⟨⟨"platform.native-backend"⟩,
      "no native backend is available for this target OS"⟩] }
  collectorSpecs := []

inductive NativeBackend where
  | linux
  | freeBsd
  | openBsd
  | unknown
deriving DecidableEq

/-- The backend that a native one hands every call on to. -/
def NativeBackend.backend : NativeBackend → PlatformBackend
  | linux => linuxBackend
  | freeBsd => freeBsdBackend
  | openBsd => openBsdBackend
  | unknown => unknownBackend

structure CommandOutput where
  success : Bool
  code : Option Int
  stdout : String
  stderr : String

/-- What is taken from the output of a command: its standard output, or what it
complained of where that is blank. -/
def CommandOutput.body (output : CommandOutput) : String :=
  if Text.isBlank output.stdout then Text.trim output.stderr else Text.trim output.stdout

abbrev Collection := EStateM CollectorExecutionError (List CollectorCommand)

def normalizeFixture (os : OperatingSystem) (kind : EvidenceKind) (fixtureBody : String) :
    String :=
  let status := match kind with
    | .serviceStatus =>
        if fixtureBody.contains "ActiveState=active" || fixtureBody.contains "is running" ||
            fixtureBody.contains "(ok)" then
          "service=active"
        else "service=not-active"
    | .recentLogs => "logs=present"
    | .disk => "disk=present"
    | .process => "process=present"
    | .socket => "socket=present"
  s!"os={os.debug}; kind={kind.debug}; {status}\n{Text.trim fixtureBody}"

namespace PlatformBackend

variable (backend : PlatformBackend)

def requireCapability (capability : Capability) : Except CapabilityFailure Unit :=
  let report := backend.capabilityReport "capability-check"
  if report.supports capability then .ok ()
  else
    .error (.unsupported ((report.unsupported.find? fun entry =>
      entry.capability == capability).getD
        ⟨capability, s!"{backend.os.debug} backend does not report this capability"⟩))

/-- The collector of a kind, or a failure that names the kind's own capability. -/
def findCollector (kind : EvidenceKind) : Except CapabilityFailure CollectorSpec :=
  match KeyedList.lookup CollectorSpec.kind backend.collectorSpecs kind with
  | some spec => .ok spec
  | none => .error (.unsupported ⟨⟨kind.capabilityId⟩,
      s!"{backend.os.debug} backend has no collector for {kind.debug}"⟩)

def fillArg (request : CollectorRequest) : CollectorArg → Except CollectorExecutionError String
  | .literal value => .ok value
  | .serviceName =>
      match request.serviceName with
      | some service => .ok service.value
      | none => .error (.missingServiceName request.kind)

def collectorCommand (request : CollectorRequest) :
    Except CollectorExecutionError CollectorCommand := do
  let spec ← (backend.findCollector request.kind).mapError .capability
  (backend.requireCapability ⟨spec.capability⟩).mapError .capability
  let args ← spec.args.mapM (fillArg request)
  return { kind := request.kind, program := spec.program, args }

/-- Hands a command to the host. -/
def output (run : CollectorCommand → Except String CommandOutput) (command : CollectorCommand) :
    Collection CommandOutput := do
  modify fun commands => commands ++ [command]
  ofExcept ((run command).mapError (.io command))

def collectNative (run : CollectorCommand → Except String CommandOutput)
    (request : CollectorRequest) : Collection EvidenceEnvelope := do
  let command ← ofExcept (backend.collectorCommand request)
  let output ← output run command
  if !output.success then
    throw (.nonZeroStatus command output.code (Text.trim output.stderr))
  else if output.body.isEmpty then
    throw (.emptyOutput command)
  else
    return .text s!"collector:{command.program}:{command.kind.debug}"
      (normalizeFixture backend.os command.kind output.body)

/-- Every collector is for a kind of its own and needs what the backend reports. -/
structure Coherent : Prop where
  kinds : backend.collectorSpecs.Pairwise fun spec other => spec.kind ≠ other.kind
  reported : ∀ spec ∈ backend.collectorSpecs, backend.requireCapability ⟨spec.capability⟩ = .ok ()

/-- A place of a template is filled with its literal or with the name of the service. -/
inductive Fills (service : Option ServiceName) : CollectorArg → String → Prop where
  | literal (value : String) : Fills service (.literal value) value
  | service {name : ServiceName} (given : service = some name) :
      Fills service .serviceName name.value

variable {backend}

theorem fillArg_eq_ok {request : CollectorRequest} {arg : CollectorArg} {text : String} :
    fillArg request arg = .ok text ↔ Fills request.serviceName arg text := by
  constructor
  · intro filled
    cases arg with
    | literal value =>
        cases filled
        exact .literal _
    | serviceName =>
        cases given : request.serviceName with
        | none => simp [fillArg, given] at filled
        | some name =>
            simp only [fillArg, given] at filled
            cases filled
            exact .service rfl
  · intro fills
    cases fills with
    | literal => rfl
    | service given => simp only [fillArg, given]

theorem findCollector_eq_ok {kind : EvidenceKind} {spec : CollectorSpec}
    (coherent : backend.Coherent) :
    backend.findCollector kind = .ok spec ↔ spec ∈ backend.collectorSpecs ∧ spec.kind = kind := by
  unfold findCollector
  constructor
  · intro found
    split at found
    next listed present =>
      cases found
      exact ⟨KeyedList.mem_of_lookup _ present, KeyedList.key_of_lookup _ present⟩
    next => cases found
  · intro listed
    obtain ⟨member, rfl⟩ := listed
    rw [KeyedList.lookup_of_pairwise CollectorSpec.kind coherent.kinds member]

/-- The command lines of a backend are its templates, filled in. -/
theorem collectorCommand_eq_ok {request : CollectorRequest} {command : CollectorCommand}
    (coherent : backend.Coherent) :
    backend.collectorCommand request = .ok command ↔
      ∃ spec ∈ backend.collectorSpecs, spec.kind = request.kind ∧ command.kind = request.kind ∧
        command.program = spec.program ∧
        List.Forall₂ (Fills request.serviceName) spec.args command.args := by
  simp only [collectorCommand, bind_eq_ok, pure_eq_ok, mapError_eq_ok, mapM_eq_ok, fillArg_eq_ok,
    findCollector_eq_ok coherent]
  constructor
  · intro made
    obtain ⟨spec, ⟨member, same⟩, _, -, args, filled, rfl⟩ := made
    exact ⟨spec, member, same, rfl, rfl, filled⟩
  · intro template
    obtain ⟨spec, member, same, kind, program, filled⟩ := template
    refine ⟨spec, ⟨member, same⟩, (), coherent.reported spec member, command.args, filled, ?_⟩
    rw [← kind, ← program]

end PlatformBackend

theorem NativeBackend.coherent (native : NativeBackend) : native.backend.Coherent := by
  cases native with
  | linux => exact ⟨by decide, by decide⟩
  | freeBsd => exact ⟨by decide, by decide⟩
  | openBsd => exact ⟨by decide, by decide⟩
  | unknown => exact ⟨by decide, by decide⟩

end Agent

end Runlane
