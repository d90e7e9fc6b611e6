import Mathlib.Data.List.Basic

/-!
The smoke runner of the repository.

Its table names scripts and `cargo` commands; some of them change the host that
they run on. What the runner prints and starts is a log; how a started command
ends is up to the host, and may depend on everything that was started before.
-/

namespace Runlane.Xtask

inductive Safety where
  | safe
  | hostMutating
deriving DecidableEq

structure Step where
  program : String
  args : List String
deriving DecidableEq

structure Smoke where
  name : String
  safety : Safety
  inSafeSuite : Bool
  summary : String
  sideEffects : List String
  steps : List Step
deriving DecidableEq

structure RunOptions where
  dryRun : Bool
  confirmHostMutation : Bool
  passthrough : List String
deriving DecidableEq

/-- What stands behind `--` is passed through as it is. -/
def RunOptions.parseFrom (options : RunOptions) : List String → Except String RunOptions
  | [] => .ok options
  | "--dry-run" :: rest => parseFrom { options with dryRun := true } rest
  | "--confirm-host-mutation" :: rest => parseFrom { options with confirmHostMutation := true } rest
  | "--" :: rest => .ok { options with passthrough := options.passthrough ++ rest }
  | other :: _ => .error s!"unsupported smoke option: {other}"

def RunOptions.parse (args : List String) : Except String RunOptions :=
  parseFrom ⟨false, false, []⟩ args

def fleetSmoke : Smoke where
  name := "fleet"
  safety := .safe
  inSafeSuite := true
  summary := "validate the example fleet and server GitOps ingest path"
  sideEffects := []
  steps := [
    ⟨"cargo", ["run", "-p", "runlane", "--", "fleet", "validate", "examples/fleet"]⟩,
    ⟨"cargo", ["run", "-p", "runlane", "--", "server", "gitops", "sync", "examples/fleet"]⟩]

def controlPlaneSmoke : Smoke where
  name := "control-plane"
  safety := .safe
  inSafeSuite := true
  summary := "exercise in-process server and agent enrollment/pull demos"
  sideEffects := []
  steps := [
    ⟨"cargo", ["run", "-p", "runlane-server", "--", "demo-control-plane"]⟩,
    ⟨"cargo", ["run", "-p", "runlane-agent", "--", "demo-enroll-pull"]⟩]

def httpSmoke : Smoke where
  name := "http"
  safety := .safe
  inSafeSuite := true
  summary := "run the loopback live HTTP transport smoke"
  sideEffects := ["starts a temporary runlane-server on 127.0.0.1 and tears it down"]
  steps := [⟨"scripts/smoke/live-http-transport.sh", []⟩]

def telegramSmoke : Smoke where
  name := "telegram-live-simulated"
  safety := .safe
  inSafeSuite := true
  summary := "run Telegram approval adapter tests and live-simulated CLI smoke"
  sideEffects := ["uses no Telegram token and reads no secrets"]
  steps := [⟨"scripts/smoke/telegram-approval-live-simulated.sh", []⟩]

def e2eSmoke : Smoke where
  name := "e2e"
  safety := .safe
  inSafeSuite := true
  summary := "run deterministic service-unhealthy and disk-pressure demos"
  sideEffects := []
  steps := [
    ⟨"cargo", ["run", "-p", "runlane", "--", "demo", "service-unhealthy", "examples/fleet"]⟩,
    ⟨"cargo", ["run", "-p", "runlane", "--", "demo", "disk-pressure", "examples/fleet"]⟩,
    ⟨"cargo", ["run", "-p", "runlane", "--", "receipt", "show", "run-demo-service-unhealthy",
      "examples/fleet"]⟩,
    ⟨"cargo", ["run", "-p", "runlane", "--", "receipt", "show", "run-demo-disk-pressure",
      "examples/fleet"]⟩]

/-- A smoke that is one script and changes the host. -/
def mutatingSmoke (name summary script : String) (sideEffects : List String) : Smoke where
  name
  safety := .hostMutating
  inSafeSuite := false
  summary
  sideEffects
  steps := [⟨script, []⟩]

def linuxHelperInstallSmoke : Smoke :=
  mutatingSmoke "linux-helper-install" "install and validate the Linux sudo helper boundary"
    "scripts/smoke/linux-helper-install.sh"
    ["requires Linux, sudo -n, and an existing unprivileged smoke user",
      "installs a root-owned helper, allowlist, and sudoers fragment",
      "restores prior helper, allowlist, and sudoers state unless the script is told to keep it"]

def linuxDogfoodSmoke : Smoke :=
  mutatingSmoke "linux-service-unhealthy-dogfood"
    "run the controlled Linux systemd service-unhealthy dogfood"
    "scripts/smoke/linux-service-unhealthy-dogfood.sh"
    ["requires Linux, systemd, and sudo -n",
      "creates only runlane-demo-unhealthy.service",
      "removes the controlled demo service and temporary state during teardown"]

def freeBsdSmoke : Smoke :=
  mutatingSmoke "freebsd-vm-validation" "run FreeBSD VM validation including sudo helper smoke"
    "scripts/smoke/freebsd-vm-validation.sh"
    ["must run inside the intended FreeBSD VM",
      "uses sudo to install helper, allowlist, and sudoers test state",
      "restores prior VM helper, allowlist, and sudoers state during teardown"]

def openBsdSmoke : Smoke :=
  mutatingSmoke "openbsd-vm-validation" "run OpenBSD VM validation including doas helper smoke"
    "scripts/smoke/openbsd-vm-validation.sh"
    ["must run inside the intended OpenBSD VM",
      "uses doas to install helper, allowlist, and doas test state",
      "restores prior VM helper, allowlist, and doas state during teardown"]

def smokes : List Smoke :=
  [fleetSmoke, controlPlaneSmoke, httpSmoke, telegramSmoke, e2eSmoke, linuxHelperInstallSmoke,
    linuxDogfoodSmoke, freeBsdSmoke, openBsdSmoke]

def safeSuite : List Smoke :=
  smokes.filter fun smoke => smoke.inSafeSuite

/-- A program and the arguments it is started with. -/
structure Invocation where
  program : String
  args : List String
deriving DecidableEq

inductive Event where
  | out (line : String)
  | err (line : String)
  | started (invocation : Invocation)
deriving DecidableEq

/-- How a command ends, if it starts. -/
inductive Exit where
  | unstarted (error : String)
  | success
  | code (n : Int)
  | signalled

/-- The host, as far as the commands started so far decide how the next one ends. -/
abbrev World := List Invocation → Invocation → Exit

abbrev Runner := EStateM String (List Event)

def started (log : List Event) : List Invocation :=
  log.filterMap fun event =>
    match event with
    | .started invocation => some invocation
    | _ => none

def emit (event : Event) : Runner Unit :=
  modify fun log => log ++ [event]

def println (line : String) : Runner Unit :=
  emit (.out line)

variable (world : World)

/-- Starts a command and waits for its end. -/
def status (invocation : Invocation) : Runner Exit := do
  let log ← get
  emit (.started invocation)
  return world (started log) invocation

def Step.invocation (step : Step) (passthrough : List String) : Invocation where
  program := step.program
  args := step.args ++ passthrough

def Invocation.line (invocation : Invocation) : String :=
  if invocation.args.isEmpty then s!"$ {invocation.program}"
  else s!"$ {invocation.program} " ++ " ".intercalate invocation.args

def judge (program : String) : Exit → Except String Unit
  | .success => .ok ()
  | .unstarted error => .error s!"failed to start {program}: {error}"
  | .code n => .error s!"{program} exited with status {n}"
  | .signalled => .error s!"{program} exited with status terminated by signal"

def runStep (dryRun : Bool) (passthrough : List String) (step : Step) : Runner Unit := do
  let invocation := step.invocation passthrough
  println invocation.line
  if dryRun then return ()
  else do
    let exit ← status world invocation
    ofExcept (judge step.program exit)

def runSmoke (smoke : Smoke) (dryRun : Bool) (passthrough : List String) : Runner Unit := do
  println s!"smoke: {smoke.name} ({smoke.summary})"
  smoke.sideEffects.forM fun effect => println s!"side effect: {effect}"
  smoke.steps.forM (runStep world dryRun passthrough)

def runSafeSmokes (dryRun : Bool) : Runner Unit :=
  safeSuite.forM fun smoke => runSmoke world smoke dryRun []

def describeHostMutation (smoke : Smoke) : Runner Unit := do
  emit (.err s!"host-mutating smoke: {smoke.name}")
  emit (.err smoke.summary)
  smoke.sideEffects.forM fun effect => emit (.err s!"side effect: {effect}")

def findSmoke (name : String) : Except String Smoke :=
  match smokes.find? fun smoke => smoke.name = name with
  | some smoke => .ok smoke
  | none => .error s!"unknown smoke: {name}; run cargo xtask smoke list"

/-- A host-mutating smoke runs only when it is confirmed; a dry run needs no confirmation. -/
def runFound (name : String) (smoke : Smoke) (options : RunOptions) : Runner Unit :=
  if smoke.safety = .hostMutating ∧ !options.confirmHostMutation ∧ !options.dryRun then do
    describeHostMutation smoke
    throw (s!"refusing to run host-mutating smoke {name}; " ++
      "rerun with --confirm-host-mutation")
  else if !options.passthrough.isEmpty ∧ smoke.steps.length ≠ 1 then
    throw (s!"smoke {name} has multiple steps; passthrough arguments are only supported for " ++
      "single-script smokes")
  else runSmoke world smoke options.dryRun options.passthrough

def runNamedSmoke (name : String) (options : RunOptions) : Runner Unit := do
  let smoke ← ofExcept (findSmoke name)
  runFound world name smoke options

def runSafe (options : RunOptions) : Runner Unit :=
  if options.confirmHostMutation then
    throw "--confirm-host-mutation is not valid for smoke safe"
  else if !options.passthrough.isEmpty then
    throw "smoke safe does not accept passthrough script arguments"
  else runSafeSmokes world options.dryRun

def help : String :=
  "cargo xtask smoke list\ncargo xtask smoke safe [--dry-run]\n" ++
    "cargo xtask smoke <name> [--dry-run] [--confirm-host-mutation] [-- <script-args>]"

/-- A name with spaces behind it to a width of 32. -/
def column (name : String) : String :=
  name ++ String.ofList (List.replicate (32 - name.length) ' ')

def printSmokeList : Runner Unit := do
  println "safe suite:"
  safeSuite.forM fun smoke => println s!"  {column smoke.name} {smoke.summary}"
  println ""
  println "explicit host-mutating or VM smokes:"
  (smokes.filter fun smoke => smoke.safety = .hostMutating).forM fun smoke => do
    println s!"  {column smoke.name} {smoke.summary}"
    smoke.sideEffects.forM fun effect => println s!"    side effect: {effect}"

def run : List String → Runner Unit
  | [] | ["--help"] | ["-h"] => println help
  | ["smoke"] => printSmokeList
  | ["smoke", "--help"] | ["smoke", "-h"] => println help
  | ["smoke", "list"] => printSmokeList
  | "smoke" :: "safe" :: rest => do
      let options ← ofExcept (RunOptions.parse rest)
      runSafe world options
  | "smoke" :: name :: rest => do
      let options ← ofExcept (RunOptions.parse rest)
      runNamedSmoke world name options
  | args => throw ("unsupported xtask command: " ++ " ".intercalate args)

end Runlane.Xtask
