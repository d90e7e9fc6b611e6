import Mathlib.Logic.Function.Basic
import Runlane.ControlPlane.Operations
import Runlane.Operator.Commands

/-!
The command line of the server.

Its state commands reach the ledger files of state directories; which file a
directory leads to is up to the file system. The listener of the demo server is
outside, its control plane is not.
-/

namespace Runlane

namespace Server

open Operator (Halt DebugTexts displayDurable)

/-- What becomes of a listener: it is never bound, or it serves to an end. -/
inductive Serving where
  | unbound (error : String)
  | bound (outcome : Except String Unit)

/-- What the server's commands find outside, the state directories apart. -/
structure Host where
  tree : String → Fleet.FleetTree
  fleetYaml : Fleet.FleetYaml
  serve : String → Serving

variable {κ α : Type} [DecidableEq κ]

/-- The lines printed so far and the ledger files. -/
structure Console (κ : Type) where
  lines : List String
  files : κ → LedgerFile

abbrev Cli (κ : Type) := EStateM Halt (Console κ)

def println (line : String) : Cli κ Unit :=
  modify fun console => { console with lines := console.lines ++ [line] }

variable (debug : DebugTexts)

def onFile (key : κ) (method : EStateM DurableStateError LedgerFile α) : Cli κ α := fun console =>
  match method.run (console.files key) with
  | .ok a file => .ok a { console with files := Function.update console.files key file }
  | .error error file => .error (.failed (displayDurable debug error))
      { console with files := Function.update console.files key file }

abbrev Demo := EStateM Halt ControlPlane

def expect (message : String) (method : ControlPlane.Runtime α) : Demo α :=
  method.adaptExcept fun error => .panicked s!"{message}: {debug.journey.runtime error}"

def demoToken : EnrollmentToken where
  tokenId := "token-prod-web-01"
  token := "demo-token"
  nodeId := "prod-web-01"
  os := .linux
  serverTrustRoot := "demo-trust-root"
  expiresAtUnixSeconds := 200
  nonce := "enroll-nonce"

def demoEnrollment : AgentEnrollmentRequest where
  token := "demo-token"
  nodeId := "prod-web-01"
  os := .linux
  certificateFingerprint := "demo-cert-fingerprint"
  serverTrustRoot := "demo-trust-root"
  nowUnixSeconds := 100

def demoTask (envelopeId taskId nonce auditCorrelationId : String) : PendingAgentTask where
  envelope := {
    envelopeId
    runId := "run-1"
    taskId
    nodeId := "prod-web-01"
    issuedAtUnixSeconds := 100
    expiresAtUnixSeconds := 200
    nonce
    requiredCapabilities := [⟨"service.systemd"⟩]
    auditCorrelationId }
  payload := .collectEvidence ⟨"service.systemd"⟩ "system:node/prod-web-01/service/sshd"

/-- Queuing a task returns no error. -/
def enqueueTask (task : PendingAgentTask) : Demo Unit :=
  (ControlPlane.enqueueTask task).adaptExcept fun error =>
    .panicked (debug.journey.runtime error)

def httpDemoControlPlane : Demo Unit := do
  expect debug "demo token is valid" (ControlPlane.createEnrollmentToken demoToken)
  let _ ← expect debug "demo agent enrolls" (ControlPlane.enrollAgent demoEnrollment)
  enqueueTask debug (demoTask "env-1" "collect-service-status" "nonce-1" "audit-1")
  enqueueTask debug (demoTask "env-2" "collect-service-status-2" "nonce-2" "audit-2")

/-- The answer of the demo agent to a task it pulled. -/
def demoResult (envelope : AgentTaskEnvelope) : AgentResultSubmission where
  envelopeId := envelope.envelopeId
  runId := envelope.runId
  taskId := envelope.taskId
  nodeId := envelope.nodeId
  nonce := envelope.nonce
  status := .succeeded
  evidence := [.text "service_status" "sshd active"]
  auditCorrelationId := envelope.auditCorrelationId

def firstAgent : Demo AgentIdentityRecord := do
  match (← get).agents with
  | agent :: _ => return agent
  | [] => throw (.panicked "index out of bounds: the len is 0 but the index is 0")

def demoExchange : Demo Unit := do
  httpDemoControlPlane debug
  let agent ← firstAgent
  let pulled ← expect debug "demo pull succeeds" (ControlPlane.pullTask agent.identity 101)
  expect debug "demo result accepted"
    (ControlPlane.submitResult agent.identity (demoResult pulled.envelope) 102)

/-- The control plane that is set up inside a command. -/
def built (demo : Demo Unit) : Except Halt ControlPlane :=
  match demo.run .empty with
  | .ok () plane => .ok plane
  | .error halt _ => .error halt

def demoControlPlane : Cli κ Unit := do
  let plane ← ofExcept (built (demoExchange debug))
  println (s!"runlane-server demo-control-plane; enrolled_agents={plane.agents.length}; " ++
    s!"accepted_results={plane.acceptedResults.length}; " ++
    s!"audit_events={plane.ledger.events.length}")

variable (host : Host)

def served (addr : String) : Serving → Cli κ Unit
  | .unbound error => throw (.failed error)
  | .bound outcome => do
      println s!"runlane-server http demo listening on {addr}"
      ofExcept (outcome.mapError .failed)

def serveHttpDemo (addr : String) : Cli κ Unit := do
  let _ ← ofExcept (built (httpDemoControlPlane debug))
  served addr (host.serve addr)

variable (io : StateIo) (place : String → κ)

def simulation (fleetPath : String) : Except Halt E2e.ServiceUnhealthySimulation :=
  match E2e.runServiceUnhealthySimulation debug.journey debug.plan fleetPath
      (host.tree fleetPath) host.fleetYaml with
  | .ok simulation => .ok simulation
  | .error (.failed error) => .error (.failed error.display)
  | .error (.panicked message) => .error (.panicked message)

def writtenLine (simulation : E2e.ServiceUnhealthySimulation) (state : LocalServerState) : String :=
  s!"server state demo-write ok; run={simulation.runId}; " ++
    s!"events={simulation.ledger.events.length}; ledger={state.layout.auditLedger}"

def stateDemoWrite (stateDir fleetPath : String) : Cli κ Unit := do
  let simulation ← ofExcept (simulation debug host fleetPath)
  let state ← onFile debug (place stateDir) (LocalServerState.init io stateDir)
  onFile debug (place stateDir) (LocalServerState.appendLedger io state simulation.ledger)
  println (writtenLine simulation state)

def stateReceipt (stateDir runId : String) : Cli κ Unit := do
  let console ← get
  let receipt ← ofExcept ((LocalServerState.renderReceipt io (.open stateDir) runId
    (console.files (place stateDir))).mapError fun error => .failed (displayDurable debug error))
  println receipt.renderText

def run : List String → Cli κ Unit
  | [] => println "runlane-server skeleton; initial_run_state=Created"
  | ["demo-control-plane"] => demoControlPlane debug
  | ["state", "demo-write", stateDir, fleetPath] =>
      stateDemoWrite debug host io place stateDir fleetPath
  | ["state", "receipt", stateDir, runId] => stateReceipt debug io place stateDir runId
  | ["http", "demo-serve", addr] => serveHttpDemo debug host addr
  | args => throw (.failed ("unsupported runlane-server command: " ++ " ".intercalate args))

end Server

end Runlane
