import Runlane.Lib.Calls
import Runlane.Lib.KeyedList
import Runlane.Lib.Coexistence
import Runlane.Lib.Summary
import Runlane.Lib.Fifo
import Runlane.Lib.Failure
import Runlane.Lib.Fallible
import Runlane.Lib.Yaml
import Runlane.Lib.Text
import Runlane.Lib.Layers
import Runlane.Lib.SortDedup
import Runlane.Core.Vocabulary
import Runlane.Core.AuditLedger
import Runlane.Core.AgentProtocol
import Runlane.Core.Proposal
import Runlane.Core.HelperContract
import Runlane.Scheduler.Decision
import Runlane.Scheduler.Admission
import Runlane.Scheduler.Exclusion
import Runlane.Scheduler.Explanation
import Runlane.Scheduler.Disruption
import Runlane.Planner.Verification
import Runlane.Planner.Routes
import Runlane.Planner.Coverage
import Runlane.Planner.ServiceUnhealthy
import Runlane.Planner.RestartGate
import Runlane.Planner.RestartVerification
import Runlane.Planner.DiskPressure
import Runlane.ControlPlane.Operations
import Runlane.ControlPlane.Steps
import Runlane.ControlPlane.Results
import Runlane.ControlPlane.Queue
import Runlane.ControlPlane.Enrollment
import Runlane.ControlPlane.Refusals
import Runlane.ControlPlane.Expiry
import Runlane.ControlPlane.EventLog
import Runlane.ControlPlane.HonestResults
import Runlane.ControlPlane.Redelivery
import Runlane.Receipt.Generation
import Runlane.Receipt.Backing
import Runlane.Receipt.Lossless
import Runlane.Receipt.Changed
import Runlane.Durable.State
import Runlane.Durable.Refinement
import Runlane.Durable.Interleaving
import Runlane.Analyzer.Proposals
import Runlane.Analyzer.Markers
import Runlane.Analyzer.Signals
import Runlane.Planner.CleanupScope
import Runlane.Planner.Mounts
import Runlane.Approval.Store
import Runlane.Approval.Steps
import Runlane.Approval.Lifecycle
import Runlane.Approval.Replay
import Runlane.Approval.Authorisation
import Runlane.Telegram.Adapter
import Runlane.Telegram.Mediation
import Runlane.Helper.Input
import Runlane.Helper.Execute
import Runlane.Helper.Replay
import Runlane.Helper.Decoding
import Runlane.Fleet.Overlay
import Runlane.Fleet.Repository
import Runlane.Fleet.Isolation
import Runlane.Fleet.RuntimeTruth
import Runlane.Fleet.Allowlists
import Runlane.Agent.Config
import Runlane.Agent.Identity
import Runlane.E2e.Journey
import Runlane.E2e.Preparation
import Runlane.E2e.Panic
import Runlane.Lib.Gateway
import Runlane.Server.Http
import Runlane.Agent.Collection
import Runlane.Agent.Custody
import Runlane.Agent.Startup
import Runlane.Server.Boundary
import Runlane.Server.Refusals
import Runlane.Server.Traffic
import Runlane.Agent.Dogfood
import Runlane.Agent.Rehearsal
import Runlane.Agent.RehearsalRecord
import Runlane.E2e.Completion
import Runlane.Fleet.Listing
import Runlane.Helper.Commands
import Runlane.Helper.Invocations
import Runlane.Lib.Attempts
import Runlane.Lib.Worklist
import Runlane.Lib.WriteOnce
import Runlane.Operator.Commands
import Runlane.Operator.Outcomes
import Runlane.Planner.CollectFirst
import Runlane.Planner.RunLifecycle
import Runlane.Server.Commands
import Runlane.Server.StateDirectories
import Runlane.Xtask.Gate
