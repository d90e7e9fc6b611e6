import Runlane.Lib.Calls
import Runlane.Lib.KeyedList
import Runlane.Core.AuditLedger
import Runlane.Core.Proposal

/-!
The approval store. Records are appended by `request` and never leave; every
other operation addresses a record by id, and an id names the first record that
carries it. A decision changes the state of that record and nothing else, and
appends its audit event.
-/

namespace Runlane

inductive ApprovalState where
  | pending
  | approved
  | rejected
  | expired
  | superseded
deriving DecidableEq

/-- Runtime approval record bound to exactly one proposal action. -/
structure ApprovalRecord where
  id : String
  runId : String
  proposalId : String
  actionId : String
  action : ProposedActionKind
  layer : OperationalLayer
  target : ActionTarget
  impact : ImpactSet
  leaseRequest : ResourceLeaseRequest
  verification : VerificationPlan
  evidenceReferences : List String
  state : ApprovalState
  requestedAtUnixSeconds : Nat
  expiresAtUnixSeconds : Nat
deriving DecidableEq

/-- The code expects the proposal to hold the action and stops where it does not. -/
def ApprovalRecord.new (id runId : String) (proposal : StructuredProposal) (actionId : String)
    (layer : OperationalLayer) (subject : String) (impact : ImpactSet)
    (verification : VerificationPlan) (requestedAtUnixSeconds expiresAtUnixSeconds : Nat) :
    Option ApprovalRecord :=
  (KeyedList.lookup ProposedAction.id proposal.proposedActions actionId).map fun action => {
    id
    runId
    proposalId := proposal.id
    actionId := action.id
    action := action.kind
    layer
    target := ⟨action.targetResourceId, subject⟩
    impact
    leaseRequest := action.leaseRequest.getD
      ⟨action.targetResourceId, .exclusive, "approval-bound default exclusive lease"⟩
    verification
    evidenceReferences := proposal.evidenceReferences
    state := .pending
    requestedAtUnixSeconds
    expiresAtUnixSeconds }

inductive ApprovalError where
  | unknownApproval
  | notPending
  | staleApproval
  | actionMismatch
  | unsupportedHelperAction
  | auditAppend (error : AuditAppendError)
deriving DecidableEq

def nodeFromTarget (resourceId : String) : String :=
  match "system:node/".toList.isPrefixOf? resourceId.toList with
  | some rest => String.ofList (rest.takeWhile (· ≠ '/'))
  | none => "unknown-node"

structure ApprovalStore where
  records : List ApprovalRecord
  ledger : AuditLedger
deriving DecidableEq

namespace ApprovalStore

open Calls KeyedList

abbrev Approvals := EStateM ApprovalError ApprovalStore

def empty : ApprovalStore where
  records := []
  ledger := .empty

def appendEvent (kind : AuditEventKind) : Approvals Unit := do
  let store ← get
  let sequence := store.ledger.nextSequence
  match store.ledger.append ⟨s!"approval-event-{sequence}", "approval", sequence, kind⟩ with
  | .ok ledger => set { store with ledger := ledger }
  | .error error => throw (.auditAppend error)

def request (record : ApprovalRecord) : Approvals Unit := do
  appendEvent (.approvalRequested record.id record.proposalId record.actionId)
  modify fun store => { store with records := store.records ++ [record] }

def listPending (store : ApprovalStore) : List ApprovalRecord :=
  store.records.filter fun record => record.state = .pending

/-- Shows an approval by id. -/
def showApproval (store : ApprovalStore) (id : String) : Option ApprovalRecord :=
  lookup ApprovalRecord.id store.records id

def indexOf (store : ApprovalStore) (id : String) :
    Except ApprovalError (Fin store.records.length) :=
  match store.records.findFinIdx? fun record => record.id = id with
  | some index => .ok index
  | none => .error .unknownApproval

def ensurePendingNotStale (record : ApprovalRecord) (nowUnixSeconds : Nat) :
    Except ApprovalError Unit :=
  if record.state ≠ .pending then .error .notPending
  else if record.expiresAtUnixSeconds ≤ nowUnixSeconds then .error .staleApproval
  else .ok ()

def setState (index : Nat) (state : ApprovalState) : Approvals Unit :=
  modify fun store =>
    { store with records := store.records.modify index fun record => { record with state } }

def leaseClaims (id : String) (record : ApprovalRecord) (helperAction : ActionKind)
    (allowlistEntryId leaseNonce : String) : CapabilityLeaseClaims where
  leaseId := s!"lease-{id}"
  runId := record.runId
  approvalId := record.id
  nodeId := nodeFromTarget record.target.resourceId
  action := helperAction
  target := record.target
  allowlistEntryId := allowlistEntryId
  expiresAtUnixSeconds := record.expiresAtUnixSeconds
  nonce := leaseNonce

/-- Approves an exact proposal action and returns lease claims to sign. -/
def approve (id expectedActionId actor : String) (nowUnixSeconds : Nat)
    (allowlistEntryId leaseNonce : String) : Approvals CapabilityLeaseClaims := do
  let store ← get
  let index ← ofExcept (store.indexOf id)
  let record := store.records[index]
  ofExcept (ensurePendingNotStale record nowUnixSeconds)
  if record.actionId ≠ expectedActionId then throw .actionMismatch
  else
    let helperAction ← okOr record.action.helperAction .unsupportedHelperAction
    let claims := leaseClaims id record helperAction allowlistEntryId leaseNonce
    setState index .approved
    appendEvent (.approvalDecision id actor .approved)
    return claims

def reject (id actor : String) (nowUnixSeconds : Nat) : Approvals Unit := do
  let store ← get
  let index ← ofExcept (store.indexOf id)
  let record := store.records[index]
  ofExcept (ensurePendingNotStale record nowUnixSeconds)
  setState index .rejected
  appendEvent (.approvalDecision id actor .rejected)

def expire (id : String) (nowUnixSeconds : Nat) : Approvals Unit := do
  let store ← get
  let index ← ofExcept (store.indexOf id)
  if store.records[index].state ≠ .pending then throw .notPending
  else if nowUnixSeconds < store.records[index].expiresAtUnixSeconds then throw .staleApproval
  else
    setState index .expired
    appendEvent (.approvalExpired id)

def supersede (id supersededBy : String) : Approvals Unit := do
  let store ← get
  let index ← ofExcept (store.indexOf id)
  if store.records[index].state ≠ .pending then throw .notPending
  else
    setState index .superseded
    appendEvent (.approvalSuperseded id supersededBy)

def recordAdapterRejection (adapter reason : String) : Approvals Unit :=
  appendEvent (.approvalAdapterRejected adapter reason)

inductive Op where
  | request (record : ApprovalRecord)
  | approve (id expectedActionId actor : String) (nowUnixSeconds : Nat)
      (allowlistEntryId leaseNonce : String)
  | reject (id actor : String) (nowUnixSeconds : Nat)
  | expire (id : String) (nowUnixSeconds : Nat)
  | supersede (id supersededBy : String)
  | recordAdapterRejection (adapter reason : String)
deriving DecidableEq

inductive Reply where
  | done
  | leased (claims : CapabilityLeaseClaims)
deriving DecidableEq

def perform : Op → Approvals Reply
  | .request record => do
      request record
      return .done
  | .approve id expectedActionId actor now allowlistEntryId leaseNonce =>
      return .leased (← approve id expectedActionId actor now allowlistEntryId leaseNonce)
  | .reject id actor now => do
      reject id actor now
      return .done
  | .expire id now => do
      expire id now
      return .done
  | .supersede id supersededBy => do
      supersede id supersededBy
      return .done
  | .recordAdapterRejection adapter reason => do
      recordAdapterRejection adapter reason
      return .done

/-- The store after any operations, failing ones included. -/
abbrev storeAfter (ops : List Op) : ApprovalStore :=
  exec perform empty ops

end ApprovalStore

end Runlane
