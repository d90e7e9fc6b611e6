import Runlane.Lib.Text
import Runlane.Approval.Steps

/-!
The Telegram adapter in front of the approval store.

A message is split at white space and matched against a few command shapes. The
sender is looked up in a list of authorized actors before the command is looked
at, and the store is reached through its own operations only.
-/

namespace Runlane

/-- Telegram user identity presented to the approval adapter. -/
structure TelegramIdentity where
  chatId : Int
  userId : Int
  username : Option String
deriving DecidableEq

structure TelegramAuthorizedActor where
  chatId : Int
  userId : Int
  actor : String
deriving DecidableEq

structure TelegramIdentityMap where
  actors : List TelegramAuthorizedActor
deriving DecidableEq

inductive TelegramApprovalCommand where
  | list
  | showApproval (approvalId : String)
  | approve (approvalId : String)
  | reject (approvalId : String)
deriving DecidableEq

/-- Runtime context supplied by the server-side adapter boundary. -/
structure TelegramApprovalContext where
  nowUnixSeconds : Nat
  allowlistEntryId : String
  leaseNonce : String
deriving DecidableEq

structure TelegramApprovalSummary where
  id : String
  actionId : String
  targetResourceId : String
  expiresAtUnixSeconds : Nat
deriving DecidableEq

def TelegramApprovalSummary.fromRecord (record : ApprovalRecord) : TelegramApprovalSummary where
  id := record.id
  actionId := record.actionId
  targetResourceId := record.target.resourceId
  expiresAtUnixSeconds := record.expiresAtUnixSeconds

structure TelegramApprovalDetail where
  summary : TelegramApprovalSummary
  requiredChecks : Nat
  skippedChecks : Nat
  verification : VerificationPlan
deriving DecidableEq

def TelegramApprovalDetail.fromRecord (record : ApprovalRecord) : TelegramApprovalDetail where
  summary := .fromRecord record
  requiredChecks := record.verification.required.length
  skippedChecks := record.verification.skipped.length
  verification := record.verification

inductive TelegramApprovalResponse where
  | pendingApprovals (summaries : List TelegramApprovalSummary)
  | approvalDetail (detail : TelegramApprovalDetail)
  | approved (approvalId leaseId : String) (action : ActionKind) (actor : String)
  | rejected (approvalId actor : String)
deriving DecidableEq

inductive TelegramApprovalError where
  | unauthorizedIdentity (chatId userId : Int)
  | unsupportedCommand (command : String)
  | unknownApproval (approvalId : String)
  | approval (error : ApprovalError)
deriving DecidableEq

def splitWhitespace (text : String) : List String :=
  ((text.toList.splitOnP Text.isWhitespace).filter fun part => !part.isEmpty).map String.ofList

/-- Parses a Telegram message into the narrow approval command enum. -/
def TelegramApprovalCommand.parse (message : String) :
    Except TelegramApprovalError TelegramApprovalCommand :=
  match splitWhitespace message with
  | ["/approvals"] | ["/approval", "list"] => .ok .list
  | ["/approval", "show", approvalId] | ["/show", approvalId] => .ok (.showApproval approvalId)
  | ["/approval", "approve", approvalId] | ["/approve", approvalId] => .ok (.approve approvalId)
  | ["/approval", "reject", approvalId] | ["/reject", approvalId] => .ok (.reject approvalId)
  | command :: _ => .error (.unsupportedCommand command)
  | [] => .error (.unsupportedCommand "")

def TelegramIdentityMap.actorFor (map : TelegramIdentityMap) (identity : TelegramIdentity) :
    Except TelegramApprovalError String :=
  match map.actors.find? fun actor =>
      actor.chatId == identity.chatId && actor.userId == identity.userId with
  | some actor => .ok actor.actor
  | none => .error (.unauthorizedIdentity identity.chatId identity.userId)

namespace TelegramApproval

open Calls

abbrev Adapter := EStateM TelegramApprovalError ApprovalStore

/-- An operation of the store, whose errors become errors of the adapter. -/
def store {α : Type} (operation : ApprovalStore.Approvals α) : Adapter α :=
  EStateM.adaptExcept .approval operation

/-- Handles one Telegram approval command through the shared approval API. -/
def handleCommand (identityMap : TelegramIdentityMap) (identity : TelegramIdentity)
    (command : TelegramApprovalCommand) (context : TelegramApprovalContext) :
    Adapter TelegramApprovalResponse :=
  match identityMap.actorFor identity with
  | .error error => do
      store (ApprovalStore.recordAdapterRejection "telegram" "unauthorized_identity")
      throw error
  | .ok actor =>
      match command with
      | .list => do
          let approvals ← get
          return .pendingApprovals (approvals.listPending.map .fromRecord)
      | .showApproval approvalId => do
          let approvals ← get
          let record ← okOr (approvals.showApproval approvalId) (.unknownApproval approvalId)
          return .approvalDetail (.fromRecord record)
      | .approve approvalId => do
          let approvals ← get
          let record ← okOr (approvals.showApproval approvalId) (.unknownApproval approvalId)
          let claims ← store (ApprovalStore.approve approvalId record.actionId actor
            context.nowUnixSeconds context.allowlistEntryId context.leaseNonce)
          return .approved approvalId claims.leaseId claims.action actor
      | .reject approvalId => do
          store (ApprovalStore.reject approvalId actor context.nowUnixSeconds)
          return .rejected approvalId actor

structure Message where
  identity : TelegramIdentity
  text : String
  context : TelegramApprovalContext

/-- A message is parsed before its sender is looked up. -/
def handleMessage (identityMap : TelegramIdentityMap) (message : Message) :
    Adapter TelegramApprovalResponse := do
  let command ← ofExcept (TelegramApprovalCommand.parse message.text)
  handleCommand identityMap message.identity command message.context

end TelegramApproval

end Runlane
