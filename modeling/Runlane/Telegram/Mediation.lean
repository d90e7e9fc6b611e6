import Runlane.Telegram.Adapter

/-!
What reaches the approval store through the Telegram adapter.

The adapter reads the record and then calls the store with what it read. Since
nothing happens in between, this is the call that the mapped actor could have
made, with its outcome and its effect, or no call at all.
-/

namespace Runlane

open Calls

/-- The first entry for the chat and user of the identity, which names the actor. -/
def TelegramIdentityMap.Maps (map : TelegramIdentityMap) (identity : TelegramIdentity)
    (actor : String) : Prop :=
  ∃ earlier entry later, map.actors = earlier ++ entry :: later ∧
    (entry.chatId = identity.chatId ∧ entry.userId = identity.userId) ∧
    (∀ other ∈ earlier, ¬ (other.chatId = identity.chatId ∧ other.userId = identity.userId)) ∧
    entry.actor = actor

theorem TelegramIdentityMap.actorFor_eq_ok {map : TelegramIdentityMap}
    {identity : TelegramIdentity} {actor : String} (h : map.actorFor identity = .ok actor) :
    map.Maps identity actor := by
  unfold actorFor at h
  split at h
  case h_1 entry found =>
    cases h
    obtain ⟨same, earlier, later, split, others⟩ := List.find?_eq_some_iff_append.mp found
    refine ⟨earlier, entry, later, split, by simpa using same, ?_, rfl⟩
    intro other member both
    have differs := others other member
    simp [both.1, both.2] at differs
  case h_2 => cases h

theorem TelegramIdentityMap.actorFor_eq_error {map : TelegramIdentityMap}
    {identity : TelegramIdentity} {error : TelegramApprovalError}
    (h : map.actorFor identity = .error error) :
    error = .unauthorizedIdentity identity.chatId identity.userId ∧
      ∀ entry ∈ map.actors,
        ¬ (entry.chatId = identity.chatId ∧ entry.userId = identity.userId) := by
  unfold actorFor at h
  split at h
  case h_1 => cases h
  case h_2 unmapped =>
    cases h
    exact ⟨rfl, by simpa using unmapped⟩

namespace TelegramApproval

/-- What a command of the actor comes to, in terms of the store's own calls. -/
inductive DirectEffect (approvals : ApprovalStore) (actor : String)
    (context : TelegramApprovalContext) : TelegramApprovalCommand →
      EStateM.Result TelegramApprovalError ApprovalStore TelegramApprovalResponse → Prop where
  | listed : DirectEffect approvals actor context .list
      (.ok (.pendingApprovals (approvals.listPending.map .fromRecord)) approvals)
  | shown {id : String} {record : ApprovalRecord}
      (found : approvals.showApproval id = some record) :
      DirectEffect approvals actor context (.showApproval id)
        (.ok (.approvalDetail (.fromRecord record)) approvals)
  | unknown {command : TelegramApprovalCommand} {id : String}
      (named : command = .showApproval id ∨ command = .approve id)
      (absent : approvals.showApproval id = none) :
      DirectEffect approvals actor context command (.error (.unknownApproval id) approvals)
  | approved {id : String} {record : ApprovalRecord} {claims : CapabilityLeaseClaims}
      {after : ApprovalStore} (found : approvals.showApproval id = some record)
      (run : (ApprovalStore.approve id record.actionId actor context.nowUnixSeconds
        context.allowlistEntryId context.leaseNonce).run approvals = .ok claims after) :
      DirectEffect approvals actor context (.approve id)
        (.ok (.approved id claims.leaseId claims.action actor) after)
  | approvalRefused {id : String} {record : ApprovalRecord} {error : ApprovalError}
      {after : ApprovalStore} (found : approvals.showApproval id = some record)
      (run : (ApprovalStore.approve id record.actionId actor context.nowUnixSeconds
        context.allowlistEntryId context.leaseNonce).run approvals = .error error after) :
      DirectEffect approvals actor context (.approve id) (.error (.approval error) after)
  | rejected {id : String} {after : ApprovalStore}
      (run : (ApprovalStore.reject id actor context.nowUnixSeconds).run approvals =
        .ok () after) :
      DirectEffect approvals actor context (.reject id) (.ok (.rejected id actor) after)
  | rejectionRefused {id : String} {error : ApprovalError} {after : ApprovalStore}
      (run : (ApprovalStore.reject id actor context.nowUnixSeconds).run approvals =
        .error error after) :
      DirectEffect approvals actor context (.reject id) (.error (.approval error) after)

section Handling

variable {identityMap : TelegramIdentityMap} {identity : TelegramIdentity}
  {context : TelegramApprovalContext} {approvals after : ApprovalStore}

theorem run_store_ok {α : Type} {operation : ApprovalStore.Approvals α} {a : α}
    (run : operation.run approvals = .ok a after) :
    (store operation).run approvals = .ok a after := by
  rw [EStateM.run] at run
  simp only [store, EStateM.run, EStateM.adaptExcept, run]

theorem run_store_error {α : Type} {operation : ApprovalStore.Approvals α} {error : ApprovalError}
    (run : operation.run approvals = .error error after) :
    (store operation).run approvals = .error (.approval error) after := by
  rw [EStateM.run] at run
  simp only [store, EStateM.run, EStateM.adaptExcept, run]

theorem handleCommand_unauthorized {error : TelegramApprovalError}
    (unmapped : identityMap.actorFor identity = .error error) (command : TelegramApprovalCommand) :
    (handleCommand identityMap identity command context).run approvals =
      .error error (approvals.logged (.approvalAdapterRejected "telegram" "unauthorized_identity"))
    := by
  have recorded := run_store_ok (approvals.run_appendEvent
    (.approvalAdapterRejected "telegram" "unauthorized_identity"))
  simp only [handleCommand, unmapped, EStateM.run_bind, ApprovalStore.recordAdapterRejection,
    recorded]
  rfl

theorem handleCommand_direct {actor : String} (mapped : identityMap.actorFor identity = .ok actor)
    (command : TelegramApprovalCommand) :
    DirectEffect approvals actor context command
      ((handleCommand identityMap identity command context).run approvals) := by
  simp only [handleCommand, mapped]
  cases command with
  | list => exact .listed
  | showApproval id =>
      simp only [EStateM.run_bind, EStateM.run_get]
      cases found : approvals.showApproval id with
      | none => exact .unknown (.inl rfl) found
      | some record => exact .shown found
  | approve id =>
      simp only [EStateM.run_bind, EStateM.run_get]
      cases found : approvals.showApproval id with
      | none => exact .unknown (.inr rfl) found
      | some record =>
          simp only [run_okOr_some]
          cases run : (ApprovalStore.approve id record.actionId actor context.nowUnixSeconds
              context.allowlistEntryId context.leaseNonce).run approvals with
          | ok claims after =>
              rw [run_store_ok run]
              exact .approved found run
          | error error after =>
              rw [run_store_error run]
              exact .approvalRefused found run
  | reject id =>
      simp only [EStateM.run_bind]
      cases run : (ApprovalStore.reject id actor context.nowUnixSeconds).run approvals with
      | ok done after =>
          rw [run_store_ok run]
          exact .rejected run
      | error error after =>
          rw [run_store_error run]
          exact .rejectionRefused run

end Handling

/-- The ledger is extended, and a decision among the new events is the actor's. -/
def Attributed (approvals after : ApprovalStore) (mapped : String → Prop) : Prop :=
  ∃ new, after.ledger.events = approvals.ledger.events ++ new ∧
    ∀ event ∈ new, ∀ id actor outcome, event.kind = .approvalDecision id actor outcome →
      mapped actor

theorem Attributed.refl (approvals : ApprovalStore) (mapped : String → Prop) :
    Attributed approvals approvals mapped :=
  ⟨[], (List.append_nil _).symm, nofun⟩

/-- The actor of a call that decides an approval. -/
def decider : ApprovalStore.Op → Option String
  | .approve _ _ actor _ _ _ => some actor
  | .reject _ actor _ => some actor
  | _ => none

theorem Attributed.of_step {approvals after : ApprovalStore} {op : ApprovalStore.Op}
    {outcome : Except ApprovalError ApprovalStore.Reply}
    (step : ApprovalStore.Step approvals op outcome after) {actor : String}
    (decides : decider op = some actor) : Attributed approvals after (· = actor) := by
  cases step with
  | refused => exact .refl approvals _
  | approved | rejected =>
      cases decides
      refine ⟨_, rfl, List.forall_mem_singleton.mpr ?_⟩
      intro id actor outcome same
      cases same
      rfl
  | requested | expired | superseded | adapterRejected => cases decides

/-- The store after a computation, whether it failed or not. -/
def stateAfter {ε σ α : Type} : EStateM.Result ε σ α → σ
  | .ok _ s => s
  | .error _ s => s

/-- What a direct call writes is by its actor. -/
theorem attributed_call (approvals : ApprovalStore) (op : ApprovalStore.Op) {α : Type}
    {method : ApprovalStore.Approvals α} {reply : α → ApprovalStore.Reply}
    (answers : ApprovalStore.perform op = do return reply (← method)) {actor : String}
    (decides : decider op = some actor) :
    Attributed approvals (stateAfter (method.run approvals)) (· = actor) := by
  have step := ApprovalStore.call_step approvals op
  cases run : method.run approvals with
  | ok result after =>
      rw [call_of_answer ApprovalStore.perform op answers run] at step
      exact .of_step step decides
  | error error after =>
      rw [call_of_refusal ApprovalStore.perform op answers run] at step
      exact .of_step step decides

theorem DirectEffect.attributed {approvals : ApprovalStore} {actor : String}
    {context : TelegramApprovalContext} {command : TelegramApprovalCommand}
    {result : EStateM.Result TelegramApprovalError ApprovalStore TelegramApprovalResponse}
    (effect : DirectEffect approvals actor context command result) :
    Attributed approvals (stateAfter result) (· = actor) := by
  cases effect with
  | listed | shown | unknown => exact .refl approvals _
  | @approved id record _ _ _ run | @approvalRefused id record _ _ _ run =>
      have written := attributed_call approvals (.approve id record.actionId actor
        context.nowUnixSeconds context.allowlistEntryId context.leaseNonce) rfl rfl
      rwa [run] at written
  | @rejected id _ run | @rejectionRefused id _ _ run =>
      have written := attributed_call approvals (.reject id actor
        context.nowUnixSeconds) rfl rfl
      rwa [run] at written

/-- The three things that a message can come to. -/
theorem handleMessage_cases (identityMap : TelegramIdentityMap) (approvals : ApprovalStore)
    (message : Message) :
    (∃ error, TelegramApprovalCommand.parse message.text = .error error ∧
      (handleMessage identityMap message).run approvals = .error error approvals) ∨
    (∃ command, TelegramApprovalCommand.parse message.text = .ok command ∧
      (∀ entry ∈ identityMap.actors, ¬ (entry.chatId = message.identity.chatId ∧
        entry.userId = message.identity.userId)) ∧
      (handleMessage identityMap message).run approvals =
        .error (.unauthorizedIdentity message.identity.chatId message.identity.userId)
          (approvals.logged (.approvalAdapterRejected "telegram" "unauthorized_identity"))) ∨
    (∃ command actor, TelegramApprovalCommand.parse message.text = .ok command ∧
      identityMap.Maps message.identity actor ∧
      DirectEffect approvals actor message.context command
        ((handleMessage identityMap message).run approvals)) := by
  simp only [handleMessage, EStateM.run_bind]
  cases parsed : TelegramApprovalCommand.parse message.text with
  | error error => exact .inl ⟨error, rfl, rfl⟩
  | ok command =>
      simp only [run_ofExcept_ok]
      cases mapped : identityMap.actorFor message.identity with
      | error error =>
          obtain ⟨rfl, unmapped⟩ := TelegramIdentityMap.actorFor_eq_error mapped
          exact .inr (.inl ⟨command, rfl, unmapped, handleCommand_unauthorized mapped command⟩)
      | ok actor =>
          exact .inr (.inr ⟨command, actor, rfl, TelegramIdentityMap.actorFor_eq_ok mapped,
            handleCommand_direct mapped command⟩)

theorem handleMessage_attributed (identityMap : TelegramIdentityMap) (approvals : ApprovalStore)
    (message : Message) :
    Attributed approvals (call (handleMessage identityMap) approvals message).after
      (identityMap.Maps message.identity) := by
  have reached : (call (handleMessage identityMap) approvals message).after =
      stateAfter ((handleMessage identityMap message).run approvals) := by
    unfold call
    cases (handleMessage identityMap message).run approvals <;> rfl
  rw [reached]
  obtain ⟨error, -, run⟩ | ⟨command, -, -, run⟩ | ⟨command, actor, -, maps, effect⟩ :=
    handleMessage_cases identityMap approvals message
  · rw [run]
    exact .refl approvals _
  · rw [run]
    exact ⟨_, rfl, List.forall_mem_singleton.mpr nofun⟩
  · obtain ⟨new, grown, own⟩ := effect.attributed
    refine ⟨new, grown, ?_⟩
    intro event member id actor' outcome decision
    rw [own event member id actor' outcome decision]
    exact maps

/-- The events that a call appended to the ledger. -/
def written {ε α ι : Type} (c : Call ε ApprovalStore α ι) : List AuditEvent :=
  c.after.ledger.events.drop c.before.ledger.events.length

theorem written_of_attributed {ε α ι : Type} {c : Call ε ApprovalStore α ι} {mapped : String → Prop}
    (attributed : Attributed c.before c.after mapped) :
    c.after.ledger.events = c.before.ledger.events ++ written c ∧
      ∀ event ∈ written c, ∀ id actor outcome,
        event.kind = .approvalDecision id actor outcome → mapped actor := by
  obtain ⟨new, grown, own⟩ := attributed
  have exactly : written c = new := by rw [written, grown, List.drop_left]
  rw [exactly]
  exact ⟨grown, own⟩

/-- The adapter adds no authority. A message is refused in parsing, or refused and
recorded for an identity that is not mapped, or it has the effect of the mapped
actor's own call; so over any messages each decision written is by the actor of
the first entry for its sender. -/
theorem adapter_adds_no_authority (identityMap : TelegramIdentityMap) :
    (∀ (approvals : ApprovalStore) (message : Message),
      (∃ error, TelegramApprovalCommand.parse message.text = .error error ∧
        (handleMessage identityMap message).run approvals = .error error approvals) ∨
      (∃ command after event, TelegramApprovalCommand.parse message.text = .ok command ∧
        (∀ entry ∈ identityMap.actors, ¬ (entry.chatId = message.identity.chatId ∧
          entry.userId = message.identity.userId)) ∧
        (handleMessage identityMap message).run approvals =
          .error (.unauthorizedIdentity message.identity.chatId message.identity.userId) after ∧
        after.records = approvals.records ∧
        after.ledger.events = approvals.ledger.events ++ [event] ∧
        event.kind = .approvalAdapterRejected "telegram" "unauthorized_identity") ∨
      (∃ command actor, TelegramApprovalCommand.parse message.text = .ok command ∧
        identityMap.Maps message.identity actor ∧
        DirectEffect approvals actor message.context command
          ((handleMessage identityMap message).run approvals))) ∧
    ∀ (approvals : ApprovalStore) (messages : List Message),
      (exec (handleMessage identityMap) approvals messages).ledger.events =
        approvals.ledger.events ++
          (history (handleMessage identityMap) approvals messages).flatMap written ∧
      ∀ c ∈ history (handleMessage identityMap) approvals messages, ∀ event ∈ written c,
        ∀ id actor outcome, event.kind = .approvalDecision id actor outcome →
          identityMap.Maps c.op.identity actor := by
  have attributed (approvals : ApprovalStore) (message : Message) := written_of_attributed
    (c := call (handleMessage identityMap) approvals message)
    (by simpa using handleMessage_attributed identityMap approvals message)
  refine ⟨?_, ?_⟩
  · intro approvals message
    obtain refused | ⟨command, parsed, unmapped, run⟩ | direct :=
      handleMessage_cases identityMap approvals message
    · exact .inl refused
    · exact .inr (.inl ⟨command, _, _, parsed, unmapped, run, rfl, rfl, rfl⟩)
    · exact .inr (.inr direct)
  · intro approvals messages
    refine ⟨?_, ?_⟩
    · let events (approvals : ApprovalStore) := approvals.ledger.events
      have extended : ∀ s message, events (call (handleMessage identityMap) s message).after =
          events s ++ written (call (handleMessage identityMap) s message) := by
        intro s message
        simpa using (attributed s message).1
      exact exec_log (handleMessage identityMap) extended approvals messages
    · intro c hc
      obtain ⟨earlier, later, -, hcall⟩ := mem_history hc
      rw [hcall]
      simpa using (attributed _ c.op).2

end TelegramApproval

end Runlane
