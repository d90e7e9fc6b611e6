import Runlane.Analyzer.Signals
import Runlane.Operator.Commands

/-!
The demo approval and the Telegram smoke.

The demo store holds one approval, which the approval commands can show and
decide. The smoke prints the same lines for every identity that it is given, and
nothing of the identity; where the stranger's user id is the identity's own, the
last check finds an answer in place of a refusal, and the program panics.
-/

namespace Runlane.Operator

open KeyedList

section Lines

variable {lines : List String}

theorem run_println (line : String) : (println line).run lines = .ok () (lines ++ [line]) :=
  rfl

/-- A command that prints these lines and succeeds, whatever was printed before. -/
def Prints (command : Cli Unit) (output : List String) : Prop :=
  ∀ lines, command.run lines = .ok () (lines ++ output)

theorem Prints.println (line : String) : Prints (Operator.println line) [line] :=
  fun _ => run_println line

theorem Prints.after {α : Type} {first : Cli α} {a : α} {rest : α → Cli Unit}
    {output : List String} (silent : first = pure a) (next : Prints (rest a) output) :
    Prints (first >>= rest) output := by
  rw [silent, pure_bind]
  exact next

theorem Prints.bind {first rest : Cli Unit} {output output' : List String}
    (here : Prints first output) (next : Prints rest output') :
    Prints (first >>= fun _ => rest) (output ++ output') := by
  intro lines
  rw [EStateM.run_bind, here lines]
  change rest.run (lines ++ output) = _
  rw [next, List.append_assoc]

end Lines

theorem serviceStatus_signals :
    (EvidenceEnvelope.text "service_status" "service=not-active").shows activeMarkers = false ∧
    (EvidenceEnvelope.text "service_status" "service=not-active").shows unhealthyMarkers = true ∧
    (EvidenceEnvelope.text "service_status" "service=not-active").shows unsupportedMarkers =
      false := by
  simp only [Bool.eq_false_iff, ne_eq, List.any_eq_true, EvidenceEnvelope.shows, showsAny,
    String.contains_string_iff]
  decide +kernel

def demoRecord : ApprovalRecord where
  id := "approval-demo-1"
  runId := "run-demo-1"
  proposalId := "proposal-demo-1"
  actionId := "restart-service"
  action := .serviceRestart
  layer := .system
  target := ⟨demoService, "sshd"⟩
  impact := demoImpact
  leaseRequest :=
    ⟨demoService, .exclusive, "service-unhealthy analyzer proposed serialized restart"⟩
  verification := demoVerification
  evidenceReferences := ["service_status"]
  state := .pending
  requestedAtUnixSeconds := 100
  expiresAtUnixSeconds := 200

theorem demoRecord_new :
    ApprovalRecord.new "approval-demo-1" "run-demo-1" demoProposal "restart-service" .system "sshd"
      demoImpact demoVerification 100 200 = some demoRecord := by
  obtain ⟨active, unhealthy, unsupported⟩ := serviceStatus_signals
  rw [demoProposal, analyzeServiceUnhealthy_eq_signals]
  simp only [assessSignals, List.any_cons, List.any_nil, active, unhealthy, unsupported]
  rfl

def demoStore : ApprovalStore where
  records := [demoRecord]
  ledger := AuditLedger.empty.record "approval-event-1" "approval"
    (.approvalRequested "approval-demo-1" "proposal-demo-1" "restart-service")

/-- Building the demo store does not panic. -/
theorem demoApprovalStore_eq (debug : DebugTexts) : demoApprovalStore debug = pure demoStore := by
  rw [demoApprovalStore, demoRecord_new]
  rfl

theorem showApproval_demo (id : String) :
    demoStore.showApproval id = if id = "approval-demo-1" then some demoRecord else none := by
  by_cases demo : id = "approval-demo-1"
  · subst demo
    rfl
  · have other : ¬ demoRecord.id = id := fun same => demo same.symm
    simp [ApprovalStore.showApproval, demoStore, lookup, other, demo]

theorem indexOf_other {id : String} (other : id ≠ "approval-demo-1") :
    demoStore.indexOf id = .error .unknownApproval := by
  have absent : demoStore.records.findFinIdx? (fun record => record.id = id) = none := by
    rw [List.findFinIdx?_eq_none_iff]
    intro record member
    obtain rfl := List.mem_singleton.mp member
    have differs : demoRecord.id ≠ id := fun same => other same.symm
    simp [differs]
  rw [ApprovalStore.indexOf, absent]

section Approvals

variable (debug : DebugTexts)

def approvedText : String :=
  "approved: approval-demo-1\nlease_id: lease-approval-demo-1\naction: ServiceRestart\n" ++
    "target: system:node/prod-web-01/service/sshd"

theorem prints_list : Prints (listApprovals debug) [approvalLine demoRecord] := by
  unfold listApprovals
  exact .after (demoApprovalStore_eq debug) (.println _)

theorem prints_show :
    Prints (showApproval debug "approval-demo-1") [approvalDetail demoRecord] := by
  unfold showApproval
  exact .after (demoApprovalStore_eq debug) (.println _)

theorem prints_approve : Prints (approveDemo debug "approval-demo-1") [approvedText] := by
  unfold approveDemo
  exact .after (demoApprovalStore_eq debug) (.println _)

theorem prints_reject :
    Prints (rejectDemo debug "approval-demo-1") ["rejected: approval-demo-1"] := by
  unfold rejectDemo
  exact .after (demoApprovalStore_eq debug) (.println _)

/-- A command that ends in an error and has printed nothing. -/
def Fails (command : Cli Unit) : Prop :=
  ∃ message, command.run [] = .error (.failed message) []

theorem Fails.after {α : Type} {first : Cli α} {a : α} {rest : α → Cli Unit}
    (silent : first = pure a) (next : Fails (rest a)) : Fails (first >>= rest) := by
  rw [silent, pure_bind]
  exact next

theorem Fails.at_once {α : Type} {first : Cli α} (message : String) {rest : α → Cli Unit}
    (failed : first = throw (.failed message)) : Fails (first >>= rest) := by
  subst failed
  exact ⟨message, rfl⟩

theorem known_other {id : String} (other : id ≠ "approval-demo-1") :
    known demoStore id = throw (.failed s!"unknown approval: {id}") := by
  rw [known, showApproval_demo, if_neg other]
  rfl

theorem fails_show {id : String} (other : id ≠ "approval-demo-1") :
    Fails (showApproval debug id) := by
  unfold showApproval
  exact .after (demoApprovalStore_eq debug) (.at_once _ (known_other other))

theorem fails_approve {id : String} (other : id ≠ "approval-demo-1") :
    Fails (approveDemo debug id) := by
  unfold approveDemo
  exact .after (demoApprovalStore_eq debug) (.at_once _ (known_other other))

theorem fails_reject {id : String} (other : id ≠ "approval-demo-1") :
    Fails (rejectDemo debug id) := by
  unfold rejectDemo
  refine .after (demoApprovalStore_eq debug) ?_
  have refused : (ApprovalStore.reject id "cli-operator" 150).run demoStore =
      .error .unknownApproval demoStore := by
    simp only [ApprovalStore.reject, EStateM.run_bind, EStateM.run_get, indexOf_other other]
    rfl
  refine .at_once s!"rejection failed: {debug.approval .unknownApproval}" ?_
  rw [decided, refused]
  rfl

end Approvals

def smokeLines : List String :=
  ["telegram approval smoke mode: live-simulated", "secrets: not-read", "identity: redacted",
    "list: pending=1",
    "show: approval=approval-demo-1 required_checks=1 skipped_checks=2",
    "approve: approval=approval-demo-1 lease=lease-approval-demo-1 audit=true",
    "reject: approval=approval-demo-1 audit=true",
    "unknown_identity: rejected pending=true audit=true",
    "telegram approval live-simulated smoke ok"]

section Smoke

variable (debug : DebugTexts) (input : TelegramSmokeInput)

theorem actorFor_identity : input.identityMap.actorFor input.identity = .ok input.actor := by
  simp [TelegramIdentityMap.actorFor, TelegramSmokeInput.identityMap, TelegramSmokeInput.identity]

theorem actorFor_stranger (stranger : input.unknownUserId ≠ input.userId) :
    input.identityMap.actorFor input.unknownIdentity =
      .error (.unauthorizedIdentity input.chatId input.unknownUserId) := by
  have other : input.userId ≠ input.unknownUserId := fun same => stranger same.symm
  simp [TelegramIdentityMap.actorFor, TelegramSmokeInput.identityMap,
    TelegramSmokeInput.unknownIdentity, other]

theorem actorFor_taken (taken : input.unknownUserId = input.userId) :
    input.identityMap.actorFor input.unknownIdentity = .ok input.actor := by
  simp [TelegramIdentityMap.actorFor, TelegramSmokeInput.identityMap,
    TelegramSmokeInput.unknownIdentity, taken]

/-- A message of the smoke's own identity is handled as its command is. -/
theorem handled_eq {label message : String} (command : TelegramApprovalCommand)
    {store after : ApprovalStore} {response : TelegramApprovalResponse}
    (read : TelegramApprovalCommand.parse message = .ok command)
    (answered : (TelegramApproval.handleCommand input.identityMap input.identity command
      smokeContext).run store = .ok response after) :
    handled debug label message input store = pure (response, after) := by
  simp only [handled, parsed, read, pure_bind, answered]

def approvedStore (actor : String) : ApprovalStore where
  records := [{ demoRecord with state := .approved }]
  ledger := demoStore.ledger.record "approval-event-2" "approval"
    (.approvalDecision "approval-demo-1" actor .approved)

def rejectedStore (actor : String) : ApprovalStore where
  records := [{ demoRecord with state := .rejected }]
  ledger := demoStore.ledger.record "approval-event-2" "approval"
    (.approvalDecision "approval-demo-1" actor .rejected)

def refusedStore : ApprovalStore where
  records := [demoRecord]
  ledger := demoStore.ledger.record "approval-event-2" "approval"
    (.approvalAdapterRejected "telegram" "unauthorized_identity")

theorem prints_smokeListAndShow : Prints (smokeListAndShowApproval debug input)
    ["list: pending=1", "show: approval=approval-demo-1 required_checks=1 skipped_checks=2"] := by
  have listed : handled debug "list" "/approvals" input demoStore =
      pure (.pendingApprovals [.fromRecord demoRecord], demoStore) := by
    refine handled_eq debug input .list (by decide +kernel) ?_
    rw [TelegramApproval.handleCommand, actorFor_identity]
    rfl
  have shown : handled debug "show" "/approval show approval-demo-1" input demoStore =
      pure (.approvalDetail (.fromRecord demoRecord), demoStore) := by
    refine handled_eq debug input (.showApproval "approval-demo-1") (by decide +kernel) ?_
    rw [TelegramApproval.handleCommand, actorFor_identity]
    rfl
  unfold smokeListAndShowApproval
  exact .after (demoApprovalStore_eq debug) (.after listed (.bind (.println _)
    (.after shown (.println _))))

theorem prints_smokeApprove : Prints (smokeApproveApproval debug input)
    ["approve: approval=approval-demo-1 lease=lease-approval-demo-1 audit=true"] := by
  have approved : handled debug "approve" "/approve approval-demo-1" input demoStore =
      pure (.approved "approval-demo-1" "lease-approval-demo-1" .serviceRestart input.actor,
        approvedStore input.actor) := by
    refine handled_eq debug input (.approve "approval-demo-1") (by decide +kernel) ?_
    rw [TelegramApproval.handleCommand, actorFor_identity]
    rfl
  unfold smokeApproveApproval
  exact .after (demoApprovalStore_eq debug) (.after approved (.println _))

theorem prints_smokeReject : Prints (smokeRejectApproval debug input)
    ["reject: approval=approval-demo-1 audit=true"] := by
  have rejected : handled debug "reject" "/reject approval-demo-1" input demoStore =
      pure (.rejected "approval-demo-1" input.actor, rejectedStore input.actor) := by
    refine handled_eq debug input (.reject "approval-demo-1") (by decide +kernel) ?_
    rw [TelegramApproval.handleCommand, actorFor_identity]
    rfl
  unfold smokeRejectApproval
  exact .after (demoApprovalStore_eq debug) (.after rejected (.println _))

theorem prints_smokeUnknown (stranger : input.unknownUserId ≠ input.userId) :
    Prints (smokeUnknownIdentity debug input)
      ["unknown_identity: rejected pending=true audit=true"] := by
  have refused : (TelegramApproval.handleCommand input.identityMap input.unknownIdentity .list
      smokeContext).run demoStore =
      .error (.unauthorizedIdentity input.chatId input.unknownUserId) refusedStore := by
    rw [TelegramApproval.handleCommand, actorFor_stranger input stranger]
    rfl
  unfold smokeUnknownIdentity
  refine .after (demoApprovalStore_eq debug) ?_
  rw [refused]
  exact .println _

theorem smokeUnknown_panics (taken : input.unknownUserId = input.userId) :
    ∃ message, ∀ lines, (smokeUnknownIdentity debug input).run lines =
      .error (.panicked message) lines := by
  have answered : (TelegramApproval.handleCommand input.identityMap input.unknownIdentity .list
      smokeContext).run demoStore =
      .ok (.pendingApprovals [.fromRecord demoRecord]) demoStore := by
    rw [TelegramApproval.handleCommand, actorFor_taken input taken]
    rfl
  refine ⟨"unknown identity should fail closed: " ++
    debug.response (.pendingApprovals [.fromRecord demoRecord]), fun lines => ?_⟩
  rw [smokeUnknownIdentity, demoApprovalStore_eq, pure_bind, answered]
  rfl

theorem smokeInput_eq {host : Host} (loaded : TelegramSmokeInput.load host = .ok input) :
    smokeInput host = pure input := by
  rw [smokeInput, loaded]

/-- The smoke prints the same lines for every identity that it is given. -/
theorem prints_smoke {host : Host} (loaded : TelegramSmokeInput.load host = .ok input)
    (stranger : input.unknownUserId ≠ input.userId) :
    Prints (runTelegramApprovalLiveSimulatedSmoke debug host) smokeLines := by
  unfold runTelegramApprovalLiveSimulatedSmoke
  exact .after (smokeInput_eq input loaded) (.bind (.println _) (.bind (.println _)
    (.bind (.println _) (.bind (prints_smokeListAndShow debug input)
      (.bind (prints_smokeApprove debug input) (.bind (prints_smokeReject debug input)
        (.bind (prints_smokeUnknown debug input stranger) (.println _))))))))

/-- The stranger's id is taken only after everything else of the smoke went well. -/
theorem smoke_panics {host : Host} (loaded : TelegramSmokeInput.load host = .ok input)
    (taken : input.unknownUserId = input.userId) :
    ∃ message, (runTelegramApprovalLiveSimulatedSmoke debug host).run [] =
      .error (.panicked message) (smokeLines.take 7) := by
  obtain ⟨message, panics⟩ := smokeUnknown_panics debug input taken
  refine ⟨message, ?_⟩
  simp only [runTelegramApprovalLiveSimulatedSmoke, smokeInput_eq input loaded, pure_bind,
    EStateM.run_bind, run_println, prints_smokeListAndShow debug input _,
    prints_smokeApprove debug input _, prints_smokeReject debug input _, panics]
  rfl

theorem smoke_fails {host : Host} {message : String}
    (refused : TelegramSmokeInput.load host = .error message) :
    Fails (runTelegramApprovalLiveSimulatedSmoke debug host) := by
  unfold runTelegramApprovalLiveSimulatedSmoke
  refine .at_once message ?_
  rw [smokeInput, refused]

end Smoke

end Runlane.Operator
