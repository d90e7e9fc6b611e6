import Runlane.Lib.Fallible
import Runlane.Core.Proposal
import Mathlib.Logic.Basic

/-!
The deterministic analyzers and the policy check of what they propose.

Evidence is text that somebody else wrote. An analyzer lowercases and joins the
bodies and searches the result for markers; which markers it finds selects one
of a few proposals, whose actions are built from the node, the service and the
resources of the request alone.
-/

namespace Runlane

open Fallible

/-- Analyzer policy used before a proposal can enter approval. -/
structure ProposalPolicy where
  allowedActions : List ProposedActionKind
  approvalRequired : List ProposedActionKind
deriving DecidableEq

namespace ProposalPolicy

def serviceUnhealthy : ProposalPolicy where
  allowedActions := [.serviceRestart, .serviceReload, .collectMoreLogs, .manualTakeover]
  approvalRequired := [.serviceRestart, .serviceReload]

def diskPressure : ProposalPolicy where
  allowedActions := [.removeAllowlistedFile, .manualTakeover]
  approvalRequired := [.removeAllowlistedFile]

end ProposalPolicy

inductive ProposalValidationError where
  | unsupportedAction (actionId : String)
  | approvalRequirementMismatch (actionId : String)
  | emptyProposal
deriving DecidableEq

def validateAction (policy : ProposalPolicy) (action : ProposedAction) :
    Except ProposalValidationError Unit :=
  if action.kind ∉ policy.allowedActions then .error (.unsupportedAction action.id)
  else if decide (action.kind ∈ policy.approvalRequired) ≠ action.requiresApproval then
    .error (.approvalRequirementMismatch action.id)
  else .ok ()

/-- Validates proposal actions against policy before approval. -/
def validateProposal (proposal : StructuredProposal) (policy : ProposalPolicy) :
    Except ProposalValidationError Unit :=
  if proposal.proposedActions.isEmpty then .error .emptyProposal
  else proposal.proposedActions.forM (validateAction policy)

/-- The lowercased bodies, one after another on lines of their own. -/
def normalizedEvidence (evidence : List EvidenceEnvelope) : String :=
  "\n".intercalate (evidence.map fun envelope => envelope.body.map Char.toLower)

def logExcerpt (evidence : List EvidenceEnvelope) : List String :=
  (evidence.filter fun envelope => envelope.source.contains "logs").map fun envelope =>
    envelope.body

def showsAny (markers : List String) (text : String) : Bool :=
  markers.any fun marker => text.contains marker

def activeMarkers : List String :=
  ["service=active", "activestate=active", "is running", "(ok)"]

def unhealthyMarkers : List String :=
  ["service=not-active", "activestate=failed", "failed", "exited", "connection refused"]

def unsupportedMarkers : List String :=
  ["unsupported", "not available"]

def pressureMarkers : List String :=
  ["disk_pressure=high", "usage=92", "free_space=low"]

/-- What an analyzer concludes from the markers it found. -/
structure Assessment where
  hypothesis : String
  confidencePercent : Nat
  proposedActions : List ProposedAction

def Assessment.proposal (assessment : Assessment) (proposalId : String)
    (evidence : List EvidenceEnvelope) : StructuredProposal where
  id := proposalId
  hypothesis := assessment.hypothesis
  evidenceReferences := evidence.map fun envelope => envelope.source
  approvalRequired := assessment.proposedActions.any fun action => action.requiresApproval
  proposedActions := assessment.proposedActions
  confidencePercent := assessment.confidencePercent
  untrustedEvidenceExcerpt := logExcerpt evidence

def assessService (nodeId service : String)
    (serviceActive serviceUnhealthy unsupported : Bool) : Assessment :=
  let serviceResource := s!"system:node/{nodeId}/service/{service}"
  if unsupported then {
    hypothesis :=
      s!"{service} evidence collection is unsupported or unavailable on {nodeId}"
    confidencePercent := 55
    proposedActions := [{
      id := "manual-takeover"
      kind := .manualTakeover
      targetResourceId := serviceResource
      requiresApproval := false
      leaseRequest := none }] }
  else if serviceActive && serviceUnhealthy then {
    hypothesis := s!"{service} has conflicting status and log evidence on {nodeId}"
    confidencePercent := 45
    proposedActions := [{
      id := "collect-more-logs"
      kind := .collectMoreLogs
      targetResourceId := serviceResource
      requiresApproval := false
      leaseRequest := none }] }
  else if serviceUnhealthy then {
    hypothesis :=
      s!"{service} appears unhealthy on {nodeId}; restart is the typed recovery action"
    confidencePercent := 82
    proposedActions := [{
      id := "restart-service"
      kind := .serviceRestart
      targetResourceId := serviceResource
      requiresApproval := true
      leaseRequest := some ⟨serviceResource, .exclusive,
        "service-unhealthy analyzer proposed serialized restart"⟩ }] }
  else {
    hypothesis := s!"{service} appears healthy on {nodeId}; no restart proposed"
    confidencePercent := 70
    proposedActions := [{
      id := "collect-more-logs"
      kind := .collectMoreLogs
      targetResourceId := serviceResource
      requiresApproval := false
      leaseRequest := none }] }

/-- Deterministic analyzer for the service-unhealthy runbook. -/
def analyzeServiceUnhealthy (proposalId nodeId service : String)
    (evidence : List EvidenceEnvelope) : StructuredProposal :=
  let normalized := normalizedEvidence evidence
  (assessService nodeId service (showsAny activeMarkers normalized)
    (showsAny unhealthyMarkers normalized) (showsAny unsupportedMarkers normalized)).proposal
      proposalId evidence

def assessDisk (nodeId mount cleanupResourceId : String)
    (pressureDetected candidatePresent cleanupAllowed : Bool) : Assessment :=
  if pressureDetected && candidatePresent && cleanupAllowed then {
    hypothesis := s!"{nodeId} has disk pressure on {mount}; " ++
      "cleanup is limited to the declared allowlist path"
    confidencePercent := 84
    proposedActions := [{
      id := "remove-allowlisted-cleanup-path"
      kind := .removeAllowlistedFile
      targetResourceId := cleanupResourceId
      requiresApproval := true
      leaseRequest := some ⟨cleanupResourceId, .exclusive,
        "disk-pressure analyzer proposed allowlisted cleanup"⟩ }] }
  else {
    hypothesis := s!"{nodeId} disk pressure evidence does not match an allowlisted cleanup path"
    confidencePercent := 50
    proposedActions := [{
      id := "manual-takeover"
      kind := .manualTakeover
      targetResourceId := s!"system:node/{nodeId}/filesystem/{mount}"
      requiresApproval := false
      leaseRequest := none }] }

/-- Deterministic analyzer for the disk-pressure runbook. -/
def analyzeDiskPressure (proposalId nodeId mount cleanupResourceId : String)
    (evidence : List EvidenceEnvelope) (allowedCleanupResources : List String) :
    StructuredProposal :=
  let normalized := normalizedEvidence evidence
  (assessDisk nodeId mount cleanupResourceId (showsAny pressureMarkers normalized)
    (normalized.contains "cleanup_candidate=present")
    (allowedCleanupResources.any fun resource => resource == cleanupResourceId)).proposal
      proposalId evidence

/-- An action passes both checks of a policy. -/
structure ProposalPolicy.Allows (policy : ProposalPolicy) (action : ProposedAction) : Prop where
  kind : action.kind ∈ policy.allowedActions
  approval : action.requiresApproval = true ↔ action.kind ∈ policy.approvalRequired

theorem ProposalPolicy.Allows.of_unasked {policy : ProposalPolicy} {action : ProposedAction}
    (kind : ProposedActionKind) (same : action.kind = kind)
    (allowed : kind ∈ policy.allowedActions) (exempt : kind ∉ policy.approvalRequired)
    (unasked : action.requiresApproval = false) : policy.Allows action where
  kind := by rwa [same]
  approval := by simp [same, exempt, unasked]

theorem ProposalPolicy.Allows.of_asked {policy : ProposalPolicy} {action : ProposedAction}
    (kind : ProposedActionKind) (same : action.kind = kind)
    (allowed : kind ∈ policy.allowedActions) (required : kind ∈ policy.approvalRequired)
    (asked : action.requiresApproval = true) : policy.Allows action where
  kind := by rwa [same]
  approval := by simp [same, required, asked]

theorem validateAction_eq_ok {policy : ProposalPolicy} {action : ProposedAction} :
    validateAction policy action = .ok () ↔ policy.Allows action := by
  simp only [validateAction, ite_error_eq_ok, ne_eq, not_not, and_true]
  refine ⟨fun ⟨kind, approval⟩ => ⟨kind, ?_⟩, fun allows => ⟨allows.kind, ?_⟩⟩
  · rw [← approval, decide_eq_true_iff]
  · rw [Bool.eq_iff_iff, decide_eq_true_iff, allows.approval]

/-- A proposal passes when it is not empty and the policy allows all its actions. -/
theorem validateProposal_eq_ok {proposal : StructuredProposal} {policy : ProposalPolicy} :
    validateProposal proposal policy = .ok () ↔
      proposal.proposedActions ≠ [] ∧
        ∀ action ∈ proposal.proposedActions, policy.Allows action := by
  simp only [validateProposal, ite_error_eq_ok, List.isEmpty_iff, ne_eq]
  rw [forM_eq_ok]
  simp only [validateAction_eq_ok]

/-- The action waits for approval and holds this resource, and only it, alone. -/
structure ProposedAction.Guarded (action : ProposedAction) (resourceId : String) : Prop where
  target : action.targetResourceId = resourceId
  approval : action.requiresApproval = true
  lease : ∃ reason, action.leaseRequest = some ⟨resourceId, .exclusive, reason⟩

/-- The action of a service assessment is on the service and allowed. A helper can
perform it only in the one case of a restart, which is guarded. -/
theorem assessService_action (nodeId service : String) (active unhealthy unsupported : Bool) :
    ∃ action, (assessService nodeId service active unhealthy unsupported).proposedActions
        = [action] ∧
      action.targetResourceId = s!"system:node/{nodeId}/service/{service}" ∧
      ProposalPolicy.serviceUnhealthy.Allows action ∧
      ((action.kind.helperAction.isSome ∧ action.kind = .serviceRestart ∧
          action.Guarded s!"system:node/{nodeId}/service/{service}" ∧
          unsupported = false ∧ active = false ∧ unhealthy = true) ∨
        (action.kind.helperAction = none ∧
          ¬ (unsupported = false ∧ active = false ∧ unhealthy = true))) := by
  cases unsupported with
  | true =>
      exact ⟨_, rfl, rfl, .of_unasked .manualTakeover rfl (by decide) (by decide) rfl,
        .inr ⟨rfl, nofun⟩⟩
  | false =>
      cases unhealthy with
      | false =>
          cases active <;>
            exact ⟨_, rfl, rfl, .of_unasked .collectMoreLogs rfl (by decide) (by decide) rfl,
              .inr ⟨rfl, nofun⟩⟩
      | true =>
          cases active with
          | true =>
              exact ⟨_, rfl, rfl, .of_unasked .collectMoreLogs rfl (by decide) (by decide) rfl,
                .inr ⟨rfl, nofun⟩⟩
          | false =>
              exact ⟨_, rfl, rfl, .of_asked .serviceRestart rfl (by decide) (by decide) rfl,
                .inl ⟨rfl, rfl, ⟨rfl, rfl, _, rfl⟩, rfl, rfl, rfl⟩⟩

/-- The action of a disk assessment is allowed, and a cleanup only of the resource
that was allowed. -/
theorem assessDisk_action (nodeId mount cleanupResourceId : String)
    (pressure candidate allowed : Bool) :
    ∃ action, (assessDisk nodeId mount cleanupResourceId pressure candidate allowed).proposedActions
        = [action] ∧
      ProposalPolicy.diskPressure.Allows action ∧
      (action.kind = .removeAllowlistedFile →
        allowed = true ∧ action.Guarded cleanupResourceId) := by
  have refused (assessed : assessDisk nodeId mount cleanupResourceId pressure candidate allowed =
      assessDisk nodeId mount cleanupResourceId false false false) :
      ∃ action, (assessDisk nodeId mount cleanupResourceId pressure candidate
          allowed).proposedActions = [action] ∧
        ProposalPolicy.diskPressure.Allows action ∧
        (action.kind = .removeAllowlistedFile →
          allowed = true ∧ action.Guarded cleanupResourceId) := by
    rw [assessed]
    exact ⟨_, rfl, .of_unasked .manualTakeover rfl (by decide) (by decide) rfl, nofun⟩
  cases pressure with
  | false => exact refused rfl
  | true =>
      cases candidate with
      | false => exact refused rfl
      | true =>
          cases allowed with
          | false => exact refused rfl
          | true =>
              exact ⟨_, rfl, .of_asked .removeAllowlistedFile rfl (by decide) (by decide) rfl,
                fun _ => ⟨rfl, rfl, rfl, _, rfl⟩⟩

theorem validateProposal_single {policy : ProposalPolicy} {proposal : StructuredProposal}
    {action : ProposedAction} (single : proposal.proposedActions = [action])
    (allowed : policy.Allows action) : validateProposal proposal policy = .ok () := by
  rw [validateProposal_eq_ok, single]
  exact ⟨List.cons_ne_nil _ _, List.forall_mem_singleton.mpr allowed⟩

section Selection

variable (proposalId nodeId : String) (evidence : List EvidenceEnvelope)

theorem analyzeServiceUnhealthy_action (service : String) :
    ∃ action,
      (analyzeServiceUnhealthy proposalId nodeId service evidence).proposedActions = [action] ∧
      action.targetResourceId = s!"system:node/{nodeId}/service/{service}" ∧
      validateProposal (analyzeServiceUnhealthy proposalId nodeId service evidence)
        .serviceUnhealthy = .ok () ∧
      (action.kind.helperAction.isSome → action.kind = .serviceRestart) ∧
      (action.kind = .serviceRestart →
        action.Guarded s!"system:node/{nodeId}/service/{service}") := by
  let text := normalizedEvidence evidence
  obtain ⟨action, single, target, allowed, outcome⟩ := assessService_action nodeId service
    (showsAny activeMarkers text) (showsAny unhealthyMarkers text)
    (showsAny unsupportedMarkers text)
  refine ⟨action, single, target, validateProposal_single single allowed, ?_, ?_⟩
  · intro performable
    cases outcome with
    | inl restart => exact restart.2.1
    | inr observe => rw [observe.1] at performable; cases performable
  · intro kind
    cases outcome with
    | inl restart => exact restart.2.2.1
    | inr observe => rw [kind] at observe; cases observe.1

theorem analyzeDiskPressure_action (mount cleanupResourceId : String)
    (allowedCleanupResources : List String) :
    ∃ action,
      (analyzeDiskPressure proposalId nodeId mount cleanupResourceId evidence
        allowedCleanupResources).proposedActions = [action] ∧
      validateProposal (analyzeDiskPressure proposalId nodeId mount cleanupResourceId evidence
        allowedCleanupResources) .diskPressure = .ok () ∧
      (action.kind = .removeAllowlistedFile →
        cleanupResourceId ∈ allowedCleanupResources ∧ action.Guarded cleanupResourceId) := by
  let text := normalizedEvidence evidence
  obtain ⟨action, single, allowed, cleanup⟩ := assessDisk_action nodeId mount cleanupResourceId
    (showsAny pressureMarkers text) (text.contains "cleanup_candidate=present")
    (allowedCleanupResources.any fun resource => resource == cleanupResourceId)
  refine ⟨action, single, validateProposal_single single allowed, ?_⟩
  intro kind
  obtain ⟨listed, guarded⟩ := cleanup kind
  refine ⟨?_, guarded⟩
  simpa using listed

end Selection

/-- Evidence selects and never injects: whatever the bodies say, there is one
action, on a resource of the request and allowed by the policy of the runbook, and
what a helper can perform of it waits for approval and an exclusive lease. -/
theorem evidence_selects_actions :
    (∀ (proposalId nodeId service : String) (evidence : List EvidenceEnvelope),
      let proposal := analyzeServiceUnhealthy proposalId nodeId service evidence
      ∃ action, proposal.proposedActions = [action] ∧
        action.targetResourceId = s!"system:node/{nodeId}/service/{service}" ∧
        validateProposal proposal .serviceUnhealthy = .ok () ∧
        (action.kind.helperAction.isSome → action.kind = .serviceRestart) ∧
        (action.kind = .serviceRestart →
          action.Guarded s!"system:node/{nodeId}/service/{service}") ∧
        proposal.approvalRequired =
          proposal.proposedActions.any fun action => action.requiresApproval) ∧
    ∀ (proposalId nodeId mount cleanupResourceId : String) (evidence : List EvidenceEnvelope)
        (allowedCleanupResources : List String),
      let proposal := analyzeDiskPressure proposalId nodeId mount cleanupResourceId evidence
        allowedCleanupResources
      ∃ action, proposal.proposedActions = [action] ∧
        validateProposal proposal .diskPressure = .ok () ∧
        (action.kind = .removeAllowlistedFile →
          cleanupResourceId ∈ allowedCleanupResources ∧ action.Guarded cleanupResourceId) ∧
        proposal.approvalRequired =
          proposal.proposedActions.any fun action => action.requiresApproval := by
  refine ⟨?_, ?_⟩
  · intro proposalId nodeId service evidence proposal
    obtain ⟨action, single, target, valid, performable, guarded⟩ :=
      analyzeServiceUnhealthy_action proposalId nodeId evidence service
    exact ⟨action, single, target, valid, performable, guarded, rfl⟩
  · intro proposalId nodeId mount cleanupResourceId evidence allowedCleanupResources proposal
    obtain ⟨action, single, valid, cleanup⟩ := analyzeDiskPressure_action proposalId nodeId
      evidence mount cleanupResourceId allowedCleanupResources
    exact ⟨action, single, valid, cleanup, rfl⟩

end Runlane
