import Runlane.Analyzer.Markers

/-!
The service analysis as a function of three signals.

Every envelope shows an active, an unhealthy or an unsupported marker or not, and
the assessment depends on which of the three occur at all. So the envelopes may
come in any order, and a signal against a restart is never taken back.
-/

namespace Runlane

theorem showsAny_eq_any {markers : List String} (single : OnOneLine markers)
    (evidence : List EvidenceEnvelope) :
    showsAny markers (normalizedEvidence evidence) =
      evidence.any fun envelope => envelope.shows markers := by
  rw [Bool.eq_iff_iff, showsAny_normalizedEvidence single, List.any_eq_true]

/-- What the analyzer concludes from the signals of the envelopes. -/
def assessSignals (nodeId service : String) (evidence : List EvidenceEnvelope) : Assessment :=
  assessService nodeId service
    (evidence.any fun envelope => envelope.shows activeMarkers)
    (evidence.any fun envelope => envelope.shows unhealthyMarkers)
    (evidence.any fun envelope => envelope.shows unsupportedMarkers)

theorem analyzeServiceUnhealthy_eq_signals (proposalId nodeId service : String)
    (evidence : List EvidenceEnvelope) :
    analyzeServiceUnhealthy proposalId nodeId service evidence =
      (assessSignals nodeId service evidence).proposal proposalId evidence := by
  simp only [analyzeServiceUnhealthy, assessSignals, showsAny_eq_any activeMarkers_onOneLine,
    showsAny_eq_any unhealthyMarkers_onOneLine, showsAny_eq_any unsupportedMarkers_onOneLine]

theorem assessSignals_perm (nodeId service : String) {evidence reordered : List EvidenceEnvelope}
    (same : evidence.Perm reordered) :
    assessSignals nodeId service evidence = assessSignals nodeId service reordered := by
  unfold assessSignals
  rw [same.any_eq, same.any_eq, same.any_eq]

/-- The kinds of the actions of a proposal, in order. -/
def StructuredProposal.kinds (proposal : StructuredProposal) : List ProposedActionKind :=
  proposal.proposedActions.map ProposedAction.kind

theorem analyzeServiceUnhealthy_kinds (proposalId nodeId service : String)
    (evidence : List EvidenceEnvelope) :
    (analyzeServiceUnhealthy proposalId nodeId service evidence).kinds =
      if ∃ envelope ∈ evidence, envelope.shows unsupportedMarkers = true then [.manualTakeover]
      else if (∃ envelope ∈ evidence, envelope.shows unhealthyMarkers = true) ∧
          ∀ envelope ∈ evidence, envelope.shows activeMarkers = false then [.serviceRestart]
      else [.collectMoreLogs] := by
  simp only [← Bool.not_eq_true, ← List.any_eq_true, ← List.any_eq_false]
  rw [analyzeServiceUnhealthy_eq_signals]
  unfold assessSignals
  cases evidence.any fun envelope => envelope.shows unsupportedMarkers with
  | true => rfl
  | false =>
      cases evidence.any fun envelope => envelope.shows unhealthyMarkers with
      | false => cases evidence.any fun envelope => envelope.shows activeMarkers <;> rfl
      | true => cases evidence.any fun envelope => envelope.shows activeMarkers <;> rfl

theorem kinds_restart_iff (proposalId nodeId service : String)
    (evidence : List EvidenceEnvelope) :
    (analyzeServiceUnhealthy proposalId nodeId service evidence).kinds = [.serviceRestart] ↔
      (∃ envelope ∈ evidence, envelope.shows unhealthyMarkers = true) ∧
      (∀ envelope ∈ evidence, envelope.shows activeMarkers = false) ∧
      ∀ envelope ∈ evidence, envelope.shows unsupportedMarkers = false := by
  rw [analyzeServiceUnhealthy_kinds]
  split
  next unsupported =>
    obtain ⟨envelope, member, shown⟩ := unsupported
    refine ⟨nofun, fun ⟨_, _, quiet⟩ => ?_⟩
    rw [quiet envelope member] at shown
    cases shown
  next supported =>
    have quiet : ∀ envelope ∈ evidence, envelope.shows unsupportedMarkers = false := by
      simpa using supported
    split
    next restart => exact ⟨fun _ => ⟨restart.1, restart.2, quiet⟩, fun _ => rfl⟩
    next other => exact ⟨nofun, fun ⟨unhealthy, active, _⟩ => absurd ⟨unhealthy, active⟩ other⟩

theorem kinds_takeover_iff (proposalId nodeId service : String)
    (evidence : List EvidenceEnvelope) :
    (analyzeServiceUnhealthy proposalId nodeId service evidence).kinds = [.manualTakeover] ↔
      ∃ envelope ∈ evidence, envelope.shows unsupportedMarkers = true := by
  rw [analyzeServiceUnhealthy_kinds]
  split
  next unsupported => exact ⟨fun _ => unsupported, fun _ => rfl⟩
  next supported =>
    refine ⟨fun takeover => ?_, fun unsupported => absurd unsupported supported⟩
    split at takeover <;> cases takeover

theorem kinds_collect_iff (proposalId nodeId service : String)
    (evidence : List EvidenceEnvelope) :
    (analyzeServiceUnhealthy proposalId nodeId service evidence).kinds = [.collectMoreLogs] ↔
      (analyzeServiceUnhealthy proposalId nodeId service evidence).kinds ≠ [.serviceRestart] ∧
      (analyzeServiceUnhealthy proposalId nodeId service evidence).kinds ≠ [.manualTakeover] := by
  rw [analyzeServiceUnhealthy_kinds]
  split
  next => exact ⟨nofun, fun ⟨_, other⟩ => absurd rfl other⟩
  next =>
    split
    next => exact ⟨nofun, fun ⟨other, _⟩ => absurd rfl other⟩
    next => exact ⟨fun _ => ⟨nofun, nofun⟩, fun _ => rfl⟩

/-- One envelope against a restart is enough, whatever the others show. -/
theorem restart_not_mem_kinds (proposalId nodeId service : String)
    {evidence : List EvidenceEnvelope} {envelope : EvidenceEnvelope} (member : envelope ∈ evidence)
    (against : envelope.shows activeMarkers = true ∨ envelope.shows unsupportedMarkers = true) :
    .serviceRestart ∉ (analyzeServiceUnhealthy proposalId nodeId service evidence).kinds := by
  rw [analyzeServiceUnhealthy_kinds]
  split
  next => decide
  next supported =>
    split
    next restart =>
      cases against with
      | inl active =>
          rw [restart.2 envelope member] at active
          cases active
      | inr unsupported => exact absurd ⟨envelope, member, unsupported⟩ supported
    next => decide

/-- The analysis is decided by the signals of the single envelopes: which action is
proposed, that their order plays no part, and that a signal against a restart
stands whatever is added. -/
theorem service_analysis_of_signals (proposalId nodeId service : String)
    (evidence : List EvidenceEnvelope) :
    let proposal := analyzeServiceUnhealthy proposalId nodeId service evidence
    (proposal.kinds = [.serviceRestart] ↔
      (∃ envelope ∈ evidence, envelope.shows unhealthyMarkers = true) ∧
      (∀ envelope ∈ evidence, envelope.shows activeMarkers = false) ∧
      ∀ envelope ∈ evidence, envelope.shows unsupportedMarkers = false) ∧
    (proposal.kinds = [.manualTakeover] ↔
      ∃ envelope ∈ evidence, envelope.shows unsupportedMarkers = true) ∧
    (proposal.kinds = [.collectMoreLogs] ↔
      proposal.kinds ≠ [.serviceRestart] ∧ proposal.kinds ≠ [.manualTakeover]) ∧
    (∀ reordered, evidence.Perm reordered →
      let other := analyzeServiceUnhealthy proposalId nodeId service reordered
      proposal.hypothesis = other.hypothesis ∧
        proposal.confidencePercent = other.confidencePercent ∧
        proposal.proposedActions = other.proposedActions) ∧
    ∀ more, evidence ⊆ more →
      (∃ envelope ∈ evidence, envelope.shows activeMarkers = true ∨
        envelope.shows unsupportedMarkers = true) →
      .serviceRestart ∉ (analyzeServiceUnhealthy proposalId nodeId service more).kinds := by
  intro proposal
  refine ⟨kinds_restart_iff proposalId nodeId service evidence,
    kinds_takeover_iff proposalId nodeId service evidence,
    kinds_collect_iff proposalId nodeId service evidence, ?_, ?_⟩
  · intro reordered same other
    simp only [proposal, other, analyzeServiceUnhealthy_eq_signals,
      assessSignals_perm nodeId service same]
    exact ⟨rfl, rfl, rfl⟩
  · intro more added signal
    obtain ⟨envelope, member, against⟩ := signal
    exact restart_not_mem_kinds proposalId nodeId service (added member) against

end Runlane
