import Runlane.Receipt.Lossless

/-!
What a receipt reports as changed.

Every granted lease and every action result adds its resource to the changed
ones, whatever the mode of the lease and the status of the result. So a resource
that the run only observed, or was denied to act on, is reported with the rest.
-/

namespace Runlane

open AuditEventKind

/-- An action on the resource was not denied, or a mutating lease of it was granted. -/
def MayHaveChanged (events : List AuditEventKind) (resource : String) : Prop :=
  (∃ action target status, .actionResult action target status ∈ events ∧
      status ≠ .denied ∧ target.resourceId = resource) ∨
    ∃ leaseId mode, .resourceLeaseGranted leaseId resource mode ∈ events ∧ mode.isMutating = true

/-- What the run only observed, or was denied to act on, it has changed otherwise. -/
structure OnlyChangesLogged (events : List AuditEventKind) : Prop where
  granted : ∀ leaseId resource mode, .resourceLeaseGranted leaseId resource mode ∈ events →
    mode.isMutating = false → MayHaveChanged events resource
  denied : ∀ action target, .actionResult action target .denied ∈ events →
    MayHaveChanged events target.resourceId

theorem onlyChangesLogged_iff {events : List AuditEventKind} :
    OnlyChangesLogged events ↔
      ∀ kind ∈ events, ∀ resource ∈ kind.changed, MayHaveChanged events resource := by
  constructor
  · intro only kind hkind resource hresource
    cases kind with
    | resourceLeaseGranted leaseId resourceId mode =>
        cases List.mem_singleton.mp hresource
        cases mutating : mode.isMutating with
        | true => exact .inr ⟨leaseId, mode, hkind, mutating⟩
        | false => exact only.granted leaseId resource mode hkind mutating
    | actionResult action target status =>
        cases List.mem_singleton.mp hresource
        by_cases denied : status = .denied
        · subst denied
          exact only.denied action target hkind
        · exact .inl ⟨action, target, status, hkind, denied, rfl⟩
    | _ => cases hresource
  · intro changed
    constructor
    · intro leaseId resource mode logged _
      exact changed _ logged resource List.mem_cons_self
    · intro action target logged
      exact changed _ logged target.resourceId List.mem_cons_self

theorem Complete.cons {events : List AuditEventKind} (h : Complete events)
    (kind : AuditEventKind) : Complete (kind :: events) where
  incident := by
    obtain ⟨_, _, _, created⟩ := h.incident
    exact ⟨_, _, _, List.mem_cons_of_mem _ created⟩
  evidence := by
    obtain ⟨_, collected⟩ := h.evidence
    exact ⟨_, List.mem_cons_of_mem _ collected⟩
  proposal := by
    obtain ⟨_, _, generated⟩ := h.proposal
    exact ⟨_, _, List.mem_cons_of_mem _ generated⟩
  lease := by
    obtain ⟨_, _, issued⟩ := h.lease
    exact ⟨_, _, List.mem_cons_of_mem _ issued⟩
  action := by
    obtain ⟨_, _, _, acted⟩ := h.action
    exact ⟨_, _, _, List.mem_cons_of_mem _ acted⟩
  selected := by
    obtain ⟨_, selected, required⟩ := h.selected
    exact ⟨_, List.mem_cons_of_mem _ selected, required⟩
  completed := by
    obtain ⟨_, _, completed⟩ := h.completed
    exact ⟨_, _, List.mem_cons_of_mem _ completed⟩

/-- A receipt reports only what may have changed, unless the run has all that a
receipt needs and a lease without side effects or a denied action named a resource
that nothing changed. -/
theorem changed_resources_backed_iff (runId : String) (ledger : AuditLedger) :
    (∀ receipt, generateOperatorReceipt runId ledger = .ok receipt →
        ∀ resource ∈ receipt.changedResources,
          MayHaveChanged (ledger.eventsOf runId) resource) ↔
      (Complete (ledger.eventsOf runId) → OnlyChangesLogged (ledger.eventsOf runId)) := by
  simp only [generateOperatorReceipt_eq_ok, onlyChangesLogged_iff]
  generalize ledger.eventsOf runId = events
  constructor
  · intro backed complete kind hkind resource hresource
    obtain ⟨receipt, shown⟩ := complete.shown runId
    have reported := ((lossless_of_shown shown).changed resource).mpr ⟨kind, hkind, hresource⟩
    exact backed receipt shown resource reported
  · intro only receipt shown resource reported
    obtain ⟨kind, hkind, hresource⟩ := ((lossless_of_shown shown).changed resource).mp reported
    exact only (complete_of_shown shown) kind hkind resource hresource

/-- A restart of one service that reads another one first. -/
def observedRestart : List AuditEventKind :=
  .resourceLeaseGranted "resource-lease-1" "system:node/node-1/service/nginx" .observe ::
    restartEvents .approved

/-- The service that was only observed is reported as changed. -/
theorem observed_reported_changed :
    ¬ ∀ runId ledger receipt, generateOperatorReceipt runId ledger = .ok receipt →
      ∀ resource ∈ receipt.changedResources,
        MayHaveChanged (ledger.eventsOf runId) resource := by
  intro h
  have events : (ledgerOf "run-1" observedRestart).eventsOf "run-1" = observedRestart := rfl
  have complete : Complete observedRestart := (restartEvents_complete .approved).cons _
  rw [← events] at complete
  obtain ⟨receipt, generated⟩ := generateOperatorReceipt_isOk.mpr complete
  have lossless := lossless_of_shown (generateOperatorReceipt_eq_ok.mp generated)
  rw [events] at lossless
  have reported := (lossless.changed "system:node/node-1/service/nginx").mpr
    ⟨_, List.mem_cons_self, List.mem_singleton_self _⟩
  have changed := h _ _ receipt generated _ reported
  rw [events] at changed
  simp [MayHaveChanged, observedRestart, restartEvents, LeaseMode.isMutating] at changed

end Runlane
