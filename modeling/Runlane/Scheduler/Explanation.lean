import Runlane.Scheduler.Decision
import Mathlib.Data.Fintype.EquivFin
import Mathlib.Logic.Relation

/-!
What a verdict says about the snapshot it was given.

Snapshots are ordered by how much they ask of a task: one demands no more than
another when it has at least its completed tasks and at most its leases and
paths. The verdict is monotone in that order, so it sees the three lists as sets.
The reason of a wait depends on the order of the lists and is truthful in each.
-/

namespace Runlane

open LeaseMode

/-- The second snapshot asks no more of a task than the first. -/
structure SchedulerSnapshot.Eases (snapshot easier : SchedulerSnapshot) : Prop where
  completed : snapshot.completedTaskIds ⊆ easier.completedTaskIds
  leases : easier.activeLeases ⊆ snapshot.activeLeases
  paths : easier.dependencyPaths ⊆ snapshot.dependencyPaths

/-- The same three lists up to order. -/
structure SchedulerSnapshot.Reordered (snapshot other : SchedulerSnapshot) : Prop where
  completed : snapshot.completedTaskIds.Perm other.completedTaskIds
  leases : snapshot.activeLeases.Perm other.activeLeases
  paths : snapshot.dependencyPaths.Perm other.dependencyPaths

/-- The reasons that are true of a task against a snapshot. A later reason is
given only where the earlier searches found nothing. -/
inductive SchedulerWaitReason.Explains (snapshot : SchedulerSnapshot) (task : Task) :
    SchedulerWaitReason → Prop
  | dependency (before after : List String) (id : String)
      (split : task.dependencies = before ++ id :: after)
      (done : ∀ earlier ∈ before, earlier ∈ snapshot.completedTaskIds)
      (incomplete : id ∉ snapshot.completedTaskIds) :
      Explains snapshot task (.dependencyIncomplete id)
  | conflict (request : ResourceLeaseRequest) (existing : ResourceLease)
      (done : ∀ id ∈ task.dependencies, id ∈ snapshot.completedTaskIds)
      (requested : request ∈ task.effectiveLeaseRequests)
      (active : existing ∈ snapshot.activeLeases)
      (same : existing.resourceId = request.resourceId)
      (excluded : existing.mode.isCompatibleWith request.mode = false) :
      Explains snapshot task
        (.resourceConflict request.resourceId existing.id existing.mode request.mode)
  | disruption (path : ResourceDependencyPath) (lease : ResourceLease)
      (done : ∀ id ∈ task.dependencies, id ∈ snapshot.completedTaskIds)
      (free : ∀ request ∈ task.effectiveLeaseRequests, ∀ existing ∈ snapshot.activeLeases,
        existing.resourceId = request.resourceId →
          existing.mode.isCompatibleWith request.mode = true)
      (active : lease ∈ snapshot.activeLeases)
      (disruptive : lease.mode = drain ∨ lease.mode = reboot)
      (listed : path ∈ snapshot.dependencyPaths)
      (below : path.lowerResourceId = lease.resourceId)
      (mutates : path.upperResourceId ∈ task.mutatedResourceIds)
      (upper : task.layer ≠ .system) :
      Explains snapshot task
        (.lowerLayerDisruption path.lowerResourceId path.upperResourceId lease.id lease.mode)

namespace SchedulerSnapshot

theorem findResourceConflict_eq_some {snapshot : SchedulerSnapshot} {task : Task}
    {request : ResourceLeaseRequest} {existing : ResourceLease}
    (found : snapshot.findResourceConflict task = some (request, existing)) :
    request ∈ task.effectiveLeaseRequests ∧ existing ∈ snapshot.activeLeases ∧
      existing.resourceId = request.resourceId ∧
      existing.mode.isCompatibleWith request.mode = false := by
  obtain ⟨candidate, requested, hit⟩ := List.exists_of_findSome?_eq_some found
  obtain ⟨lease, search, pair⟩ := Option.map_eq_some_iff.mp hit
  cases pair
  have meets := List.find?_some search
  simp only [Bool.and_eq_true, beq_iff_eq, Bool.not_eq_true'] at meets
  exact ⟨requested, List.mem_of_find?_eq_some search, meets⟩

theorem findLowerLayerDisruption_eq_some {snapshot : SchedulerSnapshot} {task : Task}
    {path : ResourceDependencyPath} {lease : ResourceLease}
    (found : snapshot.findLowerLayerDisruption task = some (path, lease)) :
    lease ∈ snapshot.activeLeases ∧ (lease.mode = drain ∨ lease.mode = reboot) ∧
      path ∈ snapshot.dependencyPaths ∧ path.lowerResourceId = lease.resourceId ∧
      path.upperResourceId ∈ task.mutatedResourceIds ∧ task.layer ≠ .system := by
  obtain ⟨candidate, kept, hit⟩ := List.exists_of_findSome?_eq_some found
  obtain ⟨listed, search, pair⟩ := Option.map_eq_some_iff.mp hit
  cases pair
  have meets := List.find?_some search
  simp only [Bool.and_eq_true, beq_iff_eq, bne_iff_ne, List.contains_iff_mem] at meets
  obtain ⟨⟨below, mutates⟩, upper⟩ := meets
  obtain ⟨active, mode⟩ := List.mem_filter.mp kept
  simp only [Bool.or_eq_true, beq_iff_eq] at mode
  exact ⟨active, mode, List.mem_of_find?_eq_some search, below, mutates, upper⟩

/-- Every wait names the task it is about and a reason that holds. -/
theorem explains_of_wait {snapshot : SchedulerSnapshot} {task : Task} {id : String}
    {reason : SchedulerWaitReason} (wait : snapshot.decideTask task = .wait id reason) :
    id = task.id ∧ reason.Explains snapshot task := by
  unfold decideTask at wait
  split at wait
  case h_1 dependencyId found =>
    cases wait
    obtain ⟨incomplete, before, after, split, done⟩ := List.find?_eq_some_iff_append.mp found
    refine ⟨rfl, .dependency before after dependencyId split ?_ (by simpa using incomplete)⟩
    intro earlier member
    simpa using done earlier member
  case h_2 complete =>
    have done : ∀ id ∈ task.dependencies, id ∈ snapshot.completedTaskIds := by
      simpa using complete
    split at wait
    case h_1 request existing found =>
      cases wait
      obtain ⟨requested, active, same, excluded⟩ := findResourceConflict_eq_some found
      exact ⟨rfl, .conflict request existing done requested active same excluded⟩
    case h_2 clear =>
      have free := findResourceConflict_eq_none.mp clear
      split at wait
      case h_1 path lease found =>
        cases wait
        obtain ⟨active, disruptive, listed, below, mutates, upper⟩ :=
          findLowerLayerDisruption_eq_some found
        exact ⟨rfl, .disruption path lease done free active disruptive listed below mutates
          upper⟩
      case h_2 => cases wait

/-- The three conditions of a run, spelled out over the lists. -/
theorem decideTask_eq_run_iff {snapshot : SchedulerSnapshot} {task : Task} :
    snapshot.decideTask task = .run task.id .dependenciesSatisfiedNoConflicts ↔
      (∀ id ∈ task.dependencies, id ∈ snapshot.completedTaskIds) ∧
      (∀ request ∈ task.effectiveLeaseRequests, ∀ existing ∈ snapshot.activeLeases,
        existing.resourceId = request.resourceId →
          existing.mode.isCompatibleWith request.mode = true) ∧
      ∀ lease ∈ snapshot.activeLeases, lease.mode = drain ∨ lease.mode = reboot →
        ∀ path ∈ snapshot.dependencyPaths, path.lowerResourceId = lease.resourceId →
          path.upperResourceId ∈ task.mutatedResourceIds → task.layer = .system := by
  rw [decideTask_eq_run, findResourceConflict_eq_none, findLowerLayerDisruption_eq_none]

/-- A task that runs still runs when less is asked of it. -/
theorem Eases.run {snapshot easier : SchedulerSnapshot} (eases : snapshot.Eases easier)
    {task : Task}
    (run : snapshot.decideTask task = .run task.id .dependenciesSatisfiedNoConflicts) :
    easier.decideTask task = .run task.id .dependenciesSatisfiedNoConflicts := by
  obtain ⟨done, free, quiet⟩ := decideTask_eq_run_iff.mp run
  refine decideTask_eq_run_iff.mpr ⟨?_, ?_, ?_⟩
  · intro id dependency
    exact eases.completed (done id dependency)
  · intro request requested existing active
    exact free request requested existing (eases.leases active)
  · intro lease active disruptive path listed
    exact quiet lease (eases.leases active) disruptive path (eases.paths listed)

theorem Reordered.eases {snapshot other : SchedulerSnapshot}
    (reordered : snapshot.Reordered other) : snapshot.Eases other :=
  ⟨reordered.completed.subset, reordered.leases.symm.subset, reordered.paths.symm.subset⟩

theorem Reordered.symm {snapshot other : SchedulerSnapshot}
    (reordered : snapshot.Reordered other) : other.Reordered snapshot :=
  ⟨reordered.completed.symm, reordered.leases.symm, reordered.paths.symm⟩

end SchedulerSnapshot

open SchedulerSnapshot in
/-- The verdict is exact, its reasons are true, and only the reason depends on the
order of the lists. -/
theorem decideTask_exact_and_truthful (snapshot : SchedulerSnapshot) (task : Task) :
    (snapshot.decideTask task = .run task.id .dependenciesSatisfiedNoConflicts ↔
      (∀ id ∈ task.dependencies, id ∈ snapshot.completedTaskIds) ∧
      (∀ request ∈ task.effectiveLeaseRequests, ∀ existing ∈ snapshot.activeLeases,
        existing.resourceId = request.resourceId →
          existing.mode.isCompatibleWith request.mode = true) ∧
      ∀ lease ∈ snapshot.activeLeases, lease.mode = drain ∨ lease.mode = reboot →
        ∀ path ∈ snapshot.dependencyPaths, path.lowerResourceId = lease.resourceId →
          path.upperResourceId ∈ task.mutatedResourceIds → task.layer = .system) ∧
    ((snapshot.decideTask task = .run task.id .dependenciesSatisfiedNoConflicts) ∨
      ∃ reason, snapshot.decideTask task = .wait task.id reason ∧
        reason.Explains snapshot task) ∧
    (∀ other, snapshot.Reordered other →
      (snapshot.decideTask task = .run task.id .dependenciesSatisfiedNoConflicts ↔
        other.decideTask task = .run task.id .dependenciesSatisfiedNoConflicts)) ∧
    (∀ (leases : List ResourceLease) (paths : List ResourceDependencyPath),
      snapshot.activeLeases ⊆ leases → snapshot.dependencyPaths ⊆ paths →
      (∃ reason, snapshot.decideTask task = .wait task.id reason) →
        ∃ reason, { snapshot with activeLeases := leases, dependencyPaths := paths }.decideTask
          task = .wait task.id reason) ∧
    ∀ completed : List String, snapshot.completedTaskIds ⊆ completed →
      snapshot.decideTask task = .run task.id .dependenciesSatisfiedNoConflicts →
        { snapshot with completedTaskIds := completed }.decideTask task =
          .run task.id .dependenciesSatisfiedNoConflicts := by
  refine ⟨decideTask_eq_run_iff, ?_, ?_, ?_, ?_⟩
  · refine (snapshot.decideTask_verdict task).imp id ?_
    rintro ⟨reason, wait⟩
    exact ⟨reason, wait, (explains_of_wait wait).2⟩
  · intro other reordered
    exact ⟨reordered.eases.run, reordered.symm.eases.run⟩
  · rintro leases paths moreLeases morePaths ⟨reason, wait⟩
    refine (decideTask_verdict _ task).resolve_left ?_
    intro run
    have eases : { snapshot with activeLeases := leases, dependencyPaths := paths }.Eases
        snapshot := ⟨List.Subset.refl _, moreLeases, morePaths⟩
    have before := eases.run run
    rw [wait] at before
    cases before
  · intro completed more run
    have eases : snapshot.Eases { snapshot with completedTaskIds := completed } :=
      ⟨more, List.Subset.refl _, List.Subset.refl _⟩
    exact eases.run run

end Runlane
