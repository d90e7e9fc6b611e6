import Runlane.Core.Vocabulary
import Mathlib.Data.List.Basic

/-!
The scheduler's decision for one task against one snapshot.

The three searches run in the order of the code and the first that finds
something decides: an incomplete dependency, an active lease that excludes a
requested one, then a drain or reboot under a listed dependency path. Which
entry a search reports depends on list order; whether it reports any does not,
and the characterisation of `Run` below is the one every admission result uses.
-/

namespace Runlane

/-- A schedulable unit inside a run. -/
structure Task where
  id : String
  layer : OperationalLayer
  requiredCapabilities : List Capability
  reads : List String
  writes : List String
  leaseRequests : List ResourceLeaseRequest
  dependencies : List String
  impact : ImpactSet
  verification : VerificationPlan
deriving DecidableEq

namespace Task

def new (id : String) (layer : OperationalLayer) : Task :=
  { id, layer, requiredCapabilities := [], reads := [], writes := [], leaseRequests := [],
    dependencies := [], impact := .empty layer, verification := .empty }

/-- Explicit lease requests, or default requests derived from reads and writes.
An explicit list replaces the derived one whole. -/
def effectiveLeaseRequests (task : Task) : List ResourceLeaseRequest :=
  if task.leaseRequests.isEmpty then
    task.reads.map (fun resourceId => ⟨resourceId, .observe, "task read"⟩) ++
      task.writes.map (fun resourceId => ⟨resourceId, .exclusive, "task write"⟩)
  else task.leaseRequests

def mutatedResourceIds (task : Task) : List String :=
  task.writes ++
    (task.leaseRequests.filter (fun request => request.mode.isMutating)).map
      (fun request => request.resourceId)

/-- Derived requests hold every written resource exclusively. -/
theorem exclusive_of_derived {task : Task} (derived : task.leaseRequests = []) {r : String}
    (hr : r ∈ task.writes) :
    ⟨r, .exclusive, "task write"⟩ ∈ task.effectiveLeaseRequests := by
  simp [effectiveLeaseRequests, derived, hr]

end Task

/-- Explicit dependency path from a lower-layer resource to an upper-layer one. -/
structure ResourceDependencyPath where
  lowerResourceId : String
  upperResourceId : String
deriving DecidableEq

structure SchedulerSnapshot where
  completedTaskIds : List String
  activeLeases : List ResourceLease
  dependencyPaths : List ResourceDependencyPath
deriving DecidableEq

namespace SchedulerSnapshot

/-- The first requested lease, in request order, that some active lease on its
resource excludes, with the first such active lease. -/
def findResourceConflict (snapshot : SchedulerSnapshot) (task : Task) :
    Option (ResourceLeaseRequest × ResourceLease) :=
  task.effectiveLeaseRequests.findSome? fun request =>
    (snapshot.activeLeases.find? fun existing =>
      existing.resourceId == request.resourceId &&
        !existing.mode.isCompatibleWith request.mode).map fun existing => (request, existing)

def findLowerLayerDisruption (snapshot : SchedulerSnapshot) (task : Task) :
    Option (ResourceDependencyPath × ResourceLease) :=
  (snapshot.activeLeases.filter fun lease =>
      lease.mode == .drain || lease.mode == .reboot).findSome? fun lease =>
    (snapshot.dependencyPaths.find? fun path =>
      path.lowerResourceId == lease.resourceId &&
        task.mutatedResourceIds.contains path.upperResourceId &&
        task.layer != .system).map fun path => (path, lease)

def decideTask (snapshot : SchedulerSnapshot) (task : Task) : SchedulerDecision :=
  match task.dependencies.find? fun id => !snapshot.completedTaskIds.contains id with
  | some dependencyId => .wait task.id (.dependencyIncomplete dependencyId)
  | none =>
      match snapshot.findResourceConflict task with
      | some (request, existing) =>
          .wait task.id
            (.resourceConflict request.resourceId existing.id existing.mode request.mode)
      | none =>
          match snapshot.findLowerLayerDisruption task with
          | some (path, lease) =>
              .wait task.id
                (.lowerLayerDisruption path.lowerResourceId path.upperResourceId lease.id
                  lease.mode)
          | none => .run task.id .dependenciesSatisfiedNoConflicts

theorem findResourceConflict_eq_none {snapshot : SchedulerSnapshot} {task : Task} :
    snapshot.findResourceConflict task = none ↔
      ∀ request ∈ task.effectiveLeaseRequests, ∀ existing ∈ snapshot.activeLeases,
        existing.resourceId = request.resourceId →
          existing.mode.isCompatibleWith request.mode = true := by
  simp [findResourceConflict, List.findSome?_eq_none_iff]

theorem findLowerLayerDisruption_eq_none {snapshot : SchedulerSnapshot} {task : Task} :
    snapshot.findLowerLayerDisruption task = none ↔
      ∀ lease ∈ snapshot.activeLeases, lease.mode = .drain ∨ lease.mode = .reboot →
        ∀ path ∈ snapshot.dependencyPaths, path.lowerResourceId = lease.resourceId →
          path.upperResourceId ∈ task.mutatedResourceIds → task.layer = .system := by
  simp [findLowerLayerDisruption, List.findSome?_eq_none_iff]

/-- A task runs exactly when all three searches come back empty. -/
theorem decideTask_eq_run {snapshot : SchedulerSnapshot} {task : Task} :
    snapshot.decideTask task = .run task.id .dependenciesSatisfiedNoConflicts ↔
      (∀ id ∈ task.dependencies, id ∈ snapshot.completedTaskIds) ∧
        snapshot.findResourceConflict task = none ∧
        snapshot.findLowerLayerDisruption task = none := by
  have incomplete : (task.dependencies.find? fun id => !snapshot.completedTaskIds.contains id)
      = none ↔ ∀ id ∈ task.dependencies, id ∈ snapshot.completedTaskIds := by
    simp
  rw [← incomplete]
  unfold decideTask
  constructor
  · intro h
    split at h
    · cases h
    · split at h
      · cases h
      · split at h
        · cases h
        · exact ⟨‹_›, ‹_›, ‹_›⟩
  · intro clear
    obtain ⟨deps, conflicts, disruptions⟩ := clear
    rw [deps, conflicts, disruptions]

/-- There is no third verdict: a task that does not run waits, under its own id. -/
theorem decideTask_verdict (snapshot : SchedulerSnapshot) (task : Task) :
    snapshot.decideTask task = .run task.id .dependenciesSatisfiedNoConflicts ∨
      ∃ reason, snapshot.decideTask task = .wait task.id reason := by
  unfold decideTask
  split
  · exact .inr ⟨_, rfl⟩
  · split
    · exact .inr ⟨_, rfl⟩
    · split
      · exact .inr ⟨_, rfl⟩
      · exact .inl rfl

/-- What a task that runs promises about every lease active beside it. -/
theorem compatible_of_run {snapshot : SchedulerSnapshot} {task : Task}
    (run : snapshot.decideTask task = .run task.id .dependenciesSatisfiedNoConflicts)
    {request : ResourceLeaseRequest} (hr : request ∈ task.effectiveLeaseRequests)
    {existing : ResourceLease} (he : existing ∈ snapshot.activeLeases)
    (same : existing.resourceId = request.resourceId) :
    existing.mode.isCompatibleWith request.mode = true :=
  findResourceConflict_eq_none.mp (decideTask_eq_run.mp run).2.1 request hr existing he same

end SchedulerSnapshot

end Runlane
