import Runlane.Scheduler.Admission
import Runlane.Scheduler.Explanation

/-!
Drains and reboots below a dependency path.

A drain or reboot lease blocks tasks above it that are not system tasks. The
search runs only for the newcomer, and only when the newcomer is not a system
task, so it orders admissions one way: an upper-layer task is never admitted
over an active disruption, while a system task that arrives second is judged by
its own dependencies and leases alone.

A path is listed whole. The search compares both ends of one entry and does not
follow a chain of entries, so a chain blocks when its two ends are listed too.
-/

namespace Runlane

open LeaseMode

namespace SchedulerSnapshot

/-- A task that mutates above an active drain or reboot waits. -/
theorem decideTask_of_disruption {snapshot : SchedulerSnapshot} {task : Task}
    {path : ResourceDependencyPath} {lease : ResourceLease}
    (hpath : path ∈ snapshot.dependencyPaths) (hlease : lease ∈ snapshot.activeLeases)
    (below : lease.resourceId = path.lowerResourceId)
    (disruptive : lease.mode = drain ∨ lease.mode = reboot) (upper : task.layer ≠ .system)
    (mutates : path.upperResourceId ∈ task.mutatedResourceIds) :
    ∃ reason, snapshot.decideTask task = .wait task.id reason := by
  refine (snapshot.decideTask_verdict task).resolve_left ?_
  intro run
  have quiet := findLowerLayerDisruption_eq_none.mp (decideTask_eq_run.mp run).2.2
  exact upper (quiet lease hlease disruptive path hpath below.symm mutates)

/-- A system task is never disrupted, so it is decided without the paths. -/
theorem decideTask_system (snapshot : SchedulerSnapshot) {task : Task}
    (system : task.layer = .system) :
    snapshot.decideTask task = { snapshot with dependencyPaths := [] }.decideTask task := by
  have quiet (s : SchedulerSnapshot) : s.findLowerLayerDisruption task = none :=
    findLowerLayerDisruption_eq_none.mpr fun _ _ _ _ _ _ _ => system
  unfold decideTask
  rw [quiet, quiet]
  rfl

end SchedulerSnapshot

/-- A platform or application task that mutates the resource. -/
def AdmittedTask.MutatesAbove (entry : AdmittedTask) (upper : String) : Prop :=
  entry.task.layer ≠ .system ∧ upper ∈ entry.task.mutatedResourceIds

/-- No upper-layer task is let in while the reboot below it is active; when both
are in progress, the upper-layer task came first. -/
theorem upper_mutation_waits_for_reboot :
    (∀ (snapshot : SchedulerSnapshot) (task : Task) (path : ResourceDependencyPath)
        (lease : ResourceLease), path ∈ snapshot.dependencyPaths →
      lease ∈ snapshot.activeLeases → lease.resourceId = path.lowerResourceId →
      lease.mode = reboot → task.layer ≠ .system →
      path.upperResourceId ∈ task.mutatedResourceIds →
        ∃ reason, snapshot.decideTask task = .wait task.id reason) ∧
    (∀ (ops : List SchedulingOp) (lower upper : String),
      (∀ snapshot entry, .start snapshot entry ∈ ops →
        ⟨lower, upper⟩ ∈ snapshot.dependencyPaths) →
      (unfinishedAfter ops).Pairwise fun older newer =>
        ¬ (older.Holds lower reboot ∧ newer.MutatesAbove upper)) ∧
    ∀ (snapshot : SchedulerSnapshot) (task : Task), task.layer = .system →
      snapshot.decideTask task = { snapshot with dependencyPaths := [] }.decideTask task := by
  refine ⟨?_, ?_, fun snapshot _ system => snapshot.decideTask_system system⟩
  · intro snapshot task path lease hpath hlease below mode upper mutates
    exact SchedulerSnapshot.decideTask_of_disruption hpath hlease below (.inr mode) upper mutates
  · intro ops lower upper listed
    apply Coexistence.Reachable.pairwise
    apply reachable_unfinished
    rintro c hc snapshot entry hop ⟨recorded, run⟩ older holder
      ⟨⟨lease, hlease, below, mode⟩, layer, mutates⟩
    obtain ⟨earlier, later, hops, _⟩ := Calls.mem_history hc
    have hpath : ⟨lower, upper⟩ ∈ snapshot.dependencyPaths :=
      listed snapshot entry (by rw [hops, hop]; simp)
    obtain ⟨reason, wait⟩ := SchedulerSnapshot.decideTask_of_disruption hpath
      (recorded.1 older holder lease hlease) below (.inr mode) layer mutates
    rw [run] at wait
    cases wait

/-- An application restart on a node, and a reboot of that node. -/
def restartApplication : Task :=
  { Task.new "restart-app" .application with writes := ["application:on-node/n"] }

def rebootNode : Task :=
  { Task.new "reboot-node" .system with
    leaseRequests := [⟨"system:node/n/reboot", reboot, "kernel update"⟩] }

/-- The reboot is let in under a running restart although the path is listed. -/
theorem reboot_admitted_under_restart :
    ¬ ∀ (ops : List SchedulingOp) (lower upper : String),
      (∀ snapshot entry, .start snapshot entry ∈ ops →
        ⟨lower, upper⟩ ∈ snapshot.dependencyPaths) →
      ∀ a ∈ unfinishedAfter ops, ∀ b ∈ unfinishedAfter ops,
        ¬ (a.task.layer = .system ∧ a.Holds lower reboot ∧ b.MutatesAbove upper) := by
  intro h
  let path : ResourceDependencyPath := ⟨"system:node/n/reboot", "application:on-node/n"⟩
  let restart := AdmittedTask.ofTask "run-1" "first:" restartApplication
  let boot := AdmittedTask.ofTask "run-2" "second:" rebootNode
  let ops : List SchedulingOp :=
    [.start ⟨[], [], [path]⟩ restart, .start ⟨[], restart.leases, [path]⟩ boot]
  have both : unfinishedAfter ops = [restart, boot] := rfl
  have listed : ∀ snapshot entry, .start snapshot entry ∈ ops →
      ⟨path.lowerResourceId, path.upperResourceId⟩ ∈ snapshot.dependencyPaths := by
    intro snapshot entry hop
    simp only [ops, List.mem_cons, List.not_mem_nil, or_false] at hop
    obtain hop | hop := hop <;> cases hop <;> exact List.mem_cons_self
  have apart := h ops _ _ listed boot (by rw [both]; simp) restart (by rw [both]; simp)
  exact apart ⟨rfl, ⟨_, List.mem_cons_self, rfl, rfl⟩, by decide, List.mem_cons_self⟩

/-- One or more listed paths, each from where the last one ends. -/
def SchedulerSnapshot.Chain (snapshot : SchedulerSnapshot) : String → String → Prop :=
  Relation.TransGen fun lower upper => .mk lower upper ∈ snapshot.dependencyPaths

/-- Every platform or application task that mutates the resource waits. -/
def SchedulerSnapshot.Blocks (snapshot : SchedulerSnapshot) (resourceId : String) : Prop :=
  ∀ task : Task, task.layer = .platform ∨ task.layer = .application →
    resourceId ∈ task.mutatedResourceIds →
      ∃ reason, snapshot.decideTask task = .wait task.id reason

/-- A task that writes the resource and asks for a lease on another one. -/
def writerElsewhere (written leased : String) : Task :=
  { Task.new "write" .application with
    writes := [written], leaseRequests := [⟨leased, observe, "unrelated"⟩] }

/-- A resource is blocked exactly when a listed path reaches it from a disruption:
a task may ask for no lease on what it writes, so nothing else blocks them all. -/
theorem SchedulerSnapshot.blocks_iff {snapshot : SchedulerSnapshot} {resourceId : String} :
    snapshot.Blocks resourceId ↔
      ∃ lease ∈ snapshot.activeLeases, (lease.mode = drain ∨ lease.mode = reboot) ∧
        .mk lease.resourceId resourceId ∈ snapshot.dependencyPaths := by
  refine ⟨?_, ?_⟩
  · intro blocked
    obtain ⟨leased, fresh⟩ := Infinite.exists_notMem_finset
      (snapshot.activeLeases.map (·.resourceId)).toFinset
    obtain ⟨reason, wait⟩ := blocked (writerElsewhere resourceId leased) (.inr rfl)
      List.mem_cons_self
    obtain ⟨_, explains⟩ := explains_of_wait wait
    cases explains with
    | dependency before after id split =>
        cases before <;> cases split
    | conflict request existing _ requested active same =>
        obtain rfl : request = ⟨leased, observe, "unrelated"⟩ := List.mem_singleton.mp requested
        have held : leased ∈ snapshot.activeLeases.map (·.resourceId) :=
          List.mem_map.mpr ⟨existing, active, same⟩
        exact absurd (List.mem_toFinset.mpr held) fresh
    | disruption path lease _ _ active disruptive listed below mutates =>
        have ends : path.upperResourceId = resourceId := List.mem_singleton.mp mutates
        refine ⟨lease, active, disruptive, ?_⟩
        rw [← below, ← ends]
        exact listed
  · rintro ⟨lease, active, disruptive, listed⟩ task layer mutates
    have upper : task.layer ≠ .system := by
      obtain h | h := layer <;> rw [h] <;> decide
    exact decideTask_of_disruption listed active rfl disruptive upper mutates

/-- A chain from a disrupted resource blocks its end if the paths compose. -/
theorem disruption_blocks_listed_paths :
    (∀ (snapshot : SchedulerSnapshot) (resourceId : String),
      snapshot.Blocks resourceId ↔
        ∃ lease ∈ snapshot.activeLeases, (lease.mode = drain ∨ lease.mode = reboot) ∧
          .mk lease.resourceId resourceId ∈ snapshot.dependencyPaths) ∧
    ∀ snapshot : SchedulerSnapshot,
      (∀ lower middle upper : String, .mk lower middle ∈ snapshot.dependencyPaths →
        .mk middle upper ∈ snapshot.dependencyPaths →
          .mk lower upper ∈ snapshot.dependencyPaths) →
      ∀ lease ∈ snapshot.activeLeases, lease.mode = drain ∨ lease.mode = reboot →
        ∀ resourceId, snapshot.Chain lease.resourceId resourceId →
          snapshot.Blocks resourceId := by
  refine ⟨fun _ _ => SchedulerSnapshot.blocks_iff, ?_⟩
  intro snapshot composed lease active disruptive resourceId chain
  have ends : .mk lease.resourceId resourceId ∈ snapshot.dependencyPaths := by
    induction chain with
    | single listed => exact listed
    | tail _ listed ih => exact composed _ _ _ ih listed
  exact SchedulerSnapshot.blocks_iff.mpr ⟨lease, active, disruptive, ends⟩

/-- A reboot of the system under a platform under an application. -/
theorem chain_unlisted_ends_runs :
    ¬ ∀ (snapshot : SchedulerSnapshot), ∀ lease ∈ snapshot.activeLeases,
      lease.mode = drain ∨ lease.mode = reboot →
        ∀ resourceId, snapshot.Chain lease.resourceId resourceId →
          snapshot.Blocks resourceId := by
  intro h
  let lease := ResourceLease.forRun "lease-1" "run-1" "system:node/n/reboot" reboot "kernel update"
  let paths : List ResourceDependencyPath :=
    [⟨"system:node/n/reboot", "platform:database/d"⟩,
      ⟨"platform:database/d", "application:checkout"⟩]
  have chain : SchedulerSnapshot.Chain ⟨[], [lease], paths⟩ "system:node/n/reboot"
      "application:checkout" :=
    .tail (.single List.mem_cons_self) (List.mem_cons_of_mem _ List.mem_cons_self)
  obtain ⟨reason, wait⟩ := h ⟨[], [lease], paths⟩ lease List.mem_cons_self (.inr rfl) _ chain
    { Task.new "deploy" .application with writes := ["application:checkout"] } (.inr rfl)
    List.mem_cons_self
  have run : SchedulerSnapshot.decideTask ⟨[], [lease], paths⟩
      { Task.new "deploy" .application with writes := ["application:checkout"] } =
        .run "deploy" .dependenciesSatisfiedNoConflicts := by decide
  rw [run] at wait
  cases wait

end Runlane
