import Runlane.Lib.Calls
import Runlane.Lib.Coexistence
import Runlane.Scheduler.Decision

/-!
Scheduling runs. The repository decides single tasks and leaves the loop around
it to its caller; the run below is the loop that the scheduler's contract asks
for. A task is admitted only when `decideTask` says `Run` against a snapshot
whose active leases are those of the admitted and unfinished tasks, in any
order; completed ids and dependency paths are whatever the caller knows. An
attempt that does not meet this is refused and changes nothing.

Every run is a run of the coexistence library under any relation that admission
establishes between the older tasks and the newcomer, so each scheduling result
is one admission lemma away from a statement about all runs.
-/

namespace Runlane

/-- A task the scheduler let run, with the leases recorded for it: one for each
effective request, in the name of its run. Lease ids and reasons are free. -/
structure AdmittedTask where
  runId : String
  task : Task
  leases : List ResourceLease
  covers : leases.map (fun lease => (lease.resourceId, lease.mode)) =
    task.effectiveLeaseRequests.map (fun request => (request.resourceId, request.mode))
  owned : ∀ lease ∈ leases, lease.runId = runId

namespace AdmittedTask

/-- The record every task can be given: ids numbered by a caller's prefix. -/
def ofTask (runId leasePrefix : String) (task : Task) : AdmittedTask where
  runId := runId
  task := task
  leases := task.effectiveLeaseRequests.map fun request =>
    (ResourceLease.forRun (leasePrefix ++ request.resourceId) runId request.resourceId
      request.mode request.reason).withTask task.id
  covers := by simp [Function.comp_def, ResourceLease.forRun, ResourceLease.withTask]
  owned := by
    intro lease h
    obtain ⟨request, _, rfl⟩ := List.mem_map.mp h
    rfl

/-- The task holds a lease in this mode on this resource. -/
def Holds (entry : AdmittedTask) (resourceId : String) (mode : LeaseMode) : Prop :=
  ∃ lease ∈ entry.leases, lease.resourceId = resourceId ∧ lease.mode = mode

theorem holds_iff_requested (entry : AdmittedTask) (resourceId : String) (mode : LeaseMode) :
    entry.Holds resourceId mode ↔
      ∃ request ∈ entry.task.effectiveLeaseRequests,
        request.resourceId = resourceId ∧ request.mode = mode := by
  have held : entry.Holds resourceId mode ↔
      (resourceId, mode) ∈ entry.leases.map fun lease => (lease.resourceId, lease.mode) := by
    simp [Holds]
  have requested : (resourceId, mode) ∈ entry.task.effectiveLeaseRequests.map
      (fun request => (request.resourceId, request.mode)) ↔
      ∃ request ∈ entry.task.effectiveLeaseRequests,
        request.resourceId = resourceId ∧ request.mode = mode := by
    simp
  rw [held, entry.covers, requested]

end AdmittedTask

inductive SchedulingOp where
  | start (snapshot : SchedulerSnapshot) (entry : AdmittedTask)
  | finish (index : Nat)

inductive AdmissionRefusal where
  | leasesNotRecorded
  | mustWait (reason : SchedulerWaitReason)
deriving DecidableEq

/-- The snapshot lists the leases of the unfinished tasks and no others. -/
def Records (snapshot : SchedulerSnapshot) (unfinished : List AdmittedTask) : Prop :=
  (∀ entry ∈ unfinished, ∀ lease ∈ entry.leases, lease ∈ snapshot.activeLeases) ∧
    ∀ lease ∈ snapshot.activeLeases, ∃ entry ∈ unfinished, lease ∈ entry.leases

instance (snapshot : SchedulerSnapshot) (unfinished : List AdmittedTask) :
    Decidable (Records snapshot unfinished) :=
  inferInstanceAs (Decidable (_ ∧ _))

/-- One event of a scheduling run over the unfinished tasks, oldest first. -/
def schedule : SchedulingOp → EStateM AdmissionRefusal (List AdmittedTask) Unit
  | .start snapshot entry => do
      let unfinished ← get
      if Records snapshot unfinished then
        match snapshot.decideTask entry.task with
        | .run _ _ => set (unfinished ++ [entry])
        | .wait _ reason => throw (.mustWait reason)
      else throw .leasesNotRecorded
  | .finish index => modify fun unfinished => unfinished.eraseIdx index

/-- The tasks admitted and not finished after a run. -/
abbrev unfinishedAfter (ops : List SchedulingOp) : List AdmittedTask :=
  Calls.exec schedule [] ops

/-- The guard under which `schedule` admits. -/
def Admissible (unfinished : List AdmittedTask) (snapshot : SchedulerSnapshot)
    (entry : AdmittedTask) : Prop :=
  Records snapshot unfinished ∧
    snapshot.decideTask entry.task = .run entry.task.id .dependenciesSatisfiedNoConflicts

/-- The same guard, read off the task and the snapshot. -/
structure Eligible (unfinished : List AdmittedTask) (snapshot : SchedulerSnapshot)
    (entry : AdmittedTask) : Prop where
  recorded : Records snapshot unfinished
  complete : ∀ id ∈ entry.task.dependencies, id ∈ snapshot.completedTaskIds
  compatible : ∀ request ∈ entry.task.effectiveLeaseRequests, ∀ existing ∈ snapshot.activeLeases,
    existing.resourceId = request.resourceId →
      existing.mode.isCompatibleWith request.mode = true
  undisturbed : ∀ lease ∈ snapshot.activeLeases, lease.mode = .drain ∨ lease.mode = .reboot →
    ∀ path ∈ snapshot.dependencyPaths, path.lowerResourceId = lease.resourceId →
      path.upperResourceId ∈ entry.task.mutatedResourceIds → entry.task.layer = .system

theorem eligible_iff {unfinished : List AdmittedTask} {snapshot : SchedulerSnapshot}
    {entry : AdmittedTask} :
    Eligible unfinished snapshot entry ↔ Admissible unfinished snapshot entry := by
  rw [Admissible, SchedulerSnapshot.decideTask_eq_run,
    SchedulerSnapshot.findResourceConflict_eq_none,
    SchedulerSnapshot.findLowerLayerDisruption_eq_none]
  constructor
  · intro h
    exact ⟨h.recorded, h.complete, h.compatible, h.undisturbed⟩
  · intro h
    exact ⟨h.1, h.2.1, h.2.2.1, h.2.2.2⟩

theorem schedule_start {unfinished : List AdmittedTask} {snapshot : SchedulerSnapshot}
    {entry : AdmittedTask} (h : Admissible unfinished snapshot entry) :
    Calls.call schedule unfinished (.start snapshot entry) =
      ⟨unfinished, .start snapshot entry, .ok (), unfinished ++ [entry]⟩ := by
  apply Calls.call_of_ok
  simp [schedule, h.1, h.2]

theorem schedule_refuse {unfinished : List AdmittedTask} {snapshot : SchedulerSnapshot}
    {entry : AdmittedTask} (h : ¬ Admissible unfinished snapshot entry) :
    ∃ refusal, Calls.call schedule unfinished (.start snapshot entry) =
      ⟨unfinished, .start snapshot entry, .error refusal, unfinished⟩ := by
  by_cases recorded : Records snapshot unfinished
  · have wait : ∃ reason, snapshot.decideTask entry.task = .wait entry.task.id reason :=
      (snapshot.decideTask_verdict entry.task).resolve_left fun run => h ⟨recorded, run⟩
    obtain ⟨reason, hwait⟩ := wait
    exact ⟨.mustWait reason, Calls.call_of_error (by simp [schedule, recorded, hwait])⟩
  · exact ⟨.leasesNotRecorded, Calls.call_of_error (by simp [schedule, recorded])⟩

theorem schedule_finish (unfinished : List AdmittedTask) (index : Nat) :
    Calls.call schedule unfinished (.finish index) =
      ⟨unfinished, .finish index, .ok (), unfinished.eraseIdx index⟩ :=
  Calls.call_of_ok (by simp [schedule])

/-- Each event is a step of the coexistence library, for any relation the
admission guard establishes. -/
theorem schedule_step {R : AdmittedTask → AdmittedTask → Prop}
    {unfinished : List AdmittedTask} {op : SchedulingOp}
    (admitted : ∀ snapshot entry, op = .start snapshot entry →
      Admissible unfinished snapshot entry → ∀ older ∈ unfinished, R older entry) :
    Coexistence.Step R unfinished (Calls.call schedule unfinished op).after := by
  cases op with
  | start snapshot entry =>
      by_cases h : Admissible unfinished snapshot entry
      · rw [schedule_start h]
        exact .join (admitted snapshot entry rfl h)
      · obtain ⟨refusal, hcall⟩ := schedule_refuse h
        rw [hcall]
        exact .leave (List.Sublist.refl _)
  | finish index =>
      rw [schedule_finish]
      exact .leave (List.eraseIdx_sublist _ _)

/-- A run refines the coexistence library under every relation that its own
admissions establish. -/
theorem reachable_unfinished {R : AdmittedTask → AdmittedTask → Prop} {ops : List SchedulingOp}
    (admitted : ∀ c ∈ Calls.history schedule [] ops, ∀ snapshot entry,
      c.op = .start snapshot entry → Admissible c.before snapshot entry →
        ∀ older ∈ c.before, R older entry) :
    Coexistence.Reachable R (unfinishedAfter ops) := by
  refine (Calls.history_induction (I := Coexistence.Reachable R) ?_ .refl).2
  intro c hc before
  rw [Calls.eq_call_of_mem hc]
  exact before.tail (schedule_step (admitted c hc))

/-- The scheduler's admission lemma: the newcomer's leases are compatible with
every lease already held on the same resource. -/
theorem Admissible.compatible {unfinished : List AdmittedTask} {snapshot : SchedulerSnapshot}
    {entry : AdmittedTask} (h : Admissible unfinished snapshot entry)
    {older : AdmittedTask} (holder : older ∈ unfinished) {resourceId : String}
    {held asked : LeaseMode} (hheld : older.Holds resourceId held)
    (hasked : entry.Holds resourceId asked) : held.isCompatibleWith asked = true := by
  obtain ⟨lease, hlease, hres, rfl⟩ := hheld
  obtain ⟨request, hrequest, hreq, rfl⟩ := (entry.holds_iff_requested _ _).mp hasked
  exact SchedulerSnapshot.compatible_of_run h.2 hrequest (h.1.1 older holder lease hlease)
    (hres.trans hreq.symm)

end Runlane
