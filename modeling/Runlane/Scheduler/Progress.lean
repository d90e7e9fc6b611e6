import Runlane.Lib.Worklist
import Runlane.Scheduler.Admission

/-!
Working off a plan.

The tasks of one plan are started in any order, each when `decideTask` lets it
run against the tasks done so far and the leases of the tasks still in progress,
and finished in any order. Other runs keep the leases they hold. A task held up
by these stays held up, and so does whatever depends on it; nothing else can
keep a task of the plan from being done, and no order of starts runs into a
deadlock.
-/

namespace Runlane

abbrev PlanStage := Worklist.Stage String AdmittedTask

def activeLeases (entries : List AdmittedTask) : List ResourceLease :=
  entries.flatMap AdmittedTask.leases

theorem mem_activeLeases {entries : List AdmittedTask} {lease : ResourceLease} :
    lease ∈ activeLeases entries ↔ ∃ entry ∈ entries, lease ∈ entry.leases :=
  List.mem_flatMap

section Plan

variable (plan : List Task) (foreign : List AdmittedTask) (paths : List ResourceDependencyPath)

/-- What the scheduler is shown: the plan's tasks done, the leases of the other
runs and of the plan's tasks in progress. -/
def planSnapshot (stage : PlanStage) : SchedulerSnapshot where
  completedTaskIds := stage.done
  activeLeases := activeLeases (foreign ++ stage.running)
  dependencyPaths := paths

/-- The scheduler lets the task of the plan run. -/
def PlanMayStart (stage : PlanStage) (entry : AdmittedTask) : Prop :=
  entry.task ∈ plan ∧ (planSnapshot foreign paths stage).decideTask entry.task =
    .run entry.task.id .dependenciesSatisfiedNoConflicts

abbrev PlanStep : PlanStage → PlanStage → Prop :=
  Worklist.Step (fun entry => entry.task.id) (PlanMayStart plan foreign paths)

/-- So many starts and finishes lead here. -/
abbrev PlanRun : ℕ → PlanStage → Prop :=
  Worklist.Reaches (fun entry => entry.task.id) (PlanMayStart plan foreign paths)

abbrev PlanStuck : PlanStage → Prop :=
  Worklist.Stuck (fun entry => entry.task.id) (PlanMayStart plan foreign paths)

/-- Nothing that the other runs hold keeps the task waiting. -/
def Task.Unhindered (task : Task) : Prop :=
  (planSnapshot foreign paths .idle).findResourceConflict task = none ∧
    (planSnapshot foreign paths .idle).findLowerLayerDisruption task = none

def PlanRule (id : String) (needs : List String) : Prop :=
  ∃ task ∈ plan, task.id = id ∧ task.dependencies = needs ∧ task.Unhindered foreign paths

/-- The task and all it depends on are of the plan and unhindered. -/
abbrev Completable : String → Prop :=
  Worklist.Possible (PlanRule plan foreign paths)

variable {plan foreign paths}

theorem Task.unhindered_of_run {stage : PlanStage} {task : Task}
    (run : (planSnapshot foreign paths stage).decideTask task =
      .run task.id .dependenciesSatisfiedNoConflicts) : task.Unhindered foreign paths := by
  obtain ⟨_, conflicts, disruptions⟩ := SchedulerSnapshot.decideTask_eq_run.mp run
  rw [SchedulerSnapshot.findResourceConflict_eq_none] at conflicts
  rw [SchedulerSnapshot.findLowerLayerDisruption_eq_none] at disruptions
  have fewer : ∀ lease ∈ (planSnapshot foreign paths .idle).activeLeases,
      lease ∈ (planSnapshot foreign paths stage).activeLeases := by
    intro lease hlease
    obtain ⟨entry, hentry, held⟩ := mem_activeLeases.mp hlease
    rw [Worklist.Stage.idle, List.append_nil] at hentry
    exact mem_activeLeases.mpr ⟨entry, List.mem_append_left _ hentry, held⟩
  constructor
  · rw [SchedulerSnapshot.findResourceConflict_eq_none]
    intro request hrequest existing hexisting
    exact conflicts request hrequest existing (fewer existing hexisting)
  · rw [SchedulerSnapshot.findLowerLayerDisruption_eq_none]
    intro lease hlease
    exact disruptions lease (fewer lease hlease)

/-- `decideTask` is a fair worklist: with nothing of the plan in progress, only
dependencies and the leases of other runs are left to wait for. -/
theorem plan_fair : Worklist.Fair (PlanRule plan foreign paths) (fun entry => entry.task.id)
    (PlanMayStart plan foreign paths) where
  sound := by
    intro stage entry may
    have met := (SchedulerSnapshot.decideTask_eq_run.mp may.2).1
    exact ⟨entry.task.dependencies,
      ⟨entry.task, may.1, rfl, rfl, Task.unhindered_of_run may.2⟩, met⟩
  live := by
    intro done id needs rule met
    obtain ⟨task, member, rfl, rfl, unhindered⟩ := rule
    refine ⟨.ofTask "" "" task, rfl, member, ?_⟩
    exact SchedulerSnapshot.decideTask_eq_run.mpr ⟨met, unhindered⟩

theorem PlanRule.named {id : String} {needs : List String}
    (rule : PlanRule plan foreign paths id needs) : id ∈ plan.map Task.id := by
  obtain ⟨task, member, rfl, _⟩ := rule
  exact List.mem_map_of_mem member

end Plan

theorem records_activeLeases (entries : List AdmittedTask) (snapshot : SchedulerSnapshot)
    (same : snapshot.activeLeases = activeLeases entries) : Records snapshot entries := by
  constructor
  · intro entry hentry lease hlease
    rw [same]
    exact mem_activeLeases.mpr ⟨entry, hentry, hlease⟩
  · intro lease hlease
    rw [same] at hlease
    exact mem_activeLeases.mp hlease

theorem PlanStep.scheduled {plan : List Task} {paths : List ResourceDependencyPath}
    {before : List SchedulingOp} {foreign : List AdmittedTask} {stage next : PlanStage}
    (step : PlanStep plan foreign paths stage next)
    (same : unfinishedAfter before = foreign ++ stage.running) :
    ∃ op, unfinishedAfter (before ++ [op]) = foreign ++ next.running := by
  have performed (op : SchedulingOp) : unfinishedAfter (before ++ [op]) =
      (Calls.call schedule (foreign ++ stage.running) op).after := by
    rw [← same]
    exact Calls.exec_append schedule [] before [op]
  cases step with
  | @start _ entry _ may =>
      refine ⟨.start (planSnapshot foreign paths stage) entry, ?_⟩
      rw [performed, schedule_start ⟨records_activeLeases _ _ rfl, may.2⟩, List.append_assoc]
  | @finish done left right entry =>
      refine ⟨.finish (foreign ++ left).length, ?_⟩
      rw [performed, schedule_finish]
      show (foreign ++ (left ++ entry :: right)).eraseIdx (foreign ++ left).length =
        foreign ++ (left ++ right)
      rw [← List.append_assoc, List.eraseIdx_append_of_length_le le_rfl, Nat.sub_self,
        List.eraseIdx_cons_zero, List.append_assoc]

theorem PlanRun.scheduled {plan : List Task} {paths : List ResourceDependencyPath}
    {before : List SchedulingOp} {steps : ℕ} {stage : PlanStage}
    (run : PlanRun plan (unfinishedAfter before) paths steps stage) :
    ∃ ops : List SchedulingOp, ops.length = steps ∧
      unfinishedAfter (before ++ ops) = unfinishedAfter before ++ stage.running := by
  induction run with
  | idle => exact ⟨[], rfl, by simp [Worklist.Stage.idle]⟩
  | step _ step ih =>
      obtain ⟨ops, count, same⟩ := ih
      obtain ⟨op, taken⟩ := PlanStep.scheduled step same
      refine ⟨ops ++ [op], by simp [count], ?_⟩
      rw [← List.append_assoc]
      exact taken

/-- How the work on a plan stands and ends, seen from one of its stages. -/
structure PlanSettles (plan : List Task) (foreign : List AdmittedTask)
    (paths : List ResourceDependencyPath) (steps : ℕ) (stage : PlanStage) : Prop where
  short : steps ≤ 2 * plan.length
  once : (stage.done ++ stage.running.map fun entry => entry.task.id).Nodup
  ordered : ∀ earlier id later, stage.done = earlier ++ id :: later →
    ∃ task ∈ plan, task.id = id ∧ ∀ dependency ∈ task.dependencies, dependency ∈ earlier
  ends : ∃ last final, PlanRun plan foreign paths last final ∧
    Relation.ReflTransGen (PlanStep plan foreign paths) stage final ∧
    PlanStuck plan foreign paths final
  stuck_iff : PlanStuck plan foreign paths stage ↔
    stage.running = [] ∧ ∀ id, id ∈ stage.done ↔ Completable plan foreign paths id

theorem PlanRun.settles {plan : List Task} {foreign : List AdmittedTask}
    {paths : List ResourceDependencyPath} {steps : ℕ} {stage : PlanStage}
    (run : PlanRun plan foreign paths steps stage) :
    PlanSettles plan foreign paths steps stage where
  short := by
    have bound := run.bound plan_fair fun _ _ => PlanRule.named
    rwa [List.length_map] at bound
  once := run.nodup
  ordered := by
    intro earlier id later split
    obtain ⟨needs, ⟨task, member, named, rfl, _⟩, met⟩ :=
      (run.founded plan_fair).done earlier id later split
    exact ⟨task, member, named, met⟩
  ends := run.exists_stuck plan_fair fun _ _ => PlanRule.named
  stuck_iff := run.stuck_iff plan_fair

/-- A plan worked off in any order, beside whatever other runs hold, is an
ordinary scheduling run that does each task at most once and after its
dependencies, and that can end only when the tasks done are the completable
ones: exactly these are done then, in whatever order. -/
theorem plan_runs_settle (plan : List Task) (paths : List ResourceDependencyPath)
    (before : List SchedulingOp) (steps : ℕ) (stage : PlanStage)
    (run : PlanRun plan (unfinishedAfter before) paths steps stage) :
    (∃ ops : List SchedulingOp, ops.length = steps ∧
      unfinishedAfter (before ++ ops) = unfinishedAfter before ++ stage.running) ∧
    PlanSettles plan (unfinishedAfter before) paths steps stage ∧
    ∀ steps' stage', PlanRun plan (unfinishedAfter before) paths steps' stage' →
      PlanStuck plan (unfinishedAfter before) paths stage →
      PlanStuck plan (unfinishedAfter before) paths stage' → stage.done.Perm stage'.done :=
  ⟨run.scheduled, run.settles, fun _ _ run' => run.stuck_perm plan_fair run'⟩

/-- A read and the write that depends on it. -/
def readThenWrite : List Task :=
  [{ Task.new "read" .system with reads := ["r"] },
    { Task.new "write" .system with writes := ["r"], dependencies := ["read"] }]

theorem readThenWrite_run :
    PlanRun readThenWrite (unfinishedAfter []) [] 4 ⟨["read", "write"], []⟩ := by
  have started : PlanRun readThenWrite (unfinishedAfter []) [] 1
      ⟨[], [.ofTask "run-1" "lease-" { Task.new "read" .system with reads := ["r"] }]⟩ :=
    .step .idle (.start (by decide) ⟨by decide, by decide⟩)
  have finished : PlanRun readThenWrite (unfinishedAfter []) [] 2 ⟨["read"], []⟩ :=
    .step started (@Worklist.Step.finish _ _ _ _ [] [] [] _)
  have writing : PlanRun readThenWrite (unfinishedAfter []) [] 3
      ⟨["read"], [.ofTask "run-1" "lease-"
        { Task.new "write" .system with writes := ["r"], dependencies := ["read"] }]⟩ :=
    .step finished (.start (by decide) ⟨by decide, by decide⟩)
  exact .step writing (@Worklist.Step.finish _ _ _ _ ["read"] [] [] _)

theorem plan_runs_settle_pair :
    ∃ ops : List SchedulingOp, ops.length = 4 ∧ unfinishedAfter ([] ++ ops) = [] ∧
      PlanSettles readThenWrite (unfinishedAfter []) [] 4 ⟨["read", "write"], []⟩ := by
  obtain ⟨⟨ops, count, same⟩, settles, _⟩ :=
    plan_runs_settle readThenWrite [] [] 4 ⟨["read", "write"], []⟩ readThenWrite_run
  exact ⟨ops, count, same, settles⟩

end Runlane
