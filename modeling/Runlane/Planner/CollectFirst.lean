import Runlane.Planner.CleanupScope
import Runlane.Planner.RestartGate
import Runlane.Scheduler.Progress

/-!
Working off the runbook plans.

Both runbooks collect evidence in tasks that depend on nothing and mutate in one
task that depends on all of these. Whatever the order in which the scheduler is
asked, the mutation is alone in progress when it runs, over all the evidence,
and it is reached unless another run keeps one of the tasks waiting.
-/

namespace Runlane

/-- Tasks without dependencies and one task that depends on them all. -/
structure CollectsThenMutates (plan collects : List Task) (mutation : Task) : Prop where
  split : plan = collects ++ [mutation]
  free : ∀ task ∈ collects, task.dependencies = []
  gated : mutation.dependencies = collects.map Task.id
  distinct : (plan.map Task.id).Nodup

/-- The mutation comes after all the evidence, and nothing runs beside it. -/
structure MutatesLast (collects : List Task) (mutation : Task) (stage : PlanStage) : Prop where
  running : ∀ entry ∈ stage.running, entry.task.id = mutation.id →
    stage.running = [entry] ∧ stage.done.Perm (collects.map Task.id)
  done : mutation.id ∈ stage.done → stage.running = [] ∧
    ∃ collected, stage.done = collected ++ [mutation.id] ∧
      collected.Perm (collects.map Task.id)

section Runs

variable {plan collects : List Task} {mutation : Task} {foreign : List AdmittedTask}
  {paths : List ResourceDependencyPath} {steps : ℕ} {stage : PlanStage}

namespace CollectsThenMutates

theorem ids (shape : CollectsThenMutates plan collects mutation) :
    plan.map Task.id = collects.map Task.id ++ [mutation.id] := by
  rw [shape.split, List.map_append, List.map_singleton]

theorem collects_nodup (shape : CollectsThenMutates plan collects mutation) :
    (collects.map Task.id).Nodup := by
  have distinct := shape.distinct
  rw [shape.ids] at distinct
  exact distinct.of_append_left

theorem eq_mutation (shape : CollectsThenMutates plan collects mutation) {task : Task}
    (member : task ∈ plan) (named : task.id = mutation.id) : task = mutation := by
  rw [shape.split] at member
  rcases List.mem_append.mp member with collected | last
  · have distinct := shape.distinct
    rw [shape.ids, List.nodup_append] at distinct
    exact absurd named
      (distinct.2.2 _ (List.mem_map_of_mem collected) _ List.mem_cons_self)
  · exact List.mem_singleton.mp last

theorem rule_mutation (shape : CollectsThenMutates plan collects mutation) {needs : List String}
    (rule : PlanRule plan foreign paths mutation.id needs) :
    needs = collects.map Task.id ∧ mutation.Unhindered foreign paths := by
  obtain ⟨task, member, named, rfl, unhindered⟩ := rule
  obtain rfl := shape.eq_mutation member named
  exact ⟨shape.gated, unhindered⟩

/-- What is done and in progress are tasks of the plan, each counted once. -/
theorem count_le (shape : CollectsThenMutates plan collects mutation)
    (run : PlanRun plan foreign paths steps stage) :
    stage.done.length + stage.running.length ≤ collects.length + 1 := by
  have within : (stage.done ++ stage.running.map fun entry => entry.task.id) ⊆
      plan.map Task.id := by
    intro id hid
    obtain ⟨needs, rule⟩ := ((run.founded plan_fair).possible id hid).exists_rule
    exact rule.named
  have short := (List.subperm_of_subset run.nodup within).length_le
  simpa [shape.split] using short

/-- Ids that hold all the evidence are at least as many, and no others when as many. -/
theorem collected (shape : CollectsThenMutates plan collects mutation) {ids : List String}
    (met : ∀ id ∈ collects.map Task.id, id ∈ ids) :
    collects.length ≤ ids.length ∧
      (ids.length ≤ collects.length → ids.Perm (collects.map Task.id)) := by
  have sub := List.subperm_of_subset shape.collects_nodup met
  constructor
  · rw [← @List.length_map _ _ collects Task.id]
    exact sub.length_le
  · intro short
    exact (sub.perm_of_length_le (by rwa [List.length_map])).symm

theorem mutatesLast (shape : CollectsThenMutates plan collects mutation)
    (run : PlanRun plan foreign paths steps stage) : MutatesLast collects mutation stage := by
  have founded := run.founded plan_fair
  have short := shape.count_le run
  constructor
  · intro entry hentry named
    obtain ⟨needs, rule, met⟩ := founded.running entry hentry
    rw [named] at rule
    obtain ⟨rfl, _⟩ := shape.rule_mutation rule
    obtain ⟨enough, perm⟩ := shape.collected met
    have one := List.length_pos_of_mem hentry
    obtain ⟨only, same⟩ := List.length_eq_one_iff.mp (by omega : stage.running.length = 1)
    rw [same] at hentry ⊢
    rw [List.mem_singleton.mp hentry]
    exact ⟨rfl, perm (by omega)⟩
  · intro finished
    obtain ⟨earlier, later, split⟩ := List.append_of_mem finished
    obtain ⟨needs, rule, met⟩ := founded.done earlier mutation.id later split
    obtain ⟨rfl, _⟩ := shape.rule_mutation rule
    obtain ⟨enough, perm⟩ := shape.collected met
    rw [split, List.length_append, List.length_cons] at short
    have last : later = [] := List.eq_nil_of_length_eq_zero (by omega)
    subst last
    exact ⟨List.eq_nil_of_length_eq_zero (by omega), earlier, split, perm (by omega)⟩

/-- Evidence waits only for other runs, the mutation only for these and for the
evidence. -/
theorem completable_iff (shape : CollectsThenMutates plan collects mutation) :
    (∀ task ∈ collects, Completable plan foreign paths task.id ↔
      task.Unhindered foreign paths) ∧
    (Completable plan foreign paths mutation.id ↔
      ∀ task ∈ plan, task.Unhindered foreign paths) := by
  have inPlan {task : Task} (member : task ∈ collects) : task ∈ plan := by
    rw [shape.split]
    exact List.mem_append_left _ member
  have evidence : ∀ task ∈ collects, Completable plan foreign paths task.id ↔
      task.Unhindered foreign paths := by
    intro task member
    constructor
    · intro possible
      obtain ⟨needs, other, listed, named, _, unhindered⟩ := possible.exists_rule
      rwa [List.inj_on_of_nodup_map shape.distinct listed (inPlan member) named] at unhindered
    · intro unhindered
      refine .byRule ⟨task, inPlan member, rfl, rfl, unhindered⟩ ?_
      rw [shape.free task member]
      simp
  refine ⟨evidence, ?_, ?_⟩
  · intro possible
    cases possible with
    | byRule rule met =>
        obtain ⟨rfl, unhindered⟩ := shape.rule_mutation rule
        intro task member
        rw [shape.split] at member
        rcases List.mem_append.mp member with collected | last
        · exact (evidence task collected).mp (met task.id (List.mem_map_of_mem collected))
        · rwa [List.mem_singleton.mp last]
  · intro all
    have last : mutation ∈ plan := by
      rw [shape.split]
      exact List.mem_append_right _ List.mem_cons_self
    refine .byRule ⟨mutation, last, rfl, rfl, all mutation last⟩ ?_
    rw [shape.gated]
    intro id hid
    obtain ⟨task, member, rfl⟩ := List.mem_map.mp hid
    exact (evidence task member).mpr (all task (inPlan member))

end CollectsThenMutates

/-- What the work on a runbook's plan keeps to, and where it ends. -/
structure RunbookSettles (plan collects : List Task) (mutation : Task)
    (foreign : List AdmittedTask) (paths : List ResourceDependencyPath) (stage : PlanStage) :
    Prop where
  last : MutatesLast collects mutation stage
  collected : PlanStuck plan foreign paths stage → ∀ task ∈ collects,
    task.id ∈ stage.done ↔ task.Unhindered foreign paths
  mutated : PlanStuck plan foreign paths stage →
    (mutation.id ∈ stage.done ↔ ∀ task ∈ plan, task.Unhindered foreign paths)
  alone : foreign = [] → PlanStuck plan foreign paths stage →
    ∃ collected, stage.done = collected ++ [mutation.id] ∧
      collected.Perm (collects.map Task.id)

theorem Task.unhindered_alone (task : Task) : task.Unhindered [] paths :=
  ⟨by simp [SchedulerSnapshot.findResourceConflict_eq_none, planSnapshot, Worklist.Stage.idle,
      activeLeases],
    by simp [SchedulerSnapshot.findLowerLayerDisruption_eq_none, planSnapshot, Worklist.Stage.idle,
      activeLeases]⟩

theorem CollectsThenMutates.settles (shape : CollectsThenMutates plan collects mutation)
    (run : PlanRun plan foreign paths steps stage) :
    RunbookSettles plan collects mutation foreign paths stage := by
  have ended (stuck : PlanStuck plan foreign paths stage) := (run.settles.stuck_iff.mp stuck).2
  have mutated : PlanStuck plan foreign paths stage →
      (mutation.id ∈ stage.done ↔ ∀ task ∈ plan, task.Unhindered foreign paths) := by
    intro stuck
    rw [ended stuck, shape.completable_iff.2]
  refine ⟨shape.mutatesLast run, ?_, mutated, ?_⟩
  · intro stuck task member
    rw [ended stuck, shape.completable_iff.1 task member]
  · intro none stuck
    subst none
    exact ((shape.mutatesLast run).done
      ((mutated stuck).mpr fun task _ => task.unhindered_alone)).2

end Runs

theorem ServiceUnhealthyRunbookRequest.collectsThenMutates
    (request : ServiceUnhealthyRunbookRequest) (capabilities : ServiceUnhealthyCapabilities) :
    CollectsThenMutates (request.plan capabilities).run.tasks (request.collectTasks capabilities)
      (request.restartService capabilities) where
  split := rfl
  free := by simp [collectTasks, collect, Task.new]
  gated := rfl
  distinct := by
    have ids : (request.plan capabilities).run.tasks.map Task.id =
        ["collect-service-status", "collect-recent-logs", "collect-disk-snapshot",
          "collect-process-snapshot", "collect-socket-snapshot", "restart-service"] := rfl
    rw [ids]
    decide

theorem DiskPressureRunbookRequest.collectsThenMutates (request : DiskPressureRunbookRequest)
    (capabilities : DiskPressureCapabilities) :
    CollectsThenMutates (request.plan capabilities).run.tasks (request.collectTasks capabilities)
      (request.cleanup capabilities) where
  split := rfl
  free := by simp [collectTasks, collect, Task.new]
  gated := rfl
  distinct := by
    have ids : (request.plan capabilities).run.tasks.map Task.id =
        ["collect-disk-usage", "collect-cleanup-candidate", "collect-disk-pressure-logs",
          "collect-pre-action-snapshot", "cleanup-allowlisted-path"] := rfl
    rw [ids]
    decide

/-- Every plan that a runbook planner makes is worked off evidence first: a
mutation in progress is alone and has all the evidence before it, and when
nothing more can start the mutation is done unless another run's lease keeps
one of the tasks waiting. -/
theorem runbook_runs_collect_first :
    (∀ request report plan, planServiceUnhealthyRunbook request report = .ok plan →
      ∃ capabilities, CollectsThenMutates plan.run.tasks (request.collectTasks capabilities)
          (request.restartService capabilities) ∧
        ∀ foreign paths steps stage, PlanRun plan.run.tasks foreign paths steps stage →
          RunbookSettles plan.run.tasks (request.collectTasks capabilities)
            (request.restartService capabilities) foreign paths stage) ∧
    (∀ request report plan, planDiskPressureRunbook request report = .ok plan →
      ∃ capabilities, CollectsThenMutates plan.run.tasks (request.collectTasks capabilities)
          (request.cleanup capabilities) ∧
        ∀ foreign paths steps stage, PlanRun plan.run.tasks foreign paths steps stage →
          RunbookSettles plan.run.tasks (request.collectTasks capabilities)
            (request.cleanup capabilities) foreign paths stage) := by
  constructor
  · intro request report plan planned
    obtain ⟨-, capabilities, -, -, rfl⟩ := planServiceUnhealthyRunbook_eq_ok.mp planned
    have shape := request.collectsThenMutates capabilities
    exact ⟨capabilities, shape, fun _ _ _ _ run => shape.settles run⟩
  · intro request report plan planned
    obtain ⟨-, capabilities, -, rfl⟩ := planDiskPressureRunbook_eq_ok.mp planned
    have shape := request.collectsThenMutates capabilities
    exact ⟨capabilities, shape, fun _ _ _ _ run => shape.settles run⟩

theorem runbook_runs_collect_first_sshd : ∃ capabilities collected steps,
    PlanRun (restartRequest.plan capabilities).run.tasks [] [] steps
      ⟨collected ++ ["restart-service"], []⟩ ∧
    collected.Perm ((restartRequest.collectTasks capabilities).map Task.id) := by
  obtain ⟨capabilities, planned⟩ := restartRequest_planned
  obtain ⟨found, shape, settles⟩ :=
    runbook_runs_collect_first.1 restartRequest linuxReport _ planned
  have same := (List.append_inj' shape.split rfl).1
  have start : PlanRun (restartRequest.plan capabilities).run.tasks [] [] 0 .idle := .idle
  obtain ⟨steps, ⟨done, running⟩, run, _, stuck⟩ := start.settles.ends
  obtain ⟨collected, rfl, perm⟩ := (settles [] [] steps _ run).alone rfl stuck
  obtain ⟨rfl, _⟩ := run.settles.stuck_iff.mp stuck
  exact ⟨capabilities, collected, steps, run, same ▸ perm⟩

end Runlane
