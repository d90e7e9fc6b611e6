import Mathlib.Data.List.Basic
import Mathlib.Data.List.Nodup
import Mathlib.Data.List.Perm.Basic
import Mathlib.Data.List.Perm.Subperm
import Mathlib.Logic.Relation

/-!
Worklists over finitely many jobs.

Jobs are started and finished one at a time, in any order, each at most once.
When a job may be started depends on what is done and on what is running. It is
only assumed that a started job has a rule whose needs are done, and that with
nothing running no such rule is ignored. Then every run is short, and it can
stop only when the jobs done are those that the rules derive.
-/

namespace Worklist

universe u v
variable {ι : Type u} {κ : Type v}

/-- What the rules derive: a job whose needs under one of its rules are derived. -/
inductive Possible (rules : ι → List ι → Prop) : ι → Prop where
  | byRule {job : ι} {needs : List ι} (rule : rules job needs)
      (met : ∀ need ∈ needs, Possible rules need) : Possible rules job

structure Stage (ι : Type u) (κ : Type v) where
  done : List ι
  running : List κ

def Stage.idle : Stage ι κ := ⟨[], []⟩

inductive Step (job : κ → ι) (MayStart : Stage ι κ → κ → Prop) :
    Stage ι κ → Stage ι κ → Prop where
  | start {stage : Stage ι κ} {work : κ} (new : job work ∉ stage.done ++ stage.running.map job)
      (may : MayStart stage work) :
      Step job MayStart stage ⟨stage.done, stage.running ++ [work]⟩
  | finish {done : List ι} {before after : List κ} {work : κ} :
      Step job MayStart ⟨done, before ++ work :: after⟩ ⟨done ++ [job work], before ++ after⟩

/-- The stages after so many steps. -/
inductive Reaches (job : κ → ι) (MayStart : Stage ι κ → κ → Prop) : ℕ → Stage ι κ → Prop where
  | idle : Reaches job MayStart 0 .idle
  | step {steps : ℕ} {stage next : Stage ι κ} (reached : Reaches job MayStart steps stage)
      (step : Step job MayStart stage next) : Reaches job MayStart (steps + 1) next

def Stuck (job : κ → ι) (MayStart : Stage ι κ → κ → Prop) (stage : Stage ι κ) : Prop :=
  ∀ next, ¬ Step job MayStart stage next

/-- A start has a rule behind it, and an idle worklist ignores none. -/
structure Fair (rules : ι → List ι → Prop) (job : κ → ι)
    (MayStart : Stage ι κ → κ → Prop) : Prop where
  sound : ∀ {stage work}, MayStart stage work → ∃ needs, rules (job work) needs ∧
    ∀ need ∈ needs, need ∈ stage.done
  live : ∀ {done name needs}, rules name needs → (∀ need ∈ needs, need ∈ done) →
    ∃ work, job work = name ∧ MayStart ⟨done, []⟩ work

variable {rules : ι → List ι → Prop} {job : κ → ι} {MayStart : Stage ι κ → κ → Prop}
  {steps : ℕ} {stage next : Stage ι κ}

theorem Reaches.count (reached : Reaches job MayStart steps stage) :
    steps = 2 * stage.done.length + stage.running.length := by
  induction reached with
  | idle => rfl
  | step _ step ih =>
      cases step with
      | start =>
          simp only [List.length_append, List.length_singleton]
          omega
      | finish =>
          simp only [List.length_append, List.length_nil, List.length_cons] at ih ⊢
          omega

/-- No job is started twice. -/
theorem Reaches.nodup (reached : Reaches job MayStart steps stage) :
    (stage.done ++ stage.running.map job).Nodup := by
  induction reached with
  | idle => exact List.nodup_nil
  | step _ step ih =>
      cases step with
      | start new _ =>
          rw [List.map_append, List.map_singleton, ← List.append_assoc]
          exact List.nodup_append.mpr ⟨ih, List.nodup_singleton _, by
            intro a ha b hb same
            rw [List.mem_singleton.mp hb] at same
            exact new (same ▸ ha)⟩
      | @finish done before after work =>
          refine (List.Perm.nodup_iff ?_).mp ih
          simp only [List.map_append, List.map_cons, List.append_assoc, List.singleton_append]
          exact List.Perm.append_left done List.perm_middle

/-- Every job done or running was started under a rule that the jobs done before
it meet. -/
structure Founded (rules : ι → List ι → Prop) (job : κ → ι) (stage : Stage ι κ) : Prop where
  done : ∀ earlier name later, stage.done = earlier ++ name :: later →
    ∃ needs, rules name needs ∧ ∀ need ∈ needs, need ∈ earlier
  running : ∀ work ∈ stage.running, ∃ needs, rules (job work) needs ∧
    ∀ need ∈ needs, need ∈ stage.done

theorem Step.founded (fair : Fair rules job MayStart) (step : Step job MayStart stage next)
    (founded : Founded rules job stage) : Founded rules job next := by
  cases step with
  | start _ may =>
      refine ⟨founded.done, ?_⟩
      intro other hother
      show ∃ needs, rules (job other) needs ∧ ∀ need ∈ needs, need ∈ stage.done
      rcases List.mem_append.mp hother with old | new
      · exact founded.running other old
      · rw [List.mem_singleton.mp new]
        exact fair.sound may
  | @finish done before after work =>
      have mine := founded.running work (List.mem_append_right _ List.mem_cons_self)
      constructor
      · intro earlier name later split
        rcases List.eq_nil_or_concat later with rfl | ⟨rest, last, rfl⟩
        · obtain ⟨rfl, same⟩ := List.append_inj' split rfl
          cases same
          exact mine
        · have inner : done = earlier ++ name :: rest := by
            rw [List.concat_eq_append, ← List.cons_append, ← List.append_assoc] at split
            exact (List.append_inj' split rfl).1
          exact founded.done earlier name rest inner
      · intro other hother
        have kept : other ∈ before ++ work :: after := by
          rcases List.mem_append.mp hother with left | right
          · exact List.mem_append_left _ left
          · exact List.mem_append_right _ (List.mem_cons_of_mem _ right)
        obtain ⟨needs, rule, met⟩ := founded.running other kept
        exact ⟨needs, rule, fun need hneed => List.mem_append_left _ (met need hneed)⟩

theorem Reaches.founded (fair : Fair rules job MayStart)
    (reached : Reaches job MayStart steps stage) : Founded rules job stage := by
  induction reached with
  | idle => exact ⟨by intro _ _ _ split; simp [Stage.idle] at split, by simp [Stage.idle]⟩
  | step _ step ih => exact step.founded fair ih

theorem Founded.possible_done (founded : Founded rules job stage) :
    ∀ name ∈ stage.done, Possible rules name := by
  have derived : ∀ later earlier, stage.done = earlier ++ later →
      (∀ name ∈ earlier, Possible rules name) → ∀ name ∈ stage.done, Possible rules name := by
    intro later
    induction later with
    | nil =>
        intro earlier split before
        rw [split, List.append_nil]
        exact before
    | cons name later ih =>
        intro earlier split before
        obtain ⟨needs, rule, met⟩ := founded.done earlier name later split
        apply ih (earlier ++ [name])
        · rw [split, List.append_assoc, List.singleton_append]
        · intro other hother
          rcases List.mem_append.mp hother with old | new
          · exact before other old
          · rw [List.mem_singleton.mp new]
            exact .byRule rule fun need hneed => before need (met need hneed)
  exact derived stage.done [] rfl (by simp)

/-- No job is started that the rules do not derive. -/
theorem Founded.possible (founded : Founded rules job stage) :
    ∀ name ∈ stage.done ++ stage.running.map job, Possible rules name := by
  intro name hname
  rcases List.mem_append.mp hname with finished | runs
  · exact founded.possible_done name finished
  · obtain ⟨work, hwork, rfl⟩ := List.mem_map.mp runs
    obtain ⟨needs, rule, met⟩ := founded.running work hwork
    exact .byRule rule fun need hneed => founded.possible_done need (met need hneed)

theorem Possible.exists_rule {name : ι} (possible : Possible rules name) :
    ∃ needs, rules name needs := by
  cases possible with
  | byRule rule _ => exact ⟨_, rule⟩

/-- Every job is started and finished once, so finitely many bound the steps. -/
theorem Reaches.bound (fair : Fair rules job MayStart)
    (reached : Reaches job MayStart steps stage) {names : List ι}
    (named : ∀ name needs, rules name needs → name ∈ names) : steps ≤ 2 * names.length := by
  have within : stage.done ++ stage.running.map job ⊆ names := by
    intro name hname
    obtain ⟨needs, rule⟩ := ((reached.founded fair).possible name hname).exists_rule
    exact named name needs rule
  have short := (List.subperm_of_subset reached.nodup within).length_le
  rw [List.length_append, List.length_map] at short
  have count := reached.count
  omega

/-- A worklist stops with nothing running and everything derived done, and
nowhere else. -/
theorem Reaches.stuck_iff (fair : Fair rules job MayStart)
    (reached : Reaches job MayStart steps stage) :
    Stuck job MayStart stage ↔
      stage.running = [] ∧ ∀ name, name ∈ stage.done ↔ Possible rules name := by
  obtain ⟨done, running⟩ := stage
  constructor
  · intro stuck
    have stopped : running = [] := by
      cases running with
      | nil => rfl
      | cons work rest => exact absurd (@Step.finish _ _ _ _ done [] rest work) (stuck _)
    subst stopped
    refine ⟨rfl, fun name => ⟨(reached.founded fair).possible_done name, ?_⟩⟩
    intro possible
    induction possible with
    | @byRule name needs rule _ ih =>
        obtain ⟨work, rfl, may⟩ := fair.live rule ih
        by_contra new
        exact stuck _ (.start (by simpa using new) may)
  · intro ended next step
    obtain ⟨rfl, all⟩ := ended
    generalize hstage : (⟨done, []⟩ : Stage ι κ) = stage at step
    cases step with
    | start new may =>
        subst hstage
        obtain ⟨needs, rule, met⟩ := fair.sound may
        exact new (List.mem_append_left _
          ((all _).mpr (.byRule rule fun need hneed => (all need).mp (met need hneed))))
    | finish =>
        have empty := congrArg Stage.running hstage
        simp at empty

/-- Whatever was done so far, a run can be carried on until it stops. -/
theorem Reaches.exists_stuck {steps : ℕ} {stage : Stage ι κ} (fair : Fair rules job MayStart)
    (reached : Reaches job MayStart steps stage) {names : List ι}
    (named : ∀ name needs, rules name needs → name ∈ names) :
    ∃ last final, Reaches job MayStart last final ∧
      Relation.ReflTransGen (Step job MayStart) stage final ∧ Stuck job MayStart final := by
  by_cases stuck : Stuck job MayStart stage
  · exact ⟨steps, stage, reached, .refl, stuck⟩
  · simp only [Stuck, not_forall, not_not] at stuck
    obtain ⟨next, step⟩ := stuck
    have shorter := (reached.step step).bound fair named
    obtain ⟨last, final, ended, later, halts⟩ := (reached.step step).exists_stuck fair named
    exact ⟨last, final, ended, .head step later, halts⟩
termination_by 2 * names.length - steps

/-- All runs that stop did the same jobs. -/
theorem Reaches.stuck_perm (fair : Fair rules job MayStart)
    (reached : Reaches job MayStart steps stage) {steps' : ℕ} {stage' : Stage ι κ}
    (reached' : Reaches job MayStart steps' stage') (stuck : Stuck job MayStart stage)
    (stuck' : Stuck job MayStart stage') : stage.done.Perm stage'.done := by
  refine (List.perm_ext_iff_of_nodup reached.nodup.of_append_left
    reached'.nodup.of_append_left).mpr ?_
  intro name
  rw [((reached.stuck_iff fair).mp stuck).2, ((reached'.stuck_iff fair).mp stuck').2]

end Worklist
