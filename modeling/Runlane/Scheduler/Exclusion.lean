import Runlane.Scheduler.Admission
import Mathlib.Data.List.Pairwise

/-!
What admission guarantees about two unfinished tasks on one resource.

All of it follows from one fact: the leases of two unfinished tasks are
compatible. The compatibility matrix then decides which modes can meet. It says
nothing of who holds a lease, and a lease is what a task asks for, not what its
`writes` say; both show in the results on written resources and on run
ownership.
-/

namespace Runlane

open LeaseMode

/-- Leases of the two tasks on a shared resource are compatible. -/
abbrev LeasesCompatible : AdmittedTask → AdmittedTask → Prop :=
  Coexistence.Compatible (fun entry => {grant | entry.Holds grant.1 grant.2})
    (fun held asked => held.isCompatibleWith asked = true)

theorem LeasesCompatible.symm {a b : AdmittedTask} (h : LeasesCompatible a b) :
    LeasesCompatible b a :=
  Coexistence.Compatible.symm (fun m n hmn => by rwa [isCompatibleWith_comm]) h

theorem unfinished_compatible (ops : List SchedulingOp) :
    (unfinishedAfter ops).Pairwise LeasesCompatible := by
  apply Coexistence.Reachable.pairwise
  apply reachable_unfinished
  intro c _ snapshot entry _ h older holder r held asked hheld hasked
  exact h.compatible holder hheld hasked

/-- Two mutating leases on one resource are a drain and a reboot. -/
theorem LeasesCompatible.mutating {a b : AdmittedTask} (h : LeasesCompatible a b) {r : String}
    {m n : LeaseMode} (hm : a.Holds r m) (hn : b.Holds r n) (mutm : m.isMutating = true)
    (mutn : n.isMutating = true) : (m = drain ∧ n = reboot) ∨ (m = reboot ∧ n = drain) :=
  (isCompatibleWith_of_mutating mutm mutn).mp (h r m n hm hn)

/-- At every reachable state, leases of two unfinished tasks on one resource are
compatible in both directions, so two tasks never hold it exclusively and a
reboot lease meets drain leases only. -/
theorem unfinished_leases_coexist (ops : List SchedulingOp) :
    (unfinishedAfter ops).Pairwise fun a b =>
      ∀ la ∈ a.leases, ∀ lb ∈ b.leases, la.resourceId = lb.resourceId →
        la.mode.isCompatibleWith lb.mode = true ∧ lb.mode.isCompatibleWith la.mode = true ∧
        ¬ (la.mode = exclusive ∧ lb.mode = exclusive) ∧
        (la.mode = reboot → lb.mode = drain) ∧ (lb.mode = reboot → la.mode = drain) := by
  refine (unfinished_compatible ops).imp ?_
  intro a b h la hla lb hlb same
  have forth : la.mode.isCompatibleWith lb.mode = true :=
    h la.resourceId la.mode lb.mode ⟨la, hla, rfl, rfl⟩ ⟨lb, hlb, same.symm, rfl⟩
  have back : lb.mode.isCompatibleWith la.mode = true := by rwa [isCompatibleWith_comm]
  refine ⟨forth, back, ?_, ?_, ?_⟩
  · intro both
    rw [both.1, both.2] at forth
    exact absurd forth (by decide)
  · intro ha
    rw [ha] at forth
    exact reboot_isCompatibleWith.mp forth
  · intro hb
    rw [hb] at back
    exact reboot_isCompatibleWith.mp back

/-- The task asks to hold every resource it writes exclusively. -/
def Task.CoversWrites (task : Task) : Prop :=
  ∀ r ∈ task.writes, ∃ request ∈ task.effectiveLeaseRequests,
    request.resourceId = r ∧ request.mode = exclusive

theorem Task.coversWrites_of_derived {task : Task} (derived : task.leaseRequests = []) :
    task.CoversWrites :=
  fun r hr => ⟨⟨r, exclusive, "task write"⟩, exclusive_of_derived derived hr, rfl, rfl⟩

/-- An explicit request list decides alone what is held, so a resource has one
writer only among tasks whose requests say so. -/
theorem covered_writes_exclusive (ops : List SchedulingOp) :
    ((unfinishedAfter ops).Pairwise fun a b =>
      ∀ r ∈ a.task.writes, r ∈ b.task.writes → ∀ m n, a.Holds r m → b.Holds r n →
        m.isMutating = true → n.isMutating = true →
          (m = drain ∧ n = reboot) ∨ (m = reboot ∧ n = drain)) ∧
    ((unfinishedAfter ops).Pairwise fun a b =>
      a.task.CoversWrites → b.task.CoversWrites → ∀ r ∈ a.task.writes, r ∉ b.task.writes) ∧
    ∀ task : Task, task.leaseRequests = [] → task.CoversWrites := by
  refine ⟨?_, ?_, fun _ => Task.coversWrites_of_derived⟩
  · refine (unfinished_compatible ops).imp ?_
    intro a b h r _ _ m n hm hn
    exact h.mutating hm hn
  · refine (unfinished_compatible ops).imp ?_
    intro a b h coversA coversB r ha hb
    have holdA : a.Holds r exclusive := (a.holds_iff_requested _ _).mpr (coversA r ha)
    have holdB : b.Holds r exclusive := (b.holds_iff_requested _ _).mpr (coversB r hb)
    exact Coexistence.Compatible.not_both h (by decide) holdA holdB

/-- Two rewrites of one file, each asking only to observe it. -/
def uncoveredWrite (id : String) : Task :=
  { Task.new id .system with
    writes := ["system:node/n/path/etc"]
    leaseRequests := [⟨"system:node/n/path/etc", observe, "declared by hand"⟩] }

/-- Both are admitted and write the same resource side by side. -/
theorem shared_write_admitted :
    ¬ ∀ ops : List SchedulingOp, (unfinishedAfter ops).Pairwise fun a b =>
      ∀ r ∈ a.task.writes, r ∉ b.task.writes := by
  intro h
  let first := AdmittedTask.ofTask "run-1" "first:" (uncoveredWrite "rewrite-a")
  let second := AdmittedTask.ofTask "run-2" "second:" (uncoveredWrite "rewrite-b")
  have both : unfinishedAfter
      [.start ⟨[], [], []⟩ first, .start ⟨[], first.leases, []⟩ second] = [first, second] := rfl
  have apart := h [.start ⟨[], [], []⟩ first, .start ⟨[], first.leases, []⟩ second]
  rw [both] at apart
  exact (List.pairwise_cons.mp apart).1 second List.mem_cons_self "system:node/n/path/etc"
    List.mem_cons_self List.mem_cons_self

/-- All active mutating leases on a resource belong to one run. -/
def OwnedByOneRun (unfinished : List AdmittedTask) : Prop :=
  ∀ a ∈ unfinished, ∀ b ∈ unfinished, ∀ la ∈ a.leases, ∀ lb ∈ b.leases,
    la.resourceId = lb.resourceId → la.mode.isMutating = true → lb.mode.isMutating = true →
      la.runId = lb.runId

/-- The newcomer asks to drain or reboot a resource on which another run holds
the other of the two modes. -/
def SplitsDrainReboot (unfinished : List AdmittedTask) (entry : AdmittedTask) : Prop :=
  ∃ older ∈ unfinished, older.runId ≠ entry.runId ∧ ∃ r,
    (older.Holds r drain ∧ entry.Holds r reboot) ∨ (older.Holds r reboot ∧ entry.Holds r drain)

/-- Ownership between two holders, as a relation on their runs. -/
def SameOwner (a b : AdmittedTask) : Prop :=
  ∀ r m n, a.Holds r m → b.Holds r n → m.isMutating = true → n.isMutating = true →
    a.runId = b.runId

instance : Std.Symm SameOwner where
  symm _ _ h r m n hm hn mutm mutn := (h r n m hn hm mutn mutm).symm

theorem ownedByOneRun_iff_pairwise (unfinished : List AdmittedTask) :
    OwnedByOneRun unfinished ↔ unfinished.Pairwise SameOwner := by
  constructor
  · intro h
    refine List.Pairwise.imp_of_mem ?_ (List.pairwise_of_forall fun _ _ => True.intro)
    rintro a b ha hb - r m n ⟨la, hla, rfl, rfl⟩ ⟨lb, hlb, same, rfl⟩ hm hn
    rw [← a.owned la hla, ← b.owned lb hlb]
    exact h a ha b hb la hla lb hlb same.symm hm hn
  · intro h a ha b hb la hla lb hlb same hm hn
    have owner : SameOwner a b := h.forall_of_forall (fun _ _ _ _ _ _ _ _ _ => rfl) ha hb
    rw [a.owned la hla, b.owned lb hlb]
    exact owner la.resourceId la.mode lb.mode ⟨la, hla, rfl, rfl⟩ ⟨lb, hlb, same.symm, rfl⟩ hm hn

/-- Admission keeps ownership exactly when it does not split a drain and reboot pair. -/
theorem ownedByOneRun_join {unfinished : List AdmittedTask} {snapshot : SchedulerSnapshot}
    {entry : AdmittedTask} (owned : OwnedByOneRun unfinished)
    (h : Admissible unfinished snapshot entry) :
    OwnedByOneRun (unfinished ++ [entry]) ↔ ¬ SplitsDrainReboot unfinished entry := by
  rw [ownedByOneRun_iff_pairwise, List.pairwise_append]
  have old := (ownedByOneRun_iff_pairwise unfinished).mp owned
  constructor
  · rintro ⟨-, -, across⟩ ⟨older, holder, foreign, r, modes⟩
    have owner : SameOwner older entry := across older holder entry List.mem_cons_self
    obtain ⟨hd, hr⟩ | ⟨hr, hd⟩ := modes
    · exact foreign (owner r drain reboot hd hr rfl rfl)
    · exact foreign (owner r reboot drain hr hd rfl rfl)
  · intro unsplit
    refine ⟨old, List.pairwise_singleton _ _, ?_⟩
    intro older holder newcomer hnew r m n hm hn mutm mutn
    rw [List.mem_singleton.mp hnew] at hn ⊢
    by_contra foreign
    apply unsplit
    refine ⟨older, holder, foreign, r, ?_⟩
    have pair := (isCompatibleWith_of_mutating mutm mutn).mp (h.compatible holder hm hn)
    obtain ⟨rfl, rfl⟩ | ⟨rfl, rfl⟩ := pair
    · exact .inl ⟨hm, hn⟩
    · exact .inr ⟨hm, hn⟩

theorem ownedByOneRun_call {unfinished : List AdmittedTask} (owned : OwnedByOneRun unfinished)
    (op : SchedulingOp) :
    OwnedByOneRun (Calls.call schedule unfinished op).after ↔
      ∀ snapshot entry, op = .start snapshot entry → Eligible unfinished snapshot entry →
        ¬ SplitsDrainReboot unfinished entry := by
  cases op with
  | start snapshot entry =>
      by_cases admissible : Admissible unfinished snapshot entry
      · rw [schedule_start admissible, ownedByOneRun_join owned admissible]
        constructor
        · intro unsplit snapshot' entry' same _
          cases same
          exact unsplit
        · intro unsplit
          exact unsplit snapshot entry rfl (eligible_iff.mpr admissible)
      · obtain ⟨refusal, refused⟩ := schedule_refuse admissible
        rw [refused]
        refine ⟨?_, fun _ => owned⟩
        intro _ snapshot' entry' same eligible
        cases same
        exact absurd (eligible_iff.mp eligible) admissible
  | finish index =>
      rw [schedule_finish]
      constructor
      · intro _ snapshot entry same
        cases same
      · intro _
        rw [ownedByOneRun_iff_pairwise] at owned ⊢
        exact owned.sublist (List.eraseIdx_sublist _ _)

/-- Ownership survives as long as no task that may start splits a drain and
reboot pair between two runs, and is lost with the first one that does. -/
theorem owned_by_one_run_iff (ops : List SchedulingOp) :
    (∀ c ∈ Calls.history schedule [] ops, OwnedByOneRun c.after) ↔
      ∀ c ∈ Calls.history schedule [] ops, ∀ snapshot entry, c.op = .start snapshot entry →
        Eligible c.before snapshot entry → ¬ SplitsDrainReboot c.before entry := by
  have nobody : OwnedByOneRun [] := fun _ h => by cases h
  refine Calls.history_iff ?_ nobody
  intro c hc owned
  have call := ownedByOneRun_call owned c.op
  rwa [← Calls.eq_call_of_mem hc] at call

/-- The two halves of a node reboot, as tasks of whatever run asks for them. -/
def nodeRebootTask (id : String) (mode : LeaseMode) : Task :=
  { Task.new id .system with leaseRequests := [⟨"system:node/n/reboot", mode, "reboot"⟩] }

/-- One run drains the node and another is let through to reboot it. -/
theorem foreign_reboot_admitted :
    ¬ ∀ ops : List SchedulingOp, OwnedByOneRun (unfinishedAfter ops) := by
  intro h
  let first := AdmittedTask.ofTask "run-1" "first:" (nodeRebootTask "drain" drain)
  let second := AdmittedTask.ofTask "run-2" "second:" (nodeRebootTask "reboot" reboot)
  have both : unfinishedAfter
      [.start ⟨[], [], []⟩ first, .start ⟨[], first.leases, []⟩ second] = [first, second] := rfl
  have owned := h [.start ⟨[], [], []⟩ first, .start ⟨[], first.leases, []⟩ second]
  rw [both] at owned
  have same := owned first (by simp) second (by simp) _ List.mem_cons_self _ List.mem_cons_self
    rfl rfl rfl
  exact absurd same (by decide)

end Runlane
