import Runlane.Lib.Journal

/-!
Actions planned one after another and given up at the first that fails.

Whether an action succeeds may depend on those before it. A computation that
keeps a log follows a plan when the actions in its log are those that the plan
gets to, and it succeeds exactly when the plan is done completely. Following is
closed under sequencing and under loops.
-/

namespace Attempts

open Journal

universe u
variable {ε κ ι : Type u}

/-- The actions of a plan up to the first that fails, and whether none does. -/
def attempts (succeeds : List κ → κ → Bool) (before : List κ) : List κ → List κ × Bool
  | [] => ([], true)
  | action :: plan =>
      if succeeds before action then
        let later := attempts succeeds (before ++ [action]) plan
        (action :: later.1, later.2)
      else ([action], false)

section Plans

variable {succeeds : List κ → κ → Bool} {before plan rest : List κ}

theorem attempts_single (action : κ) :
    attempts succeeds before [action] = ([action], succeeds before action) := by
  cases fine : succeeds before action <;> simp [attempts, fine]

theorem attempts_append :
    attempts succeeds before (plan ++ rest) =
      if (attempts succeeds before plan).2 then
        let later := attempts succeeds (before ++ plan) rest
        (plan ++ later.1, later.2)
      else attempts succeeds before plan := by
  induction plan generalizing before with
  | nil => simp [attempts]
  | cons action plan ih =>
      simp only [List.cons_append, attempts]
      cases succeeds before action with
      | false => rfl
      | true =>
          simp only [if_true, ih, List.append_assoc, List.cons_append, List.nil_append]
          cases stopped : (attempts succeeds (before ++ [action]) plan).2 with
          | false => simp [stopped]
          | true => simp

/-- A plan that nothing stops is done completely. -/
theorem attempts_complete (complete : (attempts succeeds before plan).2 = true) :
    (attempts succeeds before plan).1 = plan := by
  induction plan generalizing before with
  | nil => rfl
  | cons action plan ih =>
      simp only [attempts] at complete ⊢
      cases fine : succeeds before action with
      | false => simp [fine] at complete
      | true =>
          simp only [fine, if_true] at complete ⊢
          rw [ih complete]

theorem attempts_initial : (attempts succeeds before plan).1 <+: plan := by
  induction plan generalizing before with
  | nil => exact List.prefix_rfl
  | cons action plan ih =>
      simp only [attempts]
      cases succeeds before action with
      | false => exact List.prefix_append [action] plan
      | true => exact List.cons_prefix_cons.mpr ⟨rfl, ih⟩

end Plans

variable {ω : Type u} (view : List ω → List κ) (succeeds : List κ → κ → Bool)

/-- The actions in the log are those that the plan gets to from where the log stood. -/
def Follows (computation : EStateM ε (List ω) PUnit) (plan : List κ) : Prop :=
  ∀ log, ∃ outcome more, computation.run log = ended outcome (log ++ more) ∧
    view more = (attempts succeeds (view log) plan).1 ∧
    (outcome = .ok ⟨⟩ ↔ (attempts succeeds (view log) plan).2 = true)

/-- The computation fails before any action. -/
def Refuses (computation : EStateM ε (List ω) PUnit) : Prop :=
  ∀ log, ∃ error more, computation.run log = .error error (log ++ more) ∧ view more = []

variable {view} {succeeds} {plan plan' : List κ}

theorem Follows.pure (empty : view [] = []) :
    Follows view succeeds (Pure.pure ⟨⟩ : EStateM ε (List ω) PUnit) [] := by
  intro log
  refine ⟨.ok ⟨⟩, [], ?_, empty, by simp [attempts]⟩
  rw [List.append_nil]
  rfl

variable (additive : ∀ log more, view (log ++ more) = view log ++ view more)
include additive

theorem Follows.bind {first rest : EStateM ε (List ω) PUnit}
    (here : Follows view succeeds first plan) (next : Follows view succeeds rest plan') :
    Follows view succeeds (first >>= fun _ => rest) (plan ++ plan') := by
  intro log
  obtain ⟨outcome, more, ran, seen, done⟩ := here log
  rw [EStateM.run_bind, ran, attempts_append]
  cases outcome with
  | error e =>
      have stopped : ¬ (attempts succeeds (view log) plan).2 = true := fun all =>
        nomatch done.mpr all
      rw [if_neg stopped]
      exact ⟨.error e, more, rfl, seen, iff_of_false nofun stopped⟩
  | ok value =>
      have all := done.mp rfl
      rw [attempts_complete all] at seen
      obtain ⟨outcome', more', ran', seen', done'⟩ := next (log ++ more)
      rw [additive, seen] at seen' done'
      rw [if_pos all]
      refine ⟨outcome', more ++ more', ?_, ?_, done'⟩
      · rw [← List.append_assoc]
        exact ran'
      · rw [additive, seen, seen']

theorem Follows.after {first rest : EStateM ε (List ω) PUnit}
    (here : Follows view succeeds first []) (next : Follows view succeeds rest plan) :
    Follows view succeeds (first >>= fun _ => rest) plan :=
  .bind additive here next

theorem Follows.forM {step : ι → EStateM ε (List ω) PUnit} {plan : ι → List κ}
    (empty : view [] = []) (items : List ι)
    (each : ∀ item, Follows view succeeds (step item) (plan item)) :
    Follows view succeeds (items.forM step) (items.flatMap plan) := by
  induction items with
  | nil => exact .pure empty
  | cons item items ih => exact .bind additive (each item) ih

/-- A loop of computations that attempt nothing attempts nothing. -/
theorem Follows.forM_quiet {step : ι → EStateM ε (List ω) PUnit} (empty : view [] = [])
    (items : List ι) (each : ∀ item, Follows view succeeds (step item) []) :
    Follows view succeeds (items.forM step) [] := by
  have nothing : items.flatMap (fun _ => ([] : List κ)) = [] :=
    List.flatMap_eq_nil_iff.mpr fun _ _ => rfl
  exact nothing ▸ Follows.forM additive empty items each

theorem Refuses.after {first rest : EStateM ε (List ω) PUnit}
    (here : Follows view succeeds first []) (next : Refuses view rest) :
    Refuses view (first >>= fun _ => rest) := by
  intro log
  obtain ⟨outcome, more, ran, seen, done⟩ := here log
  obtain rfl := done.mpr rfl
  obtain ⟨error, more', ran', seen'⟩ := next (log ++ more)
  refine ⟨error, more ++ more', ?_, ?_⟩
  · rw [EStateM.run_bind, ran, ← List.append_assoc]
    exact ran'
  · rw [additive, seen, seen']
    rfl

end Attempts
