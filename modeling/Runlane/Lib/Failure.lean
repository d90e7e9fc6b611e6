import Runlane.Lib.Calls

/-!
What a computation can fail with.

`FailsOnly Q x s` says that an error with which `x`, started in `s`, may end is
one that `Q` allows. The rules follow the way such computations are written: a
step that succeeds is passed over, and at an early return there is something to
show. `Q` may speak of the state in which the whole computation started.
-/

namespace Calls

universe u
variable {ε σ α β ι : Type u}

def FailsOnly (Q : ε → Prop) (x : EStateM ε σ α) (s : σ) : Prop :=
  ∀ e t, x.run s = .error e t → Q e

namespace FailsOnly

variable {Q : ε → Prop} {x : EStateM ε σ α} {f : α → EStateM ε σ β} {s : σ}

theorem of_ok {a : α} {t : σ} (h : x.run s = .ok a t) : FailsOnly Q x s := by
  intro e t' failed
  cases h.symm.trans failed

theorem throws {e : ε} (h : Q e) : FailsOnly Q (throw e : EStateM ε σ α) s := by
  intro e' t failed
  cases failed
  exact h

theorem bind (first : FailsOnly Q x s)
    (rest : ∀ a t, x.run s = .ok a t → FailsOnly Q (f a) t) : FailsOnly Q (x >>= f) s := by
  intro e t failed
  rw [EStateM.run_bind] at failed
  cases run : x.run s with
  | ok a t' =>
      simp only [run] at failed
      exact rest a t' run e t failed
  | error e' t' =>
      simp only [run] at failed
      cases failed
      exact first e t run

/-- A step that succeeds is passed over. -/
theorem after {a : α} {t : σ} (h : x.run s = .ok a t) (rest : FailsOnly Q (f a) t) :
    FailsOnly Q (x >>= f) s := by
  refine bind (of_ok h) ?_
  intro b t' run
  cases h.symm.trans run
  exact rest

theorem okOr_bind {o : Option α} {e : ε} (absent : o = none → Q e)
    (present : ∀ a, o = some a → FailsOnly Q (f a) s) : FailsOnly Q (okOr o e >>= f) s := by
  cases o with
  | none => exact bind (throws (absent rfl)) nofun
  | some a => exact after (run_okOr_some a e s) (present a rfl)

theorem ofExcept_bind {r : Except ε α} (refused : ∀ e, r = .error e → Q e)
    (granted : ∀ a, r = .ok a → FailsOnly Q (f a) s) :
    FailsOnly Q ((ofExcept r : EStateM ε σ α) >>= f) s := by
  cases r with
  | error e => exact bind (throws (refused e rfl)) nofun
  | ok a => exact after (run_ofExcept_ok a s) (granted a rfl)

theorem ite {p : Prop} [Decidable p] {y : EStateM ε σ α} (yes : p → FailsOnly Q x s)
    (no : ¬ p → FailsOnly Q y s) : FailsOnly Q (if p then x else y) s := by
  by_cases h : p
  · rw [if_pos h]
    exact yes h
  · rw [if_neg h]
    exact no h

theorem returning (h : FailsOnly Q x s) (g : α → β) : FailsOnly Q (do return g (← x)) s :=
  bind h fun _ _ _ => of_ok rfl

theorem of_call {perform : ι → EStateM ε σ α} {op : ι} (h : FailsOnly Q (perform op) s) {e : ε}
    (failed : (call perform s op).outcome = .error e) : Q e := by
  unfold call at failed
  cases run : (perform op).run s with
  | ok a t =>
      simp only [run] at failed
      cases failed
  | error e' t =>
      simp only [run] at failed
      cases failed
      exact h e t run

end FailsOnly

end Calls
