import Mathlib.Data.Set.Basic
import Mathlib.Logic.Relation

/-!
Holders admitted next to one another.

A list of holders, oldest first, changes when some holders leave or when a
newcomer joins that every present holder tolerates. Toleration need not be
symmetric: what is checked at admission is only how the present holders stand
to the newcomer, and the order of the list keeps who that was.

The second half is the lock-table case: a holder has granted modes on
resources, and tolerating means that granted modes on a shared resource are
compatible.
-/

namespace Coexistence

universe u v w
variable {H : Type u}

inductive Step (Tolerates : H → H → Prop) : List H → List H → Prop
  | join {held : List H} {h : H} (tolerated : ∀ k ∈ held, Tolerates k h) :
      Step Tolerates held (held ++ [h])
  | leave {held rest : List H} (sub : rest.Sublist held) : Step Tolerates held rest

variable {Tolerates : H → H → Prop}

/-- Every present pair stands in the relation that admission checked, the older
holder on the left. -/
theorem Step.pairwise {held next : List H} (step : Step Tolerates held next)
    (h : held.Pairwise Tolerates) : next.Pairwise Tolerates := by
  cases step with
  | join tolerated =>
      refine List.pairwise_append.mpr ⟨h, List.pairwise_singleton _ _, ?_⟩
      intro k hk n hn
      rw [List.mem_singleton.mp hn]
      exact tolerated k hk
  | leave sub => exact h.sublist sub

/-- The tables reachable from no holders at all. -/
def Reachable (Tolerates : H → H → Prop) : List H → Prop :=
  Relation.ReflTransGen (Step Tolerates) []

theorem Reachable.pairwise {held : List H} (h : Reachable Tolerates held) :
    held.Pairwise Tolerates := by
  induction h with
  | refl => exact List.Pairwise.nil
  | tail _ step ih => exact step.pairwise ih

section Locks

variable {ρ : Type v} {μ : Type w} (grants : H → Set (ρ × μ)) (compatible : μ → μ → Prop)

/-- No mode granted to `k` excludes a mode granted to `h` on the same resource. -/
def Compatible (k h : H) : Prop :=
  ∀ r m n, (r, m) ∈ grants k → (r, n) ∈ grants h → compatible m n

variable {grants compatible}

theorem Compatible.symm (sym : ∀ m n, compatible m n → compatible n m) {k h : H}
    (c : Compatible grants compatible k h) : Compatible grants compatible h k :=
  fun r m n hm hn => sym n m (c r n m hn hm)

/-- Modes that exclude one another are never granted to two holders on one resource. -/
theorem Compatible.not_both {k h : H} (c : Compatible grants compatible k h) {r : ρ} {m n : μ}
    (excluded : ¬ compatible m n) (hm : (r, m) ∈ grants k) : (r, n) ∉ grants h :=
  fun hn => excluded (c r m n hm hn)

end Locks

end Coexistence
