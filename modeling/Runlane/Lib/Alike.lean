import Mathlib.Data.List.Sort

/-!
Computations that may fail, run twice on inputs that differ.

Two runs are alike when both succeed with related values or both fail with
related errors. The relation passes through sequencing, so that a difference
which a first step removes is not seen by the steps after it. Sorting by a key
that no two elements share is such a step: it forgets the order of its input.
-/

universe u v

/-- Both runs succeed with related values, or both fail with related errors. -/
inductive Alike {ε : Type u} {α β : Type v} (E : ε → ε → Prop) (R : α → β → Prop) :
    Except ε α → Except ε β → Prop
  | ok {a : α} {b : β} : R a b → Alike E R (.ok a) (.ok b)
  | error {e e' : ε} : E e e' → Alike E R (.error e) (.error e')

namespace Alike

variable {ε : Type u} {α β γ δ : Type v} {E : ε → ε → Prop}

theorem of_eq (same : ∀ e, E e e) {R : α → α → Prop} (reflexive : ∀ a, R a a)
    {x y : Except ε α} (h : x = y) : Alike E R x y := by
  subst h
  cases x with
  | error e => exact .error (same e)
  | ok a => exact .ok (reflexive a)

theorem refl (same : ∀ e, E e e) (x : Except ε α) : Alike E Eq x x :=
  of_eq same (fun _ => rfl) rfl

/-- Runs that are alike stay alike when each goes on with what it has. -/
theorem bind {R : α → β → Prop} {S : γ → δ → Prop} {x : Except ε α} {y : Except ε β}
    {rest : α → Except ε γ} {rest' : β → Except ε δ} (first : Alike E R x y)
    (goesOn : ∀ a b, R a b → Alike E S (rest a) (rest' b)) :
    Alike E S (x >>= rest) (y >>= rest') := by
  cases first with
  | ok related => exact goesOn _ _ related
  | error related => exact .error related

/-- A difference between the values that the rest does not see is gone after it. -/
theorem bind_same {x y : Except ε α} {rest : α → Except ε β} (same : ∀ e, E e e)
    (first : Alike E Eq x y) : Alike E Eq (x >>= rest) (y >>= rest) :=
  first.bind fun a _ h => h ▸ refl same (rest a)

/-- What holds of every value of the first run may be assumed of the pair. -/
theorem strengthen {R : α → β → Prop} {P : α → Prop} {x : Except ε α} {y : Except ε β}
    (values : ∀ a, x = .ok a → P a) (h : Alike E R x y) :
    Alike E (fun a b => P a ∧ R a b) x y := by
  cases h with
  | ok related => exact .ok ⟨values _ rfl, related⟩
  | error related => exact .error related

theorem trans {x y z : Except ε α} {R : α → α → Prop}
    (errors : ∀ e e' e'', E e e' → E e' e'' → E e e'')
    (values : ∀ a b c, R a b → R b c → R a c)
    (first : Alike E R x y) (second : Alike E R y z) : Alike E R x z := by
  cases first with
  | ok related =>
      cases second with
      | ok related' => exact .ok (values _ _ _ related related')
  | error related =>
      cases second with
      | error related' => exact .error (errors _ _ _ related related')

end Alike

/-- Sorting by a key that no two elements share forgets the order of its input. -/
theorem List.Perm.insertionSort_eq {α : Type u} {κ : Type v} {le : κ → κ → Bool} {key : α → κ}
    (total : ∀ a b, le a b ∨ le b a) (transitive : ∀ a b c, le a b → le b c → le a c)
    (antisymmetric : ∀ a b, le a b → le b a → a = b) {left right : List α}
    (distinct : (left.map key).Nodup) (same : left.Perm right) :
    left.insertionSort (fun a b => le (key a) (key b)) =
      right.insertionSort fun a b => le (key a) (key b) := by
  have perm : (left.insertionSort fun a b => le (key a) (key b)).Perm
      (right.insertionSort fun a b => le (key a) (key b)) :=
    (List.perm_insertionSort _ left).trans (same.trans (List.perm_insertionSort _ right).symm)
  have : Std.Total fun a b : α => le (key a) (key b) = true := ⟨fun a b => total _ _⟩
  have : IsTrans α fun a b => le (key a) (key b) = true := ⟨fun a b c => transitive _ _ _⟩
  refine perm.eq_of_pairwise ?_ (List.pairwise_insertionSort _ left)
    (List.pairwise_insertionSort _ right)
  intro a b inLeft inRight below above
  have memberA : a ∈ left := (List.perm_insertionSort _ left).mem_iff.mp inLeft
  have memberB : b ∈ left := same.mem_iff.mpr ((List.perm_insertionSort _ right).mem_iff.mp inRight)
  exact List.inj_on_of_nodup_map distinct memberA memberB (antisymmetric _ _ below above)
