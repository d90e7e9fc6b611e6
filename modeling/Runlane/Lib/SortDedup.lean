import Mathlib.Data.List.Destutter

/-!
Sorting by a key and keeping one element of each key.

The sort is stable, so the element that is kept is the first of its key in the
list that was sorted. The result is therefore determined by the lookups in that
list, and it lists the keys in strictly increasing order.
-/

namespace SortDedup

open List

universe u v
variable {α : Type u} {κ : Type v} [LE κ]

def byKey [DecidableLE κ] (key : α → κ) (left right : α) : Bool :=
  decide (key left ≤ key right)

def sortDedup [DecidableLE κ] [DecidableEq κ] (key : α → κ) (l : List α) : List α :=
  (l.mergeSort (byKey key)).destutter fun left right => key left ≠ key right

variable [Std.IsLinearOrder κ] {key : α → κ}

section
variable [DecidableEq κ]

/-- What is kept of a sorted list are the first elements of their keys. -/
theorem mem_destutter'_iff (l : List α) (a : α)
    (sorted : (a :: l).Pairwise fun left right => key left ≤ key right) (b : α) :
    b ∈ l.destutter' (fun left right => key left ≠ key right) a ↔
      (a :: l).find? (key · = key b) = some b := by
  induction l generalizing a with
  | nil =>
      by_cases same : key a = key b
      · simp [same, eq_comm]
      · have other : b ≠ a := fun head => same (head ▸ rfl)
        simp [same, other]
  | cons c l ih =>
      obtain ⟨first, rest⟩ := pairwise_cons.mp sorted
      by_cases same : key a = key c
      · rw [destutter'_cons_neg _ (not_not_intro same),
          ih a (sorted.sublist (.cons_cons a (.cons c (Sublist.refl l))))]
        by_cases sought : key a = key b
        · simp [sought]
        · have other : key c ≠ key b := fun h => sought (same.trans h)
          simp [sought, other]
      · rw [destutter'_cons_pos _ same, mem_cons, ih c rest]
        by_cases sought : key a = key b
        · have absent : (c :: l).find? (key · = key b) ≠ some b := by
            intro found
            have least : key c ≤ key b := by
              cases mem_cons.mp (mem_of_find?_eq_some found) with
              | inl head => rw [head]; exact Std.le_refl _
              | inr later => exact (pairwise_cons.mp rest).1 b later
            exact same (Std.le_antisymm (first c mem_cons_self) (sought ▸ least))
          have head : (a :: c :: l).find? (key · = key b) = some a :=
            find?_cons_of_pos (by simpa using sought)
          rw [head, Option.some.injEq]
          exact ⟨fun kept => (kept.resolve_right absent).symm, fun head => .inl head.symm⟩
        · have tail : (a :: c :: l).find? (key · = key b) = (c :: l).find? (key · = key b) :=
            find?_cons_of_neg (by simpa using sought)
          rw [tail]
          refine or_iff_right ?_
          rintro rfl
          exact sought rfl

/-- Keys of a sorted list increase strictly once the repeats are dropped. -/
theorem destutter'_increasing [LT κ] [Std.LawfulOrderLT κ] (l : List α) (a : α)
    (sorted : (a :: l).Pairwise fun left right => key left ≤ key right) :
    (l.destutter' (fun left right => key left ≠ key right) a).Pairwise
      fun left right => key left < key right := by
  induction l generalizing a with
  | nil => simp
  | cons c l ih =>
      obtain ⟨first, rest⟩ := pairwise_cons.mp sorted
      by_cases same : key a = key c
      · rw [destutter'_cons_neg _ (not_not_intro same)]
        exact ih a (sorted.sublist (.cons_cons a (.cons c (Sublist.refl l))))
      · rw [destutter'_cons_pos _ same, pairwise_cons]
        refine ⟨?_, ih c rest⟩
        intro b kept
        have below : key a < key c :=
          Std.lt_of_le_of_ne (first c mem_cons_self) same
        refine Std.lt_of_lt_of_le below ?_
        cases mem_cons.mp ((destutter'_sublist l _ c).subset kept) with
        | inl head => rw [head]; exact Std.le_refl _
        | inr later => exact (pairwise_cons.mp rest).1 b later

end

section
variable [DecidableLE κ]

theorem byKey_trans (a b c : α) (hab : byKey key a b = true) (hbc : byKey key b c = true) :
    byKey key a c = true :=
  decide_eq_true (Std.le_trans (of_decide_eq_true hab) (of_decide_eq_true hbc))

theorem byKey_total (a b : α) : (byKey key a b || byKey key b a) = true := by
  rw [Bool.or_eq_true]
  exact Std.le_total.imp decide_eq_true decide_eq_true

theorem mergeSort_sorted (l : List α) :
    (l.mergeSort (byKey key)).Pairwise fun left right => key left ≤ key right := by
  refine (pairwise_mergeSort byKey_trans byKey_total l).imp ?_
  intro a b ordered
  exact of_decide_eq_true ordered

variable [DecidableEq κ]

/-- Stability: the elements of one key keep their order. -/
theorem mergeSort_filter (l : List α) (k : κ) :
    (l.mergeSort (byKey key)).filter (key · = k) = l.filter (key · = k) := by
  have same : (l.filter (key · = k)).Pairwise fun left right => byKey key left right = true := by
    refine pairwise_of_forall_mem_list ?_
    intro a ha b hb
    have keyA : key a = k := by simpa using (mem_filter.mp ha).2
    have keyB : key b = k := by simpa using (mem_filter.mp hb).2
    rw [byKey, keyA, keyB]
    exact decide_eq_true (Std.le_refl k)
  have kept := (sublist_mergeSort byKey_trans byKey_total same filter_sublist).filter (key · = k)
  simp only [filter_filter, Bool.and_self] at kept
  exact (kept.eq_of_length ((mergeSort_perm l (byKey key)).filter _).length_eq.symm).symm

theorem mergeSort_find? (l : List α) (k : κ) :
    (l.mergeSort (byKey key)).find? (key · = k) = l.find? (key · = k) := by
  rw [← head?_filter, mergeSort_filter, head?_filter]

/-- The result has strictly increasing keys and keeps the first element of each. -/
theorem sortDedup_increasing [LT κ] [Std.LawfulOrderLT κ] (l : List α) :
    (sortDedup key l).Pairwise fun left right => key left < key right := by
  unfold sortDedup
  have sorted : (l.mergeSort (byKey key)).Pairwise fun left right => key left ≤ key right :=
    mergeSort_sorted l
  cases ordered : l.mergeSort (byKey key) with
  | nil => exact Pairwise.nil
  | cons a rest => exact destutter'_increasing rest a (ordered ▸ sorted)

theorem mem_sortDedup_iff {l : List α} {b : α} :
    b ∈ sortDedup key l ↔ l.find? (key · = key b) = some b := by
  rw [← mergeSort_find? l (key b)]
  unfold sortDedup
  have sorted : (l.mergeSort (byKey key)).Pairwise fun left right => key left ≤ key right :=
    mergeSort_sorted l
  cases ordered : l.mergeSort (byKey key) with
  | nil => simp
  | cons a rest => exact mem_destutter'_iff rest a (ordered ▸ sorted) b

/-- Sorted by themselves, the elements are all kept. -/
theorem mem_sortDedup_id {l : List κ} {b : κ} : b ∈ sortDedup id l ↔ b ∈ l := by
  rw [mem_sortDedup_iff]
  refine ⟨mem_of_find?_eq_some, ?_⟩
  intro member
  cases found : l.find? (id · = id b) with
  | none => exact absurd (decide_eq_true rfl) (find?_eq_none.mp found b member)
  | some c =>
      have same : c = b := by simpa using find?_some found
      rw [same]

end

end SortDedup
