import Mathlib.Logic.Function.Basic
import Mathlib.Data.List.Basic

/-!
Cells that keep the first value written to them.

A write to a full cell is dropped. After any sequence of writes a cell holds what
it held before, or else the first value written to it, so what a cell holds once
it keeps, and at most one write to it ever counts.
-/

namespace WriteOnce

universe u v
variable {κ : Type u} {α : Type v} [DecidableEq κ]

/-- What each cell holds, if it holds anything. -/
abbrev Cells (κ : Type u) (α : Type v) := κ → Option α

def put (cells : Cells κ α) (entry : κ × α) : Cells κ α :=
  Function.update cells entry.1 ((cells entry.1).or (some entry.2))

def replay (cells : Cells κ α) (entries : List (κ × α)) : Cells κ α :=
  entries.foldl put cells

variable {cells : Cells κ α} {entries more : List (κ × α)} {key : κ}

@[simp] theorem replay_nil : replay cells [] = cells := rfl

@[simp] theorem replay_append :
    replay cells (entries ++ more) = replay (replay cells entries) more :=
  List.foldl_append

@[simp] theorem replay_single (entry : κ × α) : replay cells [entry] = put cells entry := rfl

theorem put_other {entry : κ × α} (other : key ≠ entry.1) : put cells entry key = cells key :=
  Function.update_of_ne other _ _

theorem put_full {entry : κ × α} {a : α} (full : cells entry.1 = some a) :
    put cells entry = cells := by
  rw [put, full]
  exact Function.update_eq_self_iff.mpr full.symm

theorem put_empty {value : α} (empty : cells key = none) :
    put cells (key, value) = Function.update cells key (some value) := by
  rw [put, empty]
  rfl

/-- A cell holds what it held, or else the first value written to it. -/
theorem replay_apply : replay cells entries key = (cells key).or (entries.lookup key) := by
  induction entries generalizing cells with
  | nil => exact (Option.or_none).symm
  | cons entry entries ih =>
      obtain ⟨written, value⟩ := entry
      change replay (put cells (written, value)) entries key = _
      rw [ih, List.lookup_cons]
      by_cases same : key = written
      · subst same
        simp [put]
      · rw [put_other same, beq_false_of_ne same]

theorem replay_eq_none :
    replay cells entries key = none ↔ cells key = none ∧ entries.lookup key = none := by
  rw [replay_apply, Option.or_eq_none_iff]

variable {ι : Type*} {entry : ι → Option (κ × α)} {items : List ι}

theorem lookup_filterMap_eq_none : (items.filterMap entry).lookup key = none ↔
    ∀ item ∈ items, ∀ value, entry item ≠ some (key, value) := by
  simp only [List.lookup_eq_none_iff, List.mem_filterMap, Prod.forall]
  constructor
  · intro absent item member value made
    exact absurd (beq_self_eq_true key) (by simpa using absent key value ⟨item, member, made⟩)
  · intro absent other value found
    obtain ⟨item, member, made⟩ := found
    rw [bne_iff_ne]
    rintro rfl
    exact absent item member value made

/-- The first item that makes an entry at the key, and the value that it writes there. -/
def First (entry : ι → Option (κ × α)) (items : List ι) (key : κ) (value : α) : Prop :=
  ∃ before item after, items = before ++ item :: after ∧ entry item = some (key, value) ∧
    ∀ earlier ∈ before, ∀ other, entry earlier ≠ some (key, other)

omit [DecidableEq κ] in
theorem first_cons_other {item : ι} {value : α} (other : ∀ value, entry item ≠ some (key, value)) :
    First entry (item :: items) key value ↔ First entry items key value := by
  constructor
  · intro first
    obtain ⟨before, found, after, split, made, none⟩ := first
    cases before with
    | nil =>
        cases split
        exact absurd made (other value)
    | cons head before =>
        cases split
        exact ⟨before, found, after, rfl, made, fun b member =>
          none b (List.mem_cons_of_mem _ member)⟩
  · intro first
    obtain ⟨before, found, after, rfl, made, none⟩ := first
    refine ⟨item :: before, found, after, rfl, made, ?_⟩
    rw [List.forall_mem_cons]
    exact ⟨other, none⟩

omit [DecidableEq κ] in
theorem first_cons_here {item : ι} {value written : α} (here : entry item = some (key, written)) :
    First entry (item :: items) key value ↔ written = value := by
  constructor
  · intro first
    obtain ⟨before, found, after, split, made, none⟩ := first
    cases before with
    | nil =>
        cases split
        cases here.symm.trans made
        rfl
    | cons head before =>
        cases split
        exact absurd here (none item List.mem_cons_self written)
  · rintro rfl
    exact ⟨[], item, items, rfl, here, nofun⟩

/-- The value that counts is that of the first item that makes an entry at the key. -/
theorem lookup_filterMap_eq_some {value : α} :
    (items.filterMap entry).lookup key = some value ↔ First entry items key value := by
  induction items with
  | nil => simp [First]
  | cons item items ih =>
      cases made : entry item with
      | none =>
          rw [List.filterMap_cons_none made, ih, first_cons_other]
          simp [made]
      | some first =>
          obtain ⟨written, a⟩ := first
          rw [List.filterMap_cons_some made, List.lookup_cons]
          by_cases same : key = written
          · subst same
            rw [first_cons_here made, beq_self_eq_true]
            exact Option.some_inj
          · rw [beq_false_of_ne same]
            refine ih.trans (first_cons_other ?_).symm
            intro value hit
            rw [made] at hit
            cases hit
            exact same rfl

end WriteOnce
