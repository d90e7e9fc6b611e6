import Mathlib.Data.List.Basic

/-!
Folds that summarise a list of events field by field.

A field of the summary is a log, which an event extends, or a register, which an
event overwrites. A register may also be filled by an event that finds it unset.
What a field holds after the fold is then read off the events: the whole log, or
the last value written, or else the first value that filled it.
-/

namespace Summary

universe u v w
variable {σ : Type u} {ε : Type v} {α : Type w} {step : σ → ε → σ}

/-- Events that change nothing may be left out. -/
theorem foldl_filter_ignored {heeded : ε → Bool}
    (ignored : ∀ s e, heeded e = false → step s e = s) (s : σ) (events : List ε) :
    (events.filter heeded).foldl step s = events.foldl step s := by
  induction events generalizing s with
  | nil => rfl
  | cons e events ih =>
      cases h : heeded e with
      | false => rw [List.filter_cons_of_neg (by simp [h]), List.foldl_cons, ignored s e h, ih]
      | true => rw [List.filter_cons_of_pos h, List.foldl_cons, List.foldl_cons, ih]

theorem foldl_log {items : σ → List α} {logged : ε → List α}
    (h : ∀ s e, items (step s e) = items s ++ logged e) (s : σ) (events : List ε) :
    items (events.foldl step s) = items s ++ events.flatMap logged := by
  induction events generalizing s with
  | nil => simp
  | cons e events ih => rw [List.foldl_cons, ih, h, List.flatMap_cons, List.append_assoc]

/-- The last value that the events write. -/
def lastWrite (written : ε → Option α) (events : List ε) : Option α :=
  (events.filterMap written).getLast?

theorem lastWrite_cons (written : ε → Option α) (e : ε) (events : List ε) :
    lastWrite written (e :: events) = (lastWrite written events).or (written e) := by
  cases h : written e with
  | none => simp [lastWrite, h]
  | some a =>
      simp only [lastWrite, List.filterMap_cons_some h, List.getLast?_cons]
      cases (events.filterMap written).getLast? with
      | none => rfl
      | some b => rfl

theorem exists_of_lastWrite {written : ε → Option α} {events : List ε} {a : α}
    (h : lastWrite written events = some a) : ∃ e ∈ events, written e = some a :=
  List.mem_filterMap.mp (List.mem_of_getLast? h)

theorem exists_lastWrite (written : ε → Option α) {events : List ε} {e : ε} {a : α}
    (he : e ∈ events) (h : written e = some a) : ∃ b, lastWrite written events = some b := by
  have nonempty : events.filterMap written ≠ [] :=
    List.ne_nil_of_mem (List.mem_filterMap.mpr ⟨e, he, h⟩)
  exact ⟨_, List.getLast?_eq_some_getLast nonempty⟩

/-- The register of a part of what is written holds that part of the last value. -/
theorem lastWrite_map {β : Type w} (f : α → β) (written : ε → Option α) (events : List ε) :
    lastWrite (fun e => (written e).map f) events = (lastWrite written events).map f := by
  rw [lastWrite, lastWrite, ← List.getLast?_map, List.map_filterMap]

/-- A register that events overwrite, or fill when they find it unset. -/
theorem foldl_register {value : σ → Option α} {written fill : ε → Option α}
    (h : ∀ s e, value (step s e) = (written e).or ((value s).or (fill e))) (s : σ)
    (events : List ε) :
    value (events.foldl step s) =
      (lastWrite written events).or ((value s).or (events.findSome? fill)) := by
  induction events generalizing s with
  | nil => simp [lastWrite]
  | cons e events ih =>
      have rest : (e :: events).findSome? fill = (fill e).or (events.findSome? fill) := by
        cases hf : fill e <;> simp [hf]
      rw [List.foldl_cons, ih, h, lastWrite_cons, rest]
      simp only [Option.or_assoc]

theorem foldl_overwrite {value : σ → Option α} {written : ε → Option α}
    (h : ∀ s e, value (step s e) = (written e).or (value s)) (s : σ) (events : List ε) :
    value (events.foldl step s) = (lastWrite written events).or (value s) := by
  have unfilled : ∀ s e, value (step s e) =
      (written e).or ((value s).or ((fun _ => none : ε → Option α) e)) := by
    intro s e
    rw [h, Option.or_none]
  have nothing : events.findSome? (fun _ => (none : Option α)) = none := by simp
  rw [foldl_register unfilled, nothing, Option.or_none]

end Summary
