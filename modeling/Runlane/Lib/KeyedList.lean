import Mathlib.Data.List.Basic

/-!
Lists searched for the first element with a given key.

Such a list is a finite map in disguise: appending inserts a key only when it
is absent, and changing the first element with a key changes the map at that
key alone. Elements behind an earlier one with the same key are never seen.
Keys may repeat; nothing here assumes that they do not.
-/

namespace KeyedList

universe u v
variable {α : Type u} {κ : Type v} [DecidableEq κ] (key : α → κ)

def lookup (l : List α) (k : κ) : Option α :=
  l.find? (fun a => decide (key a = k))

def update (l : List α) (k : κ) (f : α → α) : List α :=
  match l with
  | [] => []
  | a :: l => if key a = k then f a :: l else a :: update l k f

theorem key_of_lookup {l : List α} {k : κ} {a : α} (h : lookup key l k = some a) :
    key a = k := by
  simpa [lookup] using List.find?_some h

theorem mem_of_lookup {l : List α} {k : κ} {a : α} (h : lookup key l k = some a) : a ∈ l :=
  List.mem_of_find?_eq_some h

/-- A key that occurs is found, at its first element. -/
theorem exists_of_mem {l : List α} {k : κ} {a : α} (h : a ∈ l) (same : key a = k) :
    ∃ first, lookup key l k = some first :=
  Option.isSome_iff_exists.mp (List.find?_isSome.mpr ⟨a, h, decide_eq_true same⟩)

theorem lookup_eq_none_iff {l : List α} {k : κ} :
    lookup key l k = none ↔ ∀ a ∈ l, key a ≠ k := by
  simp [lookup]

theorem lookup_append (l more : List α) (k : κ) :
    lookup key (l ++ more) k = (lookup key l k).or (lookup key more k) :=
  List.find?_append

/-- An element once found under its key stays found, whatever is appended. -/
theorem lookup_append_of_some {l : List α} {k : κ} {a : α} (h : lookup key l k = some a)
    (more : List α) : lookup key (l ++ more) k = some a := by
  rw [lookup_append, h, Option.some_or]

/-- What is made of each element is found where the element is. -/
theorem lookup_map {β : Type u} {κ' : Type v} [DecidableEq κ'] {key' : β → κ'} {f : α → β} {k : κ}
    {k' : κ'} (named : ∀ a, key' (f a) = k' ↔ key a = k) (l : List α) :
    lookup key' (l.map f) k' = (lookup key l k).map f := by
  rw [lookup, List.find?_map, lookup]
  congr 2
  funext a
  exact decide_eq_decide.mpr (named a)

theorem lookup_eq_some_iff {l : List α} {k : κ} {a : α} :
    lookup key l k = some a ↔
      key a = k ∧ ∃ before after, l = before ++ a :: after ∧ ∀ b ∈ before, key b ≠ k := by
  simp [lookup, List.find?_eq_some_iff_append]

/-- Where the list is a log, the element found was logged by the first entry that
logged its key. -/
theorem exists_of_lookup_filterMap {β : Type v} {entries : List β} {logged : β → Option α} {k : κ}
    {a : α} (h : lookup key (entries.filterMap logged) k = some a) :
    ∃ earlier entry later, entries = earlier ++ entry :: later ∧ logged entry = some a ∧
      ∀ e ∈ earlier, ∀ b, logged e = some b → key b ≠ k := by
  rw [lookup, List.find?_filterMap] at h
  obtain ⟨entry, found, same⟩ := Option.bind_eq_some_iff.mp h
  obtain ⟨-, earlier, later, split, others⟩ := List.find?_eq_some_iff_append.mp found
  refine ⟨earlier, entry, later, split, same, ?_⟩
  intro e he b hb
  have other := others e he
  simpa [hb] using other

/-- With distinct keys the list is the graph of its map. -/
theorem lookup_of_pairwise {l : List α} (distinct : l.Pairwise (fun a b => key a ≠ key b))
    {a : α} (ha : a ∈ l) : lookup key l (key a) = some a := by
  obtain ⟨before, after, rfl⟩ := List.append_of_mem ha
  refine (lookup_eq_some_iff key).mpr ⟨rfl, before, after, rfl, ?_⟩
  intro b hb
  exact (List.pairwise_append.mp distinct).2.2 b hb a List.mem_cons_self

/-- The element found, and the list without it. -/
theorem perm_eraseP_of_lookup {l : List α} {k : κ} {a : α} (h : lookup key l k = some a) :
    l.Perm (a :: l.eraseP fun b => decide (key b = k)) := by
  obtain ⟨same, before, after, rfl, others⟩ := (lookup_eq_some_iff key).mp h
  have erased : (before ++ a :: after).eraseP (fun b => decide (key b = k)) = before ++ after := by
    rw [List.eraseP_append_right _ fun b hb => by simpa using others b hb]
    simp [same]
  rw [erased]
  exact List.perm_middle

section Update

variable {key} {f : α → α} (same : ∀ a, key (f a) = key a)
include same

theorem map_key_update (l : List α) (k : κ) : (update key l k f).map key = l.map key := by
  induction l with
  | nil => rfl
  | cons a l ih =>
      simp only [update]
      split
      · simp [same]
      · simp [ih]

theorem lookup_update (l : List α) (k k' : κ) :
    lookup key (update key l k f) k' =
      if k' = k then (lookup key l k').map f else lookup key l k' := by
  induction l with
  | nil => simp [update, lookup]
  | cons a l ih =>
      simp only [update]
      by_cases ha : key a = k
      · by_cases hk : k' = k
        · simp [lookup, ha, hk, same]
        · simp [lookup, ha, hk, same, Ne.symm hk]
      · by_cases hk : key a = k'
        · subst hk
          simp [lookup, ha]
        · simpa [lookup, ha, hk] using ih

end Update

/-- Only the element that a key finds is changed at it. -/
theorem getElem?_update_of_ne {l : List α} {k : κ} {a found : α} {i : Nat} {f : α → α}
    (hfound : lookup key l k = some found) (ha : l[i]? = some a) (apart : a ≠ found) :
    (update key l k f)[i]? = some a := by
  induction l generalizing i with
  | nil => cases ha
  | cons b l ih =>
      by_cases first : key b = k
      · have same : b = found := by simpa [lookup, first] using hfound
        cases i with
        | zero =>
            cases ha
            exact absurd same apart
        | succ i => simpa [update, first] using ha
      · cases i with
        | zero => simpa [update, first] using ha
        | succ i =>
            have later : lookup key l k = some found := by simpa [lookup, first] using hfound
            simpa [update, first] using ih later (by simpa using ha)

section Beside

variable {key} {β : Type v} {R : β → α → Prop} {bs : List β} {l : List α} {k : κ} {f : α → α}

theorem forall₂_update (related : List.Forall₂ R bs l) (change : ∀ b a, R b a → R b (f a)) :
    List.Forall₂ R bs (update key l k f) := by
  induction related with
  | nil => exact .nil
  | @cons b a bs l head tail ih =>
      by_cases first : key a = k
      · simpa [update, first] using And.intro (change b a head) tail
      · simpa [update, first] using And.intro head ih

/-- A list drawn up beside another one follows its updates, if the change made to
the element found can be made to what was drawn up of it. -/
theorem zipWith_update {γ : Type v} {g : β → α → γ} {key' : γ → κ} {f' : γ → γ}
    (named : ∀ b a, key' (g b a) = key a) (related : List.Forall₂ R bs l) {a : α}
    (found : lookup key l k = some a) (change : ∀ b, R b a → g b (f a) = f' (g b a)) :
    List.zipWith g bs (update key l k f) = update key' (List.zipWith g bs l) k f' := by
  induction related with
  | nil => cases found
  | @cons b c bs l head tail ih =>
      by_cases first : key c = k
      · have same : c = a := by simpa [lookup, first] using found
        rw [same] at head first ⊢
        simp [update, named, first, change b head]
      · have later : lookup key l k = some a := by simpa [lookup, first] using found
        simp [update, named, first, ih later]

end Beside

section Indices

variable {key} {l : List α} {k : κ}

theorem lookup_eq_map_findFinIdx :
    lookup key l k = (l.findFinIdx? fun a => decide (key a = k)).map (l[·]) :=
  List.find?_eq_map_findFinIdx?_getElem

theorem lookup_of_findFinIdx {i : Fin l.length}
    (h : l.findFinIdx? (fun a => decide (key a = k)) = some i) : lookup key l k = some l[i] := by
  rw [lookup_eq_map_findFinIdx, h, Option.map_some]

theorem findFinIdx_of_lookup {a : α} (h : lookup key l k = some a) :
    ∃ i, l.findFinIdx? (fun a => decide (key a = k)) = some i ∧ l[i] = a := by
  rw [lookup_eq_map_findFinIdx] at h
  exact Option.map_eq_some_iff.mp h

theorem findFinIdx_eq_none :
    l.findFinIdx? (fun a => decide (key a = k)) = none ↔ lookup key l k = none := by
  rw [lookup_eq_map_findFinIdx, Option.map_eq_none_iff]

theorem eraseIdx_findFinIdx {i : Fin l.length}
    (h : l.findFinIdx? (fun a => decide (key a = k)) = some i) :
    l.eraseIdx i = l.eraseP fun a => decide (key a = k) := by
  have index : l.findIdx? (fun a => decide (key a = k)) = some i.val := by
    rw [List.findIdx?_eq_map_findFinIdx?_val, h, Option.map_some]
  rw [List.eraseP_eq_eraseIdx, index]

/-- Changing the element at the first index with the key is an update at the key. -/
theorem modify_findFinIdx {i : Fin l.length}
    (h : l.findFinIdx? (fun a => decide (key a = k)) = some i) (f : α → α) :
    l.modify i f = update key l k f := by
  obtain ⟨hi, before⟩ := List.findFinIdx?_eq_some_iff.mp h
  simp only [decide_eq_true_eq] at hi before
  obtain ⟨i, bound⟩ := i
  clear h
  induction l generalizing i with
  | nil => exact absurd bound (Nat.not_lt_zero _)
  | cons a l ih =>
      cases i with
      | zero =>
          have ha : key a = k := hi
          simp [update, ha]
      | succ i =>
          have ha : key a ≠ k := before ⟨0, Nat.zero_lt_succ _⟩ (Nat.zero_lt_succ i)
          have rest := ih i (Nat.lt_of_succ_lt_succ bound) hi
            (fun j hj => before ⟨j + 1, Nat.succ_lt_succ j.isLt⟩ (Nat.succ_lt_succ hj))
          simpa [update, ha] using rest

end Indices

end KeyedList
