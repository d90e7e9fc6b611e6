import Mathlib.Data.List.Forall2

/-!
When a computation that may fail succeeds.

Each way of putting such computations together has one rule, an equivalence, so
that rewriting with the rules turns the success of a whole into facts about its
parts.
-/

namespace Fallible

universe u v
variable {ε ε' α β : Type u}

/-- A sequence succeeds when its first part does and the rest does on what that gave. -/
theorem bind_eq_ok {x : Except ε α} {rest : α → Except ε β} {b : β} :
    (x >>= rest) = .ok b ↔ ∃ a, x = .ok a ∧ rest a = .ok b := by
  cases x with
  | error e => simp [bind, Except.bind]
  | ok a => simp [bind, Except.bind]

/-- A sequence fails where its first part does, or the rest on what that gave. -/
theorem bind_eq_error {x : Except ε α} {rest : α → Except ε β} {e : ε} :
    (x >>= rest) = .error e ↔ x = .error e ∨ ∃ a, x = .ok a ∧ rest a = .error e := by
  cases x with
  | error e' => simp [bind, Except.bind]
  | ok a => simp [bind, Except.bind]

theorem pure_eq_ok {a b : α} : (pure a : Except ε α) = .ok b ↔ a = b :=
  ⟨Except.ok.inj, congrArg Except.ok⟩

theorem pure_ne_error {a : α} {e : ε} : (pure a : Except ε α) ≠ .error e :=
  nofun

theorem mapError_eq_ok {x : Except ε α} {f : ε → ε'} {a : α} :
    x.mapError f = .ok a ↔ x = .ok a := by
  cases x with
  | error e =>
      change Except.error (f e) = Except.ok a ↔ Except.error e = Except.ok a
      simp only [reduceCtorEq]
  | ok b =>
      change Except.ok b = Except.ok a ↔ Except.ok b = Except.ok a
      simp only [Except.ok.injEq]

/-- A check that passes leaves the rest to succeed. -/
theorem ite_error_eq_ok {p : Prop} [Decidable p] {e : ε} {x : Except ε α} {a : α} :
    (if p then .error e else x) = .ok a ↔ ¬ p ∧ x = .ok a := by
  by_cases h : p
  · simp [h]
  · simp [h]

/-- A loop of checks succeeds when each check does. -/
theorem forM_eq_ok {ι : Type v} {check : ι → Except ε PUnit} (items : List ι) :
    items.forM check = .ok PUnit.unit ↔ ∀ item ∈ items, check item = .ok PUnit.unit := by
  induction items with
  | nil => exact ⟨fun _ => nofun, fun _ => rfl⟩
  | cons item items ih =>
      have unfolded : (item :: items).forM check = (check item >>= fun _ => items.forM check) := rfl
      rw [unfolded, List.forall_mem_cons, ← ih]
      cases check item with
      | error e => exact ⟨nofun, fun both => nomatch both.1⟩
      | ok done => exact ⟨fun rest => ⟨rfl, rest⟩, fun both => both.2⟩

/-- A list is decoded when each of its elements is. -/
theorem mapM_eq_ok {ι : Type v} {decode : ι → Except ε β} {items : List ι} {decoded : List β} :
    items.mapM decode = .ok decoded ↔
      List.Forall₂ (fun item b => decode item = .ok b) items decoded := by
  induction items generalizing decoded with
  | nil =>
      rw [List.mapM_nil, pure_eq_ok, List.forall₂_nil_left_iff]
      exact eq_comm
  | cons item items ih =>
      simp only [List.mapM_cons, bind_eq_ok, pure_eq_ok, List.forall₂_cons_left_iff, ih]
      constructor
      · intro passed
        obtain ⟨first, head, rest, tail, rfl⟩ := passed
        exact ⟨first, rest, head, tail, rfl⟩
      · intro related
        obtain ⟨first, rest, head, tail, rfl⟩ := related
        exact ⟨first, head, rest, tail, rfl⟩

/-- Lists that correspond have a partner for every element. -/
theorem exists_of_forall₂ {α : Type u} {β : Type v} {R : α → β → Prop} {items : List α}
    {decoded : List β} (related : List.Forall₂ R items decoded) :
    (∀ item ∈ items, ∃ b ∈ decoded, R item b) ∧ ∀ b ∈ decoded, ∃ item ∈ items, R item b := by
  induction related with
  | nil => exact ⟨nofun, nofun⟩
  | cons head rest ih =>
      refine ⟨?_, ?_⟩
      · rw [List.forall_mem_cons]
        refine ⟨⟨_, List.mem_cons_self, head⟩, fun item member => ?_⟩
        obtain ⟨b, found, same⟩ := ih.1 item member
        exact ⟨b, List.mem_cons_of_mem _ found, same⟩
      · rw [List.forall_mem_cons]
        refine ⟨⟨_, List.mem_cons_self, head⟩, fun b member => ?_⟩
        obtain ⟨item, found, same⟩ := ih.2 b member
        exact ⟨item, List.mem_cons_of_mem _ found, same⟩

section Loops

variable {ι : Type v} {pass : α → ι → Except ε α} {I : List ι → α → Prop} {G : List ι → ι → Prop}

/-- What every pass of a loop keeps holds when the loop has succeeded. -/
theorem foldlM_invariant
    (keeps : ∀ {done state item next}, I done state → pass state item = .ok next →
      I (done ++ [item]) next) {done : List ι} {state next : α} (start : I done state)
    (items : List ι) (passed : items.foldlM pass state = .ok next) : I (done ++ items) next := by
  induction items generalizing done state with
  | nil =>
      rw [List.append_nil, ← pure_eq_ok.mp passed]
      exact start
  | cons item items ih =>
      rw [List.foldlM_cons, bind_eq_ok] at passed
      obtain ⟨middle, first, rest⟩ := passed
      have later := ih (keeps start first) rest
      rwa [List.append_assoc] at later

theorem foldlM_ok (passes : ∀ state item, ∃ next, pass state item = .ok next) (items : List ι)
    (state : α) : ∃ next, items.foldlM pass state = .ok next := by
  induction items generalizing state with
  | nil => exact ⟨state, rfl⟩
  | cons item items ih =>
      obtain ⟨middle, first⟩ := passes state item
      rw [List.foldlM_cons, first]
      exact ih middle

/-- A loop whose passes succeed under a guard succeeds when the guard holds of
every item after those before it. -/
theorem foldlM_total
    (passes : ∀ {done state item}, I done state → G done item →
      ∃ next, pass state item = .ok next ∧ I (done ++ [item]) next)
    {done : List ι} {state : α} (start : I done state) (items : List ι)
    (guarded : ∀ before item after, items = before ++ item :: after → G (done ++ before) item) :
    ∃ next, items.foldlM pass state = .ok next ∧ I (done ++ items) next := by
  induction items generalizing done state with
  | nil =>
      rw [List.append_nil]
      exact ⟨state, rfl, start⟩
  | cons item items ih =>
      have head := guarded [] item items rfl
      rw [List.append_nil] at head
      obtain ⟨middle, first, kept⟩ := passes start head
      have later : ∀ before other after, items = before ++ other :: after →
          G ((done ++ [item]) ++ before) other := by
        intro before other after split
        rw [List.append_assoc]
        exact guarded (item :: before) other after (congrArg (item :: ·) split)
      obtain ⟨next, rest, final⟩ := ih kept later
      refine ⟨next, ?_, ?_⟩
      · rw [List.foldlM_cons, first]
        exact rest
      · rwa [List.append_assoc] at final

/-- Where the passes succeed under no other condition, neither does the loop. -/
theorem foldlM_isOk_iff
    (passes : ∀ {done state item}, I done state → G done item →
      ∃ next, pass state item = .ok next ∧ I (done ++ [item]) next)
    (needs : ∀ {done state item next}, I done state → pass state item = .ok next → G done item)
    {done : List ι} {state : α} (start : I done state) (items : List ι) :
    (∃ next, items.foldlM pass state = .ok next) ↔
      ∀ before item after, items = before ++ item :: after → G (done ++ before) item := by
  refine ⟨?_, ?_⟩
  · intro succeeded before item after split
    obtain ⟨next, passed⟩ := succeeded
    rw [split, List.foldlM_append, bind_eq_ok] at passed
    obtain ⟨middle, first, rest⟩ := passed
    rw [List.foldlM_cons, bind_eq_ok] at rest
    obtain ⟨later, last, -⟩ := rest
    refine needs (foldlM_invariant ?_ start before first) last
    intro done state item next held passed
    obtain ⟨next', passed', kept⟩ := passes held (needs held passed)
    cases passed.symm.trans passed'
    exact kept
  · intro guarded
    obtain ⟨next, passed, -⟩ := foldlM_total passes start items guarded
    exact ⟨next, passed⟩

end Loops

end Fallible
