import Mathlib.Order.Defs.Unbundled

/-!
What a computation keeps of its state, whether it succeeds or fails, and what it
cannot see of it.

A relation between the state before and the state after that is reflexive and
transitive is kept by a sequence whose parts keep it. A computation is blind to a
relation when it gives the same answer from related states and leaves related
states; a sequence is blind when its parts are.
-/

namespace Frame

universe u v
variable {ε σ α β : Type u}

/-- The state that a computation leaves, with a result or an error. -/
def left (x : EStateM ε σ α) (s : σ) : σ :=
  match x.run s with
  | .ok _ t | .error _ t => t

def Keeps (R : σ → σ → Prop) (x : EStateM ε σ α) : Prop :=
  ∀ s, R s (left x s)

theorem left_of_ok {x : EStateM ε σ α} {s t : σ} {a : α} (h : x.run s = .ok a t) :
    left x s = t := by
  rw [left, h]

theorem left_of_error {x : EStateM ε σ α} {s t : σ} {e : ε} (h : x.run s = .error e t) :
    left x s = t := by
  rw [left, h]

/-- A computation that has a result has it in the state that it leaves. -/
theorem run_of_run' {x : EStateM ε σ α} {s : σ} {a : α} (h : x.run' s = some a) :
    x.run s = .ok a (left x s) := by
  unfold EStateM.run' at h
  cases ran : x.run s with
  | error e t =>
      rw [ran] at h
      cases h
  | ok b t =>
      rw [ran] at h
      cases h
      rw [left_of_ok ran]

theorem Keeps.of_ok {R : σ → σ → Prop} {x : EStateM ε σ α} (keeps : Keeps R x) {s t : σ} {a : α}
    (h : x.run s = .ok a t) : R s t :=
  left_of_ok h ▸ keeps s

theorem run_bind_eq_ok {x : EStateM ε σ α} {rest : α → EStateM ε σ β} {s t : σ} {b : β} :
    (x >>= rest).run s = .ok b t ↔ ∃ a r, x.run s = .ok a r ∧ (rest a).run r = .ok b t := by
  rw [EStateM.run_bind]
  cases x.run s with
  | error e r => exact ⟨nofun, fun ⟨_, _, ran, _⟩ => nomatch ran⟩
  | ok a r =>
      refine ⟨fun later => ⟨a, r, rfl, later⟩, ?_⟩
      intro both
      obtain ⟨_, _, same, later⟩ := both
      cases same
      exact later

variable {R : σ → σ → Prop}

/-- A step that reads the state first keeps what it keeps of the state it read. -/
theorem keeps_get_bind {rest : σ → EStateM ε σ α} (each : ∀ s, R s (left (rest s) s)) :
    Keeps R (get >>= rest) :=
  each

section Reflexive

variable [Std.Refl R]

theorem keeps_of_same {x : EStateM ε σ α} (same : ∀ s, left x s = s) : Keeps R x := by
  intro s
  rw [same s]
  exact Std.Refl.refl s

theorem keeps_pure (a : α) : Keeps R (pure a : EStateM ε σ α) :=
  keeps_of_same fun _ => rfl

theorem keeps_throw (e : ε) : Keeps R (throw e : EStateM ε σ α) :=
  keeps_of_same fun _ => rfl

theorem keeps_ofExcept (outcome : Except ε α) : Keeps R (ofExcept outcome : EStateM ε σ α) := by
  cases outcome with
  | ok a => exact keeps_pure a
  | error e => exact keeps_throw e

end Reflexive

section Transitive

variable [IsTrans σ R]

/-- The rest of a computation need only keep what it finds. -/
theorem left_bind {x : EStateM ε σ α} {rest : α → EStateM ε σ β} {s : σ} (first : R s (left x s))
    (second : ∀ a t, x.run s = .ok a t → R t (left (rest a) t)) : R s (left (x >>= rest) s) := by
  unfold left at first ⊢
  rw [EStateM.run_bind]
  cases ran : x.run s with
  | ok a t =>
      rw [ran] at first
      exact IsTrans.trans _ _ _ first (second a t ran)
  | error e t =>
      rw [ran] at first
      exact first

theorem Keeps.bind {x : EStateM ε σ α} {rest : α → EStateM ε σ β} (first : Keeps R x)
    (second : ∀ a, Keeps R (rest a)) : Keeps R (x >>= rest) :=
  fun s => left_bind (first s) fun a t _ => second a t

theorem keeps_forM [Std.Refl R] {ι : Type v} {step : ι → EStateM ε σ PUnit} (items : List ι)
    (each : ∀ item ∈ items, Keeps R (step item)) : Keeps R (items.forM step) := by
  induction items with
  | nil => exact keeps_pure _
  | cons item items ih =>
      exact (each item List.mem_cons_self).bind fun _ =>
        ih fun other member => each other (List.mem_cons_of_mem _ member)

end Transitive

/-- The same answer in related states, or the same error. -/
inductive SameEnd (R : σ → σ → Prop) : EStateM.Result ε σ α → EStateM.Result ε σ α → Prop where
  | ok (a : α) {s t : σ} (related : R s t) : SameEnd R (.ok a s) (.ok a t)
  | error (e : ε) (s t : σ) : SameEnd R (.error e s) (.error e t)

def Blind (R : σ → σ → Prop) (x : EStateM ε σ α) : Prop :=
  ∀ s t, R s t → SameEnd R (x.run s) (x.run t)

theorem blind_pure (a : α) : Blind R (pure a : EStateM ε σ α) :=
  fun _ _ related => .ok a related

theorem blind_throw (e : ε) : Blind R (throw e : EStateM ε σ α) :=
  fun s t _ => .error e s t

theorem blind_ofExcept (outcome : Except ε α) : Blind R (ofExcept outcome : EStateM ε σ α) := by
  cases outcome with
  | ok a => exact blind_pure a
  | error e => exact blind_throw e

theorem Blind.bind {x : EStateM ε σ α} {rest : α → EStateM ε σ β} (first : Blind R x)
    (second : ∀ a, Blind R (rest a)) : Blind R (x >>= rest) := by
  intro s t related
  rw [EStateM.run_bind, EStateM.run_bind]
  generalize hs : x.run s = one
  generalize ht : x.run t = other
  have same := first s t related
  rw [hs, ht] at same
  cases same with
  | ok a later => exact second a _ _ later
  | error e => exact .error e _ _

end Frame
