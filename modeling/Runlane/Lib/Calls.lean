import Mathlib.Data.List.Basic
import Mathlib.Data.List.Forall2

/-!
Histories of fallible calls on one object.

A method that updates its object and may fail is an `EStateM` computation: when
it fails, the updates made before the failing point stay. A run performs a list
of operations one after another, failing ones included. Its history keeps, for
each call, the object before it, the outcome and the object after it. The rules
lift what is known of one call to every run; they assume nothing of the object.
-/

namespace Calls

universe u v
variable {ε σ α ι : Type u}

/-- The early return on an absent value. -/
def okOr (o : Option α) (e : ε) : EStateM ε σ α :=
  match o with
  | some a => pure a
  | none => throw e

@[simp] theorem run_okOr_some (a : α) (e : ε) (s : σ) : (okOr (some a) e).run s = .ok a s := rfl

@[simp] theorem run_okOr_none (e : ε) (s : σ) :
    (okOr (none : Option α) e).run s = .error e s := rfl

@[simp] theorem run_ofExcept_ok (a : α) (s : σ) :
    (ofExcept (.ok a : Except ε α) : EStateM ε σ α).run s = .ok a s := rfl

@[simp] theorem run_ofExcept_error (e : ε) (s : σ) :
    (ofExcept (.error e : Except ε α) : EStateM ε σ α).run s = .error e s := rfl

structure Call (ε σ α ι : Type u) where
  before : σ
  op : ι
  outcome : Except ε α
  after : σ

def call (perform : ι → EStateM ε σ α) (s : σ) (op : ι) : Call ε σ α ι :=
  match (perform op).run s with
  | .ok a t => ⟨s, op, .ok a, t⟩
  | .error e t => ⟨s, op, .error e, t⟩

variable (perform : ι → EStateM ε σ α)

def exec (s : σ) : List ι → σ
  | [] => s
  | op :: ops => exec (call perform s op).after ops

def history (s : σ) : List ι → List (Call ε σ α ι)
  | [] => []
  | op :: ops => call perform s op :: history (call perform s op).after ops

@[simp] theorem call_before (s : σ) (op : ι) : (call perform s op).before = s := by
  unfold call
  split <;> rfl

@[simp] theorem call_op (s : σ) (op : ι) : (call perform s op).op = op := by
  unfold call
  split <;> rfl

/-- A call is made of the operation, the object before it and what became of both. -/
theorem call_mk (s : σ) (op : ι) :
    (⟨s, op, (call perform s op).outcome, (call perform s op).after⟩ : Call ε σ α ι) =
      call perform s op := by
  unfold call
  split <;> rfl

variable {perform} in
theorem call_of_ok {s t : σ} {op : ι} {a : α} (h : (perform op).run s = .ok a t) :
    call perform s op = ⟨s, op, .ok a, t⟩ := by
  simp only [call, h]

variable {perform} in
theorem call_of_error {s t : σ} {op : ι} {e : ε} (h : (perform op).run s = .error e t) :
    call perform s op = ⟨s, op, .error e, t⟩ := by
  simp only [call, h]

/-- An operation that runs a method and answers with what this returns. -/
theorem call_of_answer {β : Type u} {x : EStateM ε σ β} {reply : β → α} {s t : σ} {b : β} (op : ι)
    (answers : perform op = do return reply (← x)) (run : x.run s = .ok b t) :
    call perform s op = ⟨s, op, .ok (reply b), t⟩ := by
  apply call_of_ok
  simp only [answers, EStateM.run_bind, run, EStateM.run_pure]

theorem call_of_refusal {β : Type u} {x : EStateM ε σ β} {reply : β → α} {s t : σ} {e : ε} (op : ι)
    (answers : perform op = do return reply (← x)) (run : x.run s = .error e t) :
    call perform s op = ⟨s, op, .error e, t⟩ := by
  apply call_of_error
  simp only [answers, EStateM.run_bind, run]

theorem exec_append (s : σ) (ops more : List ι) :
    exec perform s (ops ++ more) = exec perform (exec perform s ops) more := by
  induction ops generalizing s with
  | nil => rfl
  | cons op ops ih => exact ih _

variable {perform} in
theorem mem_history {s : σ} {ops : List ι} {c : Call ε σ α ι}
    (hc : c ∈ history perform s ops) :
    ∃ earlier later, ops = earlier ++ c.op :: later ∧
      c = call perform (exec perform s earlier) c.op := by
  induction ops generalizing s with
  | nil => cases hc
  | cons op ops ih =>
      cases hc with
      | head => exact ⟨[], ops, by simp, by simp [exec]⟩
      | tail _ hc =>
          obtain ⟨earlier, later, hops, hcall⟩ := ih hc
          exact ⟨op :: earlier, later, by simp [hops], hcall⟩

theorem history_append (s : σ) (ops more : List ι) :
    history perform s (ops ++ more) =
      history perform s ops ++ history perform (exec perform s ops) more := by
  induction ops generalizing s with
  | nil => rfl
  | cons op ops ih => exact congrArg (call perform s op :: ·) (ih _)

variable {perform} in
/-- The calls recorded before one call are the history of the operations before it. -/
theorem history_split {s : σ} {ops : List ι} {earlier later : List (Call ε σ α ι)}
    {c : Call ε σ α ι} (h : history perform s ops = earlier ++ c :: later) :
    ∃ before op after, ops = before ++ op :: after ∧ earlier = history perform s before ∧
      c = call perform (exec perform s before) op := by
  induction ops generalizing s earlier with
  | nil => exact absurd h (by simp [history])
  | cons op ops ih =>
      cases earlier with
      | nil =>
          cases h
          exact ⟨[], op, ops, rfl, rfl, rfl⟩
      | cons d earlier =>
          obtain ⟨head, tail⟩ := List.cons.inj h
          obtain ⟨before, op', after, rfl, rfl, rfl⟩ := ih tail
          exact ⟨op :: before, op', after, rfl, congrArg (· :: _) head.symm, rfl⟩

theorem mem_history_iff {s : σ} {ops : List ι} {c : Call ε σ α ι} :
    c ∈ history perform s ops ↔ ∃ before op after, ops = before ++ op :: after ∧
      c = call perform (exec perform s before) op := by
  constructor
  · intro hc
    obtain ⟨before, after, hops, hcall⟩ := mem_history hc
    exact ⟨before, c.op, after, hops, hcall⟩
  · intro hc
    obtain ⟨before, op, after, rfl, rfl⟩ := hc
    rw [history_append]
    exact List.mem_append_right _ List.mem_cons_self

/-- Pairs of calls of a run, each given by what was performed before it. -/
theorem history_pairwise_iff {R : Call ε σ α ι → Call ε σ α ι → Prop} {s : σ} {ops : List ι} :
    (history perform s ops).Pairwise R ↔
      ∀ before op between op' after, ops = before ++ op :: (between ++ op' :: after) →
        R (call perform (exec perform s before) op)
          (call perform (exec perform s (before ++ op :: between)) op') := by
  induction ops generalizing s with
  | nil => simp [history]
  | cons op ops ih =>
      rw [history, List.pairwise_cons, ih]
      constructor
      · intro h before first between second after hops
        cases before with
        | nil =>
            cases hops
            exact h.1 _ ((mem_history_iff perform).mpr ⟨between, second, after, rfl, rfl⟩)
        | cons op' before =>
            cases hops
            exact h.2 before first between second after rfl
      · intro h
        refine ⟨?_, ?_⟩
        · intro c hc
          obtain ⟨between, second, after, rfl, rfl⟩ := (mem_history_iff perform).mp hc
          exact h [] op between second after rfl
        · intro before first between second after hops
          exact h (op :: before) first between second after (congrArg (op :: ·) hops)

variable {perform} in
theorem eq_call_of_mem {s : σ} {ops : List ι} {c : Call ε σ α ι}
    (hc : c ∈ history perform s ops) : c = call perform c.before c.op := by
  obtain ⟨earlier, _, _, hcall⟩ := mem_history hc
  have before : c.before = exec perform s earlier := by rw [hcall, call_before]
  rw [before]
  exact hcall

variable {perform} in
/-- What relates the two ends of every call relates those of a recorded one. -/
theorem of_mem_history {R : σ → ι → Except ε α → σ → Prop}
    (step : ∀ s op, R s op (call perform s op).outcome (call perform s op).after)
    {s : σ} {ops : List ι} {c : Call ε σ α ι} (hc : c ∈ history perform s ops) :
    R c.before c.op c.outcome c.after := by
  have taken := step c.before c.op
  rwa [← eq_call_of_mem hc] at taken

section Invariants

variable {perform} {I : σ → Prop}

/-- What the calls of this run preserve holds wherever the run passes. -/
theorem history_induction {s : σ} {ops : List ι}
    (step : ∀ c ∈ history perform s ops, I c.before → I c.after) (hs : I s) :
    (∀ c ∈ history perform s ops, I c.before ∧ I c.after) ∧ I (exec perform s ops) := by
  induction ops generalizing s with
  | nil => exact ⟨nofun, hs⟩
  | cons op ops ih =>
      have first : I (call perform s op).after :=
        step _ List.mem_cons_self (by simpa using hs)
      have rest := ih (fun c hc => step c (List.mem_cons_of_mem _ hc)) first
      refine ⟨?_, rest.2⟩
      intro c hc
      cases hc with
      | head => exact ⟨by simpa using hs, first⟩
      | tail _ hc => exact rest.1 c hc

/-- When a call keeps an invariant exactly under a condition, a run keeps it
exactly when all its calls meet the condition. -/
theorem history_iff {G : Call ε σ α ι → Prop} {s : σ} {ops : List ι}
    (step : ∀ c ∈ history perform s ops, I c.before → (I c.after ↔ G c)) (hs : I s) :
    (∀ c ∈ history perform s ops, I c.after) ↔ ∀ c ∈ history perform s ops, G c := by
  constructor
  · intro kept c hc
    have before := ((history_induction (fun d hd _ => kept d hd) hs).1 c hc).1
    exact (step c hc before).mp (kept c hc)
  · intro guarded c hc
    have run := history_induction (fun d hd before => (step d hd before).mpr (guarded d hd)) hs
    exact (run.1 c hc).2

variable (step : ∀ s op, I s → I (call perform s op).after)
include step

theorem exec_invariant {s : σ} (hs : I s) (ops : List ι) : I (exec perform s ops) := by
  refine (history_induction ?_ hs).2
  intro c hc
  obtain ⟨earlier, _, _, hcall⟩ := mem_history hc
  rw [hcall, call_before]
  exact step _ _

/-- The latch rule. A call leaves a mark on the object, no later call removes
it, and a call on a marked object stands in `R` to the one that marked it. -/
theorem history_pairwise {R : Call ε σ α ι → Call ε σ α ι → Prop}
    (Mark : Call ε σ α ι → σ → Prop)
    (mark : ∀ s op, I s → Mark (call perform s op) (call perform s op).after)
    (keep : ∀ c s op, I s → Mark c s → Mark c (call perform s op).after)
    (marked : ∀ c s op, I s → Mark c s → R c (call perform s op))
    {s : σ} (hs : I s) (ops : List ι) : (history perform s ops).Pairwise R := by
  induction ops generalizing s with
  | nil => exact List.Pairwise.nil
  | cons op ops ih =>
      refine List.Pairwise.cons ?_ (ih (step s op hs))
      intro d hd
      obtain ⟨earlier, _, _, hcall⟩ := mem_history hd
      have kept : I (exec perform (call perform s op).after earlier) ∧
          Mark (call perform s op) (exec perform (call perform s op).after earlier) :=
        exec_invariant (I := fun t => I t ∧ Mark (call perform s op) t)
          (fun t o h => ⟨step t o h.1, keep _ t o h.1 h.2⟩) ⟨step s op hs, mark s op hs⟩ earlier
      rw [hcall]
      exact marked _ _ _ kept.1 kept.2

end Invariants

/-- A list that each call extends by what the call logs is, after a run, the
concatenated log of the history. -/
theorem exec_log {β : Type v} {items : σ → List β} {logged : Call ε σ α ι → List β}
    (step : ∀ s op, items (call perform s op).after = items s ++ logged (call perform s op))
    (s : σ) (ops : List ι) :
    items (exec perform s ops) = items s ++ (history perform s ops).flatMap logged := by
  induction ops generalizing s with
  | nil => simp [exec, history]
  | cons op ops ih =>
      simp only [exec, history, List.flatMap_cons]
      rw [ih, step, List.append_assoc]

/-- The same for a log that the operation alone determines. -/
theorem exec_log_op {β : Type v} {items : σ → List β} {logged : ι → List β}
    (step : ∀ s op, items (call perform s op).after = items s ++ logged op)
    (s : σ) (ops : List ι) : items (exec perform s ops) = items s ++ ops.flatMap logged := by
  induction ops generalizing s with
  | nil => simp [exec]
  | cons op ops ih => rw [exec, ih, step, List.flatMap_cons, List.append_assoc]

/-- An invariant may also speak of all that the operations so far have logged. -/
theorem exec_invariant_log {β : Type v} {logged : ι → List β} {I : List β → σ → Prop}
    (step : ∀ log s op, I log s → I (log ++ logged op) (call perform s op).after)
    {log : List β} {s : σ} (hs : I log s) (ops : List ι) :
    I (log ++ ops.flatMap logged) (exec perform s ops) := by
  induction ops generalizing log s with
  | nil => simpa [exec] using hs
  | cons op ops ih =>
      have rest := ih (step log s op hs)
      rwa [List.append_assoc] at rest

variable {perform} in
/-- An invariant may also speak of all the calls so far. -/
theorem exec_invariant_history {I : List (Call ε σ α ι) → σ → Prop} {s : σ} {ops : List ι}
    (step : ∀ past s, ∀ op ∈ ops, I past s →
      I (past ++ [call perform s op]) (call perform s op).after)
    (hs : I [] s) : I (history perform s ops) (exec perform s ops) := by
  have run : ∀ past, I past s → I (past ++ history perform s ops) (exec perform s ops) := by
    clear hs
    induction ops generalizing s with
    | nil => simp [history, exec]
    | cons op ops ih =>
        intro past hs
        have first := step past s op List.mem_cons_self hs
        have rest := ih (fun past s op hop => step past s op (List.mem_cons_of_mem _ hop)) _ first
        rwa [List.append_assoc] at rest
  exact run [] hs

theorem history_map_op (s : σ) (ops : List ι) : (history perform s ops).map Call.op = ops := by
  induction ops generalizing s with
  | nil => rfl
  | cons op ops ih => rw [history, List.map_cons, call_op, ih]

variable {perform} in
/-- Or of all the operations so far. -/
theorem exec_invariant_ops {I : List ι → σ → Prop} {s : σ} {ops : List ι}
    (step : ∀ past s, ∀ op ∈ ops, I past s → I (past ++ [op]) (call perform s op).after)
    (hs : I [] s) : I ops (exec perform s ops) := by
  have run : I ((history perform s ops).map Call.op) (exec perform s ops) := by
    refine exec_invariant_history (I := fun past s => I (past.map Call.op) s) ?_ hs
    intro past s op hop held
    rw [List.map_append, List.map_cons, List.map_nil, call_op]
    exact step _ s op hop held
  rwa [history_map_op] at run

/-- An order that every call respects relates each call's end to the end of the run. -/
theorem after_le_exec {R : σ → σ → Prop} (refl : ∀ s, R s s)
    (trans : ∀ {r s t}, R r s → R s t → R r t)
    (step : ∀ s op, R s (call perform s op).after)
    {s : σ} {ops : List ι} {c : Call ε σ α ι} (hc : c ∈ history perform s ops) :
    R c.after (exec perform s ops) := by
  obtain ⟨earlier, later, hops, hcall⟩ := mem_history hc
  have split : exec perform s ops = exec perform c.after later := by
    rw [hops, exec_append, exec, ← hcall]
  rw [split]
  exact exec_invariant (I := R c.after) (fun t o h => trans h (step t o)) (refl _) later

/-- Operations that are related call by call run in step, from one object to one object. -/
theorem history_forall₂ {I : σ → Prop} {E : ι → ι → Prop} {R : Call ε σ α ι → Call ε σ α ι → Prop}
    (step : ∀ s op op', I s → E op op' → I (call perform s op).after ∧
      (call perform s op).after = (call perform s op').after ∧
      R (call perform s op) (call perform s op'))
    {ops ops' : List ι} (related : List.Forall₂ E ops ops') {s : σ} (hs : I s) :
    exec perform s ops = exec perform s ops' ∧
      List.Forall₂ R (history perform s ops) (history perform s ops') := by
  induction related generalizing s with
  | nil => exact ⟨rfl, .nil⟩
  | cons head tail ih =>
      obtain ⟨kept, same, alike⟩ := step s _ _ hs head
      obtain ⟨ends, rest⟩ := ih kept
      simp only [exec, history]
      rw [← same]
      exact ⟨ends, .cons alike rest⟩

end Calls
