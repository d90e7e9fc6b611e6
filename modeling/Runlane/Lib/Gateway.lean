import Runlane.Lib.Calls

/-!
A gateway in front of an object.

A gateway reads each request as an operation of the object, or refuses it before
the object is touched, and it words what the object answers. A run of requests is
then a run of the operations that were let through: the two histories go side by
side, and what holds along every run of the object holds behind the gateway.
-/

namespace Calls

universe u
variable {ε ε' σ σ' α α' ι ι' : Type u}

structure Gateway (ε ε' α α' ι ι' : Type u) where
  decode : ι' → Except ε' ι
  Answers : ι → α → α' → Prop
  refusal : ε → ε'

namespace Gateway

variable (gateway : Gateway ε ε' α α' ι ι')

/-- The operation that a request is let through as. -/
def admits (request : ι') : Option ι :=
  (gateway.decode request).toOption

inductive Worded (op : ι) : Except ε α → Except ε' α' → Prop where
  | ok {inner : α} {reply : α'} (answers : gateway.Answers op inner reply) :
      Worded op (.ok inner) (.ok reply)
  | error (error : ε) : Worded op (.error error) (.error (gateway.refusal error))

/-- The gateway turns the call away. -/
structure Refuses (c : Call ε' σ' α' ι') : Prop where
  refused : ∃ error, gateway.decode c.op = .error error ∧ c.outcome = .error error
  same : c.after = c.before

/-- The one call is the other as the caller of the gateway sees it. -/
structure Forwards (house : σ → σ') (c : Call ε' σ' α' ι') (d : Call ε σ α ι) : Prop where
  read : gateway.decode c.op = .ok d.op
  before : c.before = house d.before
  after : c.after = house d.after
  worded : gateway.Worded d.op d.outcome c.outcome

/-- The server is this gateway in front of the object. -/
structure Serves (perform : ι → EStateM ε σ α) (serve : ι' → EStateM ε' σ' α')
    (house : σ → σ') : Prop where
  refuses : ∀ s request error, gateway.decode request = .error error →
    call serve (house s) request = ⟨house s, request, .error error, house s⟩
  forwards : ∀ s request op, gateway.decode request = .ok op →
    gateway.Forwards house (call serve (house s) request) (call perform s op)

/-- Every call of the one history is turned away or is the next call of the
other, and nothing is left over. -/
inductive Follows (house : σ → σ') : List (Call ε' σ' α' ι') → List (Call ε σ α ι) → Prop where
  | nil : Follows house [] []
  | refused {c : Call ε' σ' α' ι'} {cs : List (Call ε' σ' α' ι')} {ds : List (Call ε σ α ι)}
      (head : gateway.Refuses c) (rest : Follows house cs ds) : Follows house (c :: cs) ds
  | forwarded {c : Call ε' σ' α' ι'} {d : Call ε σ α ι} {cs : List (Call ε' σ' α' ι')}
      {ds : List (Call ε σ α ι)} (head : gateway.Forwards house c d)
      (rest : Follows house cs ds) : Follows house (c :: cs) (d :: ds)

variable {gateway}

theorem admits_eq_some {request : ι'} {op : ι} :
    gateway.admits request = some op ↔ gateway.decode request = .ok op := by
  unfold admits
  cases gateway.decode request with
  | error error => simp [Except.toOption]
  | ok op' => simp [Except.toOption]

theorem admits_of_error {request : ι'} {error : ε'}
    (unread : gateway.decode request = .error error) : gateway.admits request = none := by
  rw [admits, unread]
  rfl

theorem Worded.to_ok {op : ι} {inner : α} {outcome : Except ε' α'}
    (worded : gateway.Worded op (.ok inner) outcome) : ∃ reply, outcome = .ok reply := by
  cases worded with
  | ok answers => exact ⟨_, rfl⟩

theorem Worded.to_error {op : ι} {error : ε} {outcome : Except ε' α'}
    (worded : gateway.Worded op (.error error) outcome) :
    outcome = .error (gateway.refusal error) := by
  cases worded with
  | error => rfl

theorem Worded.of_ok {op : ι} {outcome : Except ε α} {reply : α'}
    (worded : gateway.Worded op outcome (.ok reply)) :
    ∃ inner, outcome = .ok inner ∧ gateway.Answers op inner reply := by
  cases worded with
  | ok answers => exact ⟨_, rfl, answers⟩

theorem Worded.of_error {op : ι} {outcome : Except ε α} {error : ε'}
    (worded : gateway.Worded op outcome (.error error)) :
    ∃ inner, outcome = .error inner ∧ gateway.refusal inner = error := by
  cases worded with
  | error inner => exact ⟨inner, rfl, rfl⟩

theorem Worded.fails_iff {op : ι} {outcome : Except ε α} {worded : Except ε' α'}
    (h : gateway.Worded op outcome worded) :
    (∃ error, worded = .error error) ↔ ∃ error, outcome = .error error := by
  cases h with
  | ok answers => exact ⟨nofun, nofun⟩
  | error error => exact ⟨fun _ => ⟨error, rfl⟩, fun _ => ⟨_, rfl⟩⟩

theorem Follows.mem {house : σ → σ'} {cs : List (Call ε' σ' α' ι')} {ds : List (Call ε σ α ι)}
    (follows : gateway.Follows house cs ds) {c : Call ε' σ' α' ι'} (recorded : c ∈ cs) :
    gateway.Refuses c ∨ ∃ d ∈ ds, gateway.Forwards house c d := by
  induction follows with
  | nil => cases recorded
  | refused head rest ih =>
      cases recorded with
      | head => exact .inl head
      | tail _ later => exact ih later
  | forwarded head rest ih =>
      cases recorded with
      | head => exact .inr ⟨_, List.mem_cons_self, head⟩
      | tail _ later =>
          refine (ih later).imp_right ?_
          intro inner
          obtain ⟨d, recorded, forwards⟩ := inner
          exact ⟨d, List.mem_cons_of_mem _ recorded, forwards⟩

section Serving

variable {perform : ι → EStateM ε σ α} {serve : ι' → EStateM ε' σ' α'} {house : σ → σ'}
  (serves : gateway.Serves perform serve house)
include serves

/-- A run behind the gateway is the run of what was let through. -/
theorem Serves.exec (s : σ) (requests : List ι') :
    exec serve (house s) requests = house (exec perform s (requests.filterMap gateway.admits)) := by
  induction requests generalizing s with
  | nil => rfl
  | cons request requests ih =>
      rw [Calls.exec]
      cases read : gateway.decode request with
      | error error =>
          rw [serves.refuses s request error read, List.filterMap_cons_none (admits_of_error read)]
          exact ih s
      | ok op =>
          rw [(serves.forwards s request op read).after,
            List.filterMap_cons_some (admits_eq_some.mpr read)]
          exact ih _

theorem Serves.follows (s : σ) (requests : List ι') :
    gateway.Follows house (history serve (house s) requests)
      (history perform s (requests.filterMap gateway.admits)) := by
  induction requests generalizing s with
  | nil => exact .nil
  | cons request requests ih =>
      rw [history]
      cases read : gateway.decode request with
      | error error =>
          have call := serves.refuses s request error read
          rw [List.filterMap_cons_none (admits_of_error read), call]
          exact .refused ⟨⟨error, read, rfl⟩, rfl⟩ (ih s)
      | ok op =>
          have forwards := serves.forwards s request op read
          rw [List.filterMap_cons_some (admits_eq_some.mpr read), history, forwards.after]
          exact .forwarded forwards (ih _)

end Serving

end Gateway

end Calls
