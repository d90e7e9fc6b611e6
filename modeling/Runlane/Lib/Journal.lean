import Runlane.Lib.Calls
import Runlane.Lib.Fallible

/-!
Loops that enter every item in a journal before it may fail.

Such a loop is a pure loop with a journal beside it. It ends as the pure loop
does, and the journal has grown by the entries of the items up to the one that
failed.
-/

namespace Journal

universe u
variable {ε α β ι κ : Type u}

/-- The outcome of a computation that leaves a journal behind. -/
def ended (outcome : Except ε α) (journal : List κ) : EStateM.Result ε (List κ) α :=
  match outcome with
  | .ok a => .ok a journal
  | .error e => .error e journal

@[simp] theorem ended_ok (a : α) (journal : List κ) :
    ended (.ok a : Except ε α) journal = .ok a journal := rfl

@[simp] theorem ended_error (e : ε) (journal : List κ) :
    ended (.error e : Except ε α) journal = .error e journal := rfl

theorem ended_inj {outcome outcome' : Except ε α} {journal journal' : List κ}
    (same : ended outcome journal = ended outcome' journal') :
    outcome = outcome' ∧ journal = journal' := by
  cases outcome <;> cases outcome' <;> simp_all

/-- The computation makes one entry and has the outcome, whatever the journal. -/
def Enters (step : EStateM ε (List κ) α) (entry : κ) (outcome : Except ε α) : Prop :=
  ∀ journal, step.run journal = ended outcome (journal ++ [entry])

theorem run_ofExcept (outcome : Except ε α) (journal : List κ) :
    (ofExcept outcome : EStateM ε (List κ) α).run journal = ended outcome journal := by
  cases outcome with
  | ok a => rfl
  | error e => rfl

theorem run_bind_ended {step : EStateM ε (List κ) α} {rest : α → EStateM ε (List κ) β}
    {outcome : Except ε α} {later : α → Except ε β} {journal longer : List κ}
    (first : step.run journal = ended outcome longer)
    (second : ∀ a, outcome = .ok a → (rest a).run longer = ended (later a) longer) :
    (step >>= rest).run journal = ended (outcome >>= later) longer := by
  rw [EStateM.run_bind, first]
  cases outcome with
  | ok a => exact second a rfl
  | error e => rfl

/-- What is done with the outcome afterwards makes no entry. -/
theorem Enters.bind {step : EStateM ε (List κ) α} {rest : α → EStateM ε (List κ) β}
    {outcome : Except ε α} {later : α → Except ε β} {entry : κ} (enters : Enters step entry outcome)
    (pure : ∀ a journal, (rest a).run journal = ended (later a) journal) :
    Enters (step >>= rest) entry (outcome >>= later) :=
  fun journal => run_bind_ended (enters journal) fun a _ => pure a _

theorem Enters.adaptExcept {ε' : Type u} {step : EStateM ε (List κ) α} {entry : κ}
    {outcome : Except ε α} (enters : Enters step entry outcome) (f : ε → ε') :
    Enters (step.adaptExcept f) entry (outcome.mapError f) := by
  intro journal
  have ran : step journal = ended outcome (journal ++ [entry]) := enters journal
  rw [EStateM.run, EStateM.adaptExcept, ran]
  cases outcome with
  | ok a => rfl
  | error e => rfl

/-- What is decided before the entry is made fails without one. -/
theorem Enters.after {decided : Except ε α} {a : α} {rest : α → EStateM ε (List κ) β} {entry : κ}
    {outcome : Except ε β} (same : decided = .ok a) (enters : Enters (rest a) entry outcome) :
    Enters (ofExcept decided >>= rest) entry outcome := by
  subst same
  exact enters

theorem run_map_ended {step : EStateM ε (List κ) α} {outcome : Except ε α} {journal longer : List κ}
    (f : α → β) (ran : step.run journal = ended outcome longer) :
    (f <$> step).run journal = ended (f <$> outcome) longer := by
  rw [map_eq_pure_bind, map_eq_pure_bind]
  exact run_bind_ended ran fun a _ => rfl

/-- A loop over an image of the state is the image of the loop over the state. -/
theorem foldlM_image {m : Type u → Type u} [Monad m] [LawfulMonad m] {plain : α → ι → m α}
    {pass : β → ι → m β} (image : α → β)
    (same : ∀ a item, pass (image a) item = image <$> plain a item) (items : List ι) (start : α) :
    items.foldlM pass (image start) = image <$> items.foldlM plain start := by
  induction items generalizing start with
  | nil => simp only [List.foldlM_nil, map_pure]
  | cons item items ih =>
      simp only [List.foldlM_cons, same, bind_map_left, map_bind, ih]

/-- How far a loop got: through all its items, or to the first that failed. -/
inductive Reached (outcome : β → ι → Except ε β) (start : β) (items : List ι) :
    List ι → Except ε β → Prop where
  | all {b : β} (passed : items.foldlM outcome start = .ok b) :
      Reached outcome start items items (.ok b)
  | failed (before : List ι) {after : List ι} {item : ι} {b : β} {e : ε}
      (split : items = before ++ item :: after) (passed : before.foldlM outcome start = .ok b)
      (stopped : outcome b item = .error e) :
      Reached outcome start items (before ++ [item]) (.error e)

variable {pass : β → ι → EStateM ε (List κ) β} {entry : ι → κ} {outcome : β → ι → Except ε β}

theorem run_foldlM (items : List ι)
    (enters : ∀ item ∈ items, ∀ b, Enters (pass b item) (entry item) (outcome b item))
    (start : β) (journal : List κ) :
    ∃ done result, Reached outcome start items done result ∧
      (items.foldlM pass start).run journal = ended result (journal ++ done.map entry) := by
  induction items generalizing start journal with
  | nil =>
      refine ⟨[], .ok start, .all rfl, ?_⟩
      rw [List.map_nil, List.append_nil]
      rfl
  | cons item items ih =>
      have first := enters item List.mem_cons_self start journal
      simp only [List.foldlM_cons, EStateM.run_bind, first]
      cases stopped : outcome start item with
      | error e => exact ⟨[item], .error e, .failed [] rfl rfl stopped, rfl⟩
      | ok b =>
          obtain ⟨done, result, reached, ran⟩ :=
            ih (fun other member => enters other (List.mem_cons_of_mem _ member)) b
              (journal ++ [entry item])
          refine ⟨item :: done, result, ?_, ?_⟩
          · cases reached with
            | all passed =>
                refine .all ?_
                rw [List.foldlM_cons, stopped]
                exact passed
            | failed before split passed stopped' =>
                refine .failed (item :: before) (congrArg (item :: ·) split) ?_ stopped'
                rw [List.foldlM_cons, stopped]
                exact passed
          · simp only [ended_ok, ran, List.map_cons, List.append_assoc, List.singleton_append]

/-- A loop that gathers what is made of its items has made it of each. -/
theorem foldlM_gather_eq_ok {make : ι → Except ε α} {items : List ι} {start gathered : List α} :
    items.foldlM (fun made item => do return made ++ [← make item]) start = .ok gathered ↔
      ∃ made, gathered = start ++ made ∧
        List.Forall₂ (fun item a => make item = .ok a) items made := by
  induction items generalizing start with
  | nil =>
      simp only [List.foldlM_nil, Fallible.pure_eq_ok, List.forall₂_nil_left_iff]
      constructor
      · intro same
        exact ⟨[], by rw [List.append_nil, same], rfl⟩
      · intro passed
        obtain ⟨_, rfl, rfl⟩ := passed
        exact (List.append_nil start).symm
  | cons item items ih =>
      simp only [List.foldlM_cons, Fallible.bind_eq_ok, Fallible.pure_eq_ok, ih,
        List.forall₂_cons_left_iff]
      constructor
      · intro passed
        obtain ⟨_, ⟨a, first, rfl⟩, made, rfl, rest⟩ := passed
        exact ⟨a :: made, (List.append_cons start a made).symm, a, made, first, rest, rfl⟩
      · intro passed
        obtain ⟨_, rfl, a, made, first, rest, rfl⟩ := passed
        exact ⟨start ++ [a], ⟨a, first, rfl⟩, made, List.append_cons start a made, rest⟩

/-- The items that a loop got to are its first ones. -/
theorem Reached.isPrefix {start : β} {items done : List ι} {result : Except ε β}
    (reached : Reached outcome start items done result) : done <+: items := by
  cases reached with
  | all => exact List.prefix_rfl
  | failed before split =>
      rw [split]
      exact (List.prefix_append_right_inj _).mpr (List.prefix_append [_] _)

end Journal
