import Runlane.Lib.Calls
import Runlane.Planner.ServiceUnhealthy
import Mathlib.Data.List.Infix

/-!
The life of a run.

A run moves from state to state by `transitionTo`, which refuses every move that
the lifecycle does not have. Whatever is attempted, the moves that were accepted
spell the beginning of one of four lives: rejected, or approved, executed,
verified and then resolved, failed or escalated; each is reviewed at the end.
-/

namespace Runlane

/-- Whether a state transition is allowed by the initial lifecycle. -/
def isValidRunTransition : RunState → RunState → Bool
  | .created, .planned => true
  | .planned, .collectingEvidence => true
  | .collectingEvidence, .evidenceCollected => true
  | .evidenceCollected, .proposalGenerated => true
  | .proposalGenerated, .waitingForApproval => true
  | .waitingForApproval, .approved | .waitingForApproval, .rejected => true
  | .approved, .executing => true
  | .executing, .verifying => true
  | .verifying, .resolved | .verifying, .failed | .verifying, .escalated => true
  | .resolved, .reviewed | .failed, .reviewed | .escalated, .reviewed | .rejected, .reviewed => true
  | _, _ => false

structure InvalidRunTransition where
  fromState : RunState
  toState : RunState
deriving DecidableEq

/-- Attempts to move the run to another state. -/
def Run.transitionTo (next : RunState) : EStateM InvalidRunTransition Run Unit := do
  let run ← get
  if isValidRunTransition run.state next then set { run with state := next }
  else throw ⟨run.state, next⟩

theorem Run.transitionTo_valid {run : Run} {next : RunState}
    (valid : isValidRunTransition run.state next = true) :
    Calls.call Run.transitionTo run next = ⟨run, next, .ok (), { run with state := next }⟩ := by
  apply Calls.call_of_ok
  simp [Run.transitionTo, valid]

theorem Run.transitionTo_invalid {run : Run} {next : RunState}
    (invalid : ¬ isValidRunTransition run.state next = true) :
    Calls.call Run.transitionTo run next = ⟨run, next, .error ⟨run.state, next⟩, run⟩ := by
  apply Calls.call_of_error
  simp [Run.transitionTo, invalid]

namespace RunState

def untilApproval : List RunState :=
  [planned, collectingEvidence, evidenceCollected, proposalGenerated, waitingForApproval]

/-- The complete lives of a run, without the state it is created in. -/
def lifecycles : List (List RunState) := [
  untilApproval ++ [rejected, reviewed],
  untilApproval ++ [approved, executing, verifying, resolved, reviewed],
  untilApproval ++ [approved, executing, verifying, failed, reviewed],
  untilApproval ++ [approved, executing, verifying, escalated, reviewed]]

/-- Where a run stands after these moves. -/
def reached (moves : List RunState) : RunState :=
  moves.getLast?.getD created

/-- The moves begin a life. -/
def BeginsLife (moves : List RunState) : Prop :=
  ∃ life ∈ lifecycles, moves <+: life

instance (moves : List RunState) : Decidable (BeginsLife moves) :=
  inferInstanceAs (Decidable (∃ life ∈ lifecycles, moves <+: life))

@[simp] theorem reached_concat (moves : List RunState) (next : RunState) :
    reached (moves ++ [next]) = next := by
  simp [reached]

/-- The lives branch where the transitions do and nowhere else. -/
theorem beginsLife_concat {moves : List RunState} (begins : BeginsLife moves) (next : RunState) :
    isValidRunTransition (reached moves) next = true ↔ BeginsLife (moves ++ [next]) := by
  have table : ∀ life ∈ lifecycles, ∀ moves ∈ life.inits,
      isValidRunTransition (reached moves) next = true ↔
        ∃ life ∈ lifecycles, moves ++ [next] ∈ life.inits := by
    cases next <;> decide +kernel
  obtain ⟨life, complete, start⟩ := begins
  rw [table life complete moves ((List.mem_inits _ _).mpr start)]
  simp only [BeginsLife, List.mem_inits]

/-- No life executes before it is approved. -/
theorem BeginsLife.approval_first {earlier later : List RunState}
    (begins : BeginsLife (earlier ++ executing :: later)) : approved ∈ earlier := by
  have table : ∀ life ∈ lifecycles, ∀ moves ∈ life.inits, moves.getLast? = some executing →
      approved ∈ moves.dropLast := by
    decide +kernel
  obtain ⟨life, complete, start⟩ := begins
  have here : earlier ++ [executing] <+: life :=
    (List.prefix_append_right_inj earlier).mpr (by simp) |>.trans start
  have found := table life complete _ ((List.mem_inits _ _).mpr here) (by simp)
  rwa [List.dropLast_concat] at found

end RunState

/-- The moves that were accepted, in order. -/
def acceptedMoves (calls : List (Calls.Call InvalidRunTransition Run Unit RunState)) :
    List RunState :=
  (calls.filter fun call => call.outcome.isOk).map Calls.Call.op

theorem acceptedMoves_append
    (calls more : List (Calls.Call InvalidRunTransition Run Unit RunState)) :
    acceptedMoves (calls ++ more) = acceptedMoves calls ++ acceptedMoves more := by
  simp [acceptedMoves]

/-- A run stands where its accepted moves lead, unchanged otherwise. -/
structure StandsAfter (start : Run) (moves : List RunState) (run : Run) : Prop where
  begins : RunState.BeginsLife moves
  stands : run = { start with state := RunState.reached moves }

theorem StandsAfter.call {start run : Run}
    {past : List (Calls.Call InvalidRunTransition Run Unit RunState)} {next : RunState}
    (held : StandsAfter start (acceptedMoves past) run) :
    StandsAfter start (acceptedMoves (past ++ [Calls.call Run.transitionTo run next]))
      (Calls.call Run.transitionTo run next).after := by
  obtain ⟨begins, stands⟩ := held
  have here : run.state = RunState.reached (acceptedMoves past) := by rw [stands]
  rw [acceptedMoves_append]
  by_cases valid : isValidRunTransition run.state next = true
  · rw [Run.transitionTo_valid valid]
    refine ⟨?_, ?_⟩
    · rw [here] at valid
      exact (RunState.beginsLife_concat begins next).mp valid
    · show { run with state := next } = _
      have last : acceptedMoves [⟨run, next, .ok (), { run with state := next }⟩] = [next] := rfl
      rw [last, RunState.reached_concat, stands]
  · rw [Run.transitionTo_invalid valid]
    have none : acceptedMoves [⟨run, next, .error ⟨run.state, next⟩, run⟩] = [] := rfl
    rw [none, List.append_nil]
    exact ⟨begins, stands⟩

theorem Run.standsAfter (start : Run) (created : start.state = .created)
    (attempts : List RunState) :
    StandsAfter start (acceptedMoves (Calls.history Run.transitionTo start attempts))
      (Calls.exec Run.transitionTo start attempts) := by
  refine Calls.exec_invariant_history
    (I := fun past run => StandsAfter start (acceptedMoves past) run) ?_ ?_
  · intro past run next _ held
    exact held.call
  · refine ⟨⟨_, List.mem_cons_self, List.nil_prefix⟩, ?_⟩
    show start = { start with state := .created }
    rw [← created]

/-- The beginning of a life is accepted move by move. -/
theorem Run.acceptedMoves_life (start : Run) (created : start.state = .created)
    (moves : List RunState) (begins : RunState.BeginsLife moves) :
    acceptedMoves (Calls.history Run.transitionTo start moves) = moves := by
  induction moves using List.reverseRecOn with
  | nil => rfl
  | append_singleton moves next ih =>
      have shorter : RunState.BeginsLife moves := by
        obtain ⟨life, complete, start⟩ := begins
        exact ⟨life, complete, (List.prefix_append _ _).trans start⟩
      have stands := (start.standsAfter created moves).stands
      have valid := (RunState.beginsLife_concat shorter next).mpr begins
      rw [ih shorter] at stands
      rw [Calls.history_append, acceptedMoves_append, ih shorter, stands]
      show moves ++ acceptedMoves [Calls.call Run.transitionTo _ next] = _
      rw [Run.transitionTo_valid valid]
      rfl

/-- Whatever states a created run is asked to move to, the moves it accepts begin
a life, and every beginning of a life is accepted. A refused move changes nothing
and names both states; an execution always has an approval before it. -/
theorem run_lives_one_life (run : Run) (attempts : List RunState) :
    let start := { run with state := .created }
    let history := Calls.history Run.transitionTo start attempts
    StandsAfter start (acceptedMoves history) (Calls.exec Run.transitionTo start attempts) ∧
    (∀ before next after, attempts = before ++ next :: after →
      let moves := acceptedMoves (Calls.history Run.transitionTo start before)
      let call := Calls.call Run.transitionTo (Calls.exec Run.transitionTo start before) next
      if RunState.BeginsLife (moves ++ [next]) then
        call.outcome = .ok () ∧ call.after = { run with state := next }
      else
        call.outcome = .error ⟨RunState.reached moves, next⟩ ∧ call.after = call.before) ∧
    (∀ earlier later, acceptedMoves history = earlier ++ .executing :: later →
      .approved ∈ earlier) ∧
    ∀ moves, RunState.BeginsLife moves →
      acceptedMoves (Calls.history Run.transitionTo start moves) = moves := by
  intro start history
  have stands := start.standsAfter rfl attempts
  refine ⟨stands, ?_, ?_, start.acceptedMoves_life rfl⟩
  · intro before next after _ moves call
    obtain ⟨begins, here⟩ := start.standsAfter rfl before
    have exact := RunState.beginsLife_concat begins next
    have state : (Calls.exec Run.transitionTo start before).state = RunState.reached moves := by
      rw [here]
    rw [← state] at exact
    by_cases valid : isValidRunTransition (Calls.exec Run.transitionTo start before).state next
    · rw [if_pos (exact.mp valid)]
      simp only [call, Run.transitionTo_valid valid, true_and]
      rw [here]
    · rw [if_neg fun life => valid (exact.mpr life)]
      simp only [call, Run.transitionTo_invalid valid, state, and_self]
  · intro earlier later split
    have begins := stands.begins
    rw [show acceptedMoves (Calls.history Run.transitionTo start attempts) = _ from split] at begins
    exact begins.approval_first

end Runlane
