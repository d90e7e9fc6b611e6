import Runlane.Lib.Attempts
import Runlane.Xtask.Smokes

/-!
What the smoke runner starts.

A command line either plans commands or starts nothing. A plan is worked off up
to the first command that fails, and the run succeeds when none does. A smoke
that changes the host is planned only by a line that names it, confirms it in
front of `--` and asks for no dry run.
-/

namespace Runlane.Xtask

open Attempts Journal

def optionWords (args : List String) : List String :=
  args.takeWhile fun word => word ≠ "--"

/-- The options are read off the words in front of `--`, of which no other is known. -/
theorem parseFrom_eq_ok {options parsed : RunOptions} {args : List String}
    (read : options.parseFrom args = .ok parsed) :
    (parsed.dryRun = true ↔ options.dryRun = true ∨ "--dry-run" ∈ optionWords args) ∧
      (parsed.confirmHostMutation = true ↔
        options.confirmHostMutation = true ∨ "--confirm-host-mutation" ∈ optionWords args) := by
  fun_induction RunOptions.parseFrom options args with
  | case1 options =>
      cases read
      simp [optionWords]
  | case2 options rest ih =>
      rw [(ih read).1, (ih read).2]
      simp [optionWords]
  | case3 options rest ih =>
      rw [(ih read).1, (ih read).2]
      simp [optionWords]
  | case4 options rest =>
      cases read
      simp [optionWords]
  | case5 => cases read

theorem parse_eq_ok {parsed : RunOptions} {args : List String}
    (read : RunOptions.parse args = .ok parsed) :
    (parsed.dryRun = true ↔ "--dry-run" ∈ optionWords args) ∧
      (parsed.confirmHostMutation = true ↔ "--confirm-host-mutation" ∈ optionWords args) := by
  simpa using parseFrom_eq_ok read

variable (world : World)

def Exit.succeeded : Exit → Bool
  | success => true
  | _ => false

def succeeds (before : List Invocation) (invocation : Invocation) : Bool :=
  (world before invocation).succeeded

theorem started_append (log more : List Event) :
    started (log ++ more) = started log ++ started more :=
  List.filterMap_append

theorem judge_eq_ok {program : String} {exit : Exit} :
    judge program exit = .ok () ↔ exit.succeeded = true := by
  cases exit <;> simp [judge, Exit.succeeded]

theorem follows_emit {event : Event} (quiet : started [event] = []) :
    Follows started (succeeds world) (emit event) [] := by
  intro log
  exact ⟨.ok (), [event], rfl, quiet, by simp [attempts]⟩

theorem follows_println (line : String) : Follows started (succeeds world) (println line) [] :=
  follows_emit world rfl

/-- A step that is not a dry run attempts its command. -/
theorem follows_runStep (passthrough : List String) (step : Step) :
    Follows started (succeeds world) (runStep world false passthrough step)
      [step.invocation passthrough] := by
  intro log
  let invocation := step.invocation passthrough
  let exit := world (started log) invocation
  have same : started (log ++ [.out invocation.line]) = started log := by
    rw [started_append]
    exact List.append_nil _
  have ran : (runStep world false passthrough step).run log =
      ended (judge step.program exit) (log ++ [.out invocation.line, .started invocation]) := by
    have asked : world (started (log ++ [.out invocation.line])) invocation = exit := by
      rw [same]
    change (ofExcept (judge step.program (world (started (log ++ [.out invocation.line]))
      invocation)) : Runner Unit).run ((log ++ [.out invocation.line]) ++ [.started invocation]) = _
    rw [asked, run_ofExcept, List.append_assoc]
    rfl
  refine ⟨judge step.program exit, _, ran, ?_, ?_⟩
  · rw [attempts_single]
    rfl
  · rw [attempts_single]
    exact judge_eq_ok

/-- The commands of a smoke, in order. -/
def Smoke.commands (smoke : Smoke) (passthrough : List String) : List Invocation :=
  smoke.steps.map fun step => step.invocation passthrough

theorem follows_runSmoke (smoke : Smoke) (passthrough : List String) :
    Follows started (succeeds world) (runSmoke world smoke false passthrough)
      (smoke.commands passthrough) := by
  have steps := Follows.forM started_append rfl smoke.steps (follows_runStep world passthrough)
  rw [← List.map_eq_flatMap] at steps
  exact .after started_append (follows_println world _) (.bind started_append
    (.forM_quiet started_append rfl _ fun _ => follows_println world _) steps)

theorem follows_runStep_dry (passthrough : List String) (step : Step) :
    Follows started (succeeds world) (runStep world true passthrough step) [] :=
  .after started_append (follows_println world _) (.pure rfl)

/-- A dry run of a smoke starts nothing and succeeds. -/
theorem follows_runSmoke_dry (smoke : Smoke) (passthrough : List String) :
    Follows started (succeeds world) (runSmoke world smoke true passthrough) [] :=
  .after started_append (follows_println world _) (.bind started_append
    (.forM_quiet started_append rfl _ fun _ => follows_println world _)
    (.forM_quiet started_append rfl _ (follows_runStep_dry world passthrough)))

/-- The command lines that plan commands, and what each plans. -/
inductive Plans : List String → List Invocation → Prop
  | safe {words : List String} {options : RunOptions} (read : RunOptions.parse words = .ok options)
      (unconfirmed : options.confirmHostMutation = false) (plain : options.passthrough = [])
      (wet : options.dryRun = false) :
      Plans ("smoke" :: "safe" :: words) (safeSuite.flatMap fun smoke => smoke.commands [])
  | named {words : List String} {options : RunOptions} {smoke : Smoke} (listed : smoke ∈ smokes)
      (read : RunOptions.parse words = .ok options)
      (confirmed : smoke.safety = .hostMutating → options.confirmHostMutation = true)
      (script : options.passthrough = [] ∨ smoke.steps.length = 1)
      (wet : options.dryRun = false) :
      Plans ("smoke" :: smoke.name :: words) (smoke.commands options.passthrough)

theorem smokes_named : ∀ smoke ∈ smokes, ∀ other ∈ smokes, other.name = smoke.name →
    other = smoke := by
  decide

theorem name_ne_reserved : ∀ smoke ∈ smokes, smoke.name ∉ ["safe", "list", "--help", "-h"] := by
  decide

theorem safeSuite_safe : ∀ smoke ∈ safeSuite, smoke.safety = .safe := by
  decide

theorem findSmoke_eq_ok {name : String} {smoke : Smoke} :
    findSmoke name = .ok smoke ↔ smoke ∈ smokes ∧ smoke.name = name := by
  unfold findSmoke
  cases found : smokes.find? fun smoke => decide (smoke.name = name) with
  | none =>
      have absent := List.find?_eq_none.mp found
      simp only [decide_eq_true_eq] at absent
      exact iff_of_false nofun fun both => absent smoke both.1 both.2
  | some first =>
      have member := List.mem_of_find?_eq_some found
      have named : first.name = name := by simpa using List.find?_some found
      rw [Except.ok.injEq]
      constructor
      · rintro rfl
        exact ⟨member, named⟩
      · intro both
        exact smokes_named smoke both.1 first member (named.trans both.2.symm)

theorem follows_safe {options : RunOptions} (unconfirmed : options.confirmHostMutation = false)
    (plain : options.passthrough = []) (wet : options.dryRun = false) :
    Follows started (succeeds world) (runSafe world options)
      (safeSuite.flatMap fun smoke => smoke.commands []) := by
  rw [runSafe, unconfirmed, plain, wet]
  exact .forM started_append rfl safeSuite fun smoke => follows_runSmoke world smoke []

theorem follows_named {options : RunOptions} {smoke : Smoke}
    (confirmed : smoke.safety = .hostMutating → options.confirmHostMutation = true)
    (script : options.passthrough = [] ∨ smoke.steps.length = 1) (wet : options.dryRun = false)
    (name : String) :
    Follows started (succeeds world) (runFound world name smoke options)
      (smoke.commands options.passthrough) := by
  have allowed : ¬ (smoke.safety = .hostMutating ∧ !options.confirmHostMutation ∧
      !options.dryRun) := by
    intro refused
    simp [confirmed refused.1] at refused
  have fits : ¬ (!options.passthrough.isEmpty ∧ smoke.steps.length ≠ 1) := by
    intro refused
    cases script with
    | inl plain => simp [plain] at refused
    | inr single => exact refused.2 single
  rw [runFound, if_neg allowed, if_neg fits, wet]
  exact follows_runSmoke world smoke options.passthrough

theorem follows_after_read {words : List String} {options : RunOptions}
    (read : RunOptions.parse words = .ok options) {rest : RunOptions → Runner Unit}
    {plan : List Invocation} (follows : Follows started (succeeds world) (rest options) plan) :
    Follows started (succeeds world) (ofExcept (RunOptions.parse words) >>= rest) plan := by
  rw [read]
  exact follows

theorem run_named {name : String} (unreserved : name ∉ ["safe", "list", "--help", "-h"])
    (words : List String) :
    run world ("smoke" :: name :: words) =
      (ofExcept (RunOptions.parse words) >>= fun options => runNamedSmoke world name options) := by
  simp only [List.mem_cons, List.not_mem_nil, or_false, not_or] at unreserved
  obtain ⟨safe, list, long, short⟩ := unreserved
  rw [run.eq_def]
  split <;> simp_all

theorem follows_plan {args : List String} {plan : List Invocation} (plans : Plans args plan) :
    Follows started (succeeds world) (run world args) plan := by
  cases plans with
  | @safe words options read unconfirmed plain wet =>
      have safe := follows_safe world unconfirmed plain wet
      have ran : run world ("smoke" :: "safe" :: words) =
          (ofExcept (RunOptions.parse words) >>= fun options => runSafe world options) := by
        rw [run.eq_def]
        split <;> simp_all
      rw [ran]
      exact follows_after_read world read safe
  | @named words options smoke listed read confirmed script wet =>
      rw [run_named world (name_ne_reserved smoke listed)]
      refine follows_after_read world read ?_
      have found := findSmoke_eq_ok.mpr ⟨listed, rfl⟩
      rw [runNamedSmoke, found]
      exact follows_named world confirmed script wet smoke.name

/-- The computation starts no command. -/
def Quiet (computation : Runner Unit) : Prop :=
  ∃ outcome log, computation.run [] = ended outcome log ∧ started log = []

variable {world}

theorem Quiet.of_follows {computation : Runner Unit}
    (follows : Follows started (succeeds world) computation []) : Quiet computation := by
  obtain ⟨outcome, more, ran, seen, _⟩ := follows []
  exact ⟨outcome, more, ran, seen⟩

theorem Quiet.of_refuses {computation : Runner Unit} (refuses : Refuses started computation) :
    Quiet computation := by
  obtain ⟨error, more, ran, seen⟩ := refuses []
  exact ⟨.error error, more, ran, seen⟩

theorem quiet_throw (error : String) : Quiet (throw error) :=
  ⟨.error error, [], rfl, rfl⟩

theorem quiet_ofExcept_bind {α : Type} {value : Except String α} {rest : α → Runner Unit}
    (quiet : ∀ a, value = .ok a → Quiet (rest a)) : Quiet (ofExcept value >>= rest) := by
  cases value with
  | error e => exact quiet_throw e
  | ok a => exact quiet a rfl

theorem quiet_printSmokeList : Quiet printSmokeList := by
  have line := follows_println fun _ _ => Exit.success
  refine .of_follows (.after started_append (line _) (.after started_append ?_
    (.after started_append (line _) (.after started_append (line _) ?_))))
  · exact .forM_quiet started_append rfl _ fun smoke => line _
  · refine .forM_quiet started_append rfl _ fun smoke => .after started_append (line _) ?_
    exact .forM_quiet started_append rfl _ fun effect => line _

variable (world)

theorem quiet_safe {options : RunOptions}
    (unplanned : ¬ (options.confirmHostMutation = false ∧ options.passthrough = [] ∧
      options.dryRun = false)) : Quiet (runSafe world options) := by
  unfold runSafe
  split
  case isTrue => exact quiet_throw _
  case isFalse unconfirmed =>
    split
    case isTrue => exact quiet_throw _
    case isFalse plain =>
      have dry : options.dryRun = true := by
        simp_all
      rw [dry]
      have nothing : Follows started (succeeds world) (runSafeSmokes world true) [] :=
        .forM_quiet started_append rfl safeSuite fun smoke => follows_runSmoke_dry world smoke []
      exact .of_follows nothing

theorem quiet_found {name : String} {smoke : Smoke} {options : RunOptions}
    (unplanned : ¬ ((smoke.safety = .hostMutating → options.confirmHostMutation = true) ∧
      (options.passthrough = [] ∨ smoke.steps.length = 1) ∧ options.dryRun = false)) :
    Quiet (runFound world name smoke options) := by
  unfold runFound
  split
  case isTrue =>
    have line := fun text => @follows_emit world (.err text) rfl
    exact .of_refuses (.after started_append (.after started_append (line _)
      (.after started_append (line _) (.forM_quiet started_append rfl _ fun effect => line _)))
      fun log => ⟨_, [], by simp; rfl, rfl⟩)
  case isFalse allowed =>
    split
    case isTrue => exact quiet_throw _
    case isFalse fits =>
      have dry : options.dryRun = true := by
        by_contra wet
        apply unplanned
        simp_all
      rw [dry]
      exact .of_follows (follows_runSmoke_dry world smoke options.passthrough)

/-- A command line without a plan starts nothing. -/
theorem quiet_run {args : List String} (unplanned : ∀ plan, ¬ Plans args plan) :
    Quiet (run world args) := by
  have helped : Quiet (println help) := .of_follows (follows_println world help)
  rw [run.eq_def]
  split
  case h_8 words =>
      refine quiet_ofExcept_bind fun options read => quiet_safe world ?_
      rintro ⟨unconfirmed, plain, wet⟩
      exact unplanned _ (.safe read unconfirmed plain wet)
  case h_9 name words _ _ _ _ =>
      refine quiet_ofExcept_bind fun options read => ?_
      refine quiet_ofExcept_bind fun smoke found => quiet_found world ?_
      rintro ⟨confirmed, script, wet⟩
      obtain ⟨listed, rfl⟩ := findSmoke_eq_ok.mp found
      exact unplanned _ (.named listed read confirmed script wet)
  case h_4 | h_7 => exact quiet_printSmokeList
  case h_10 => exact quiet_throw _
  all_goals exact helped

/-- What a planned command takes: a line that names its smoke or the safe suite, without a dry
run, and for a smoke that changes the host its name and the confirmation. -/
def Authorises (args : List String) (invocation : Invocation) : Prop :=
  ∃ smoke ∈ smokes, ∃ name words, args = "smoke" :: name :: words ∧
    "--dry-run" ∉ optionWords words ∧
    (∃ passthrough, invocation ∈ smoke.commands passthrough) ∧
    (name = smoke.name ∨ name = "safe" ∧ smoke.inSafeSuite = true) ∧
    (smoke.safety = .hostMutating →
      name = smoke.name ∧ "--confirm-host-mutation" ∈ optionWords words)

theorem Plans.authorises {args : List String} {plan : List Invocation} (plans : Plans args plan)
    {invocation : Invocation} (planned : invocation ∈ plan) : Authorises args invocation := by
  cases plans with
  | @safe words options read unconfirmed plain wet =>
      obtain ⟨smoke, suite, command⟩ := List.mem_flatMap.mp planned
      obtain ⟨listed, inSuite⟩ := List.mem_filter.mp suite
      have dry : "--dry-run" ∉ optionWords words := by
        rw [← (parse_eq_ok read).1, wet]
        exact Bool.false_ne_true
      refine ⟨smoke, listed, "safe", words, rfl, dry, ⟨[], command⟩, .inr ⟨rfl, inSuite⟩, ?_⟩
      intro mutating
      rw [safeSuite_safe smoke suite] at mutating
      contradiction
  | @named words options smoke listed read confirmed script wet =>
      have dry : "--dry-run" ∉ optionWords words := by
        rw [← (parse_eq_ok read).1, wet]
        exact Bool.false_ne_true
      exact ⟨smoke, listed, smoke.name, words, rfl, dry, ⟨_, planned⟩, .inl rfl,
        fun mutating => ⟨rfl, (parse_eq_ok read).2.mp (confirmed mutating)⟩⟩

/-- A line with a plan starts the plan's commands up to the first that fails, and succeeds when
none does; a line without one starts nothing; and whatever is started is authorised. -/
theorem smoke_runs (args : List String) :
    ∃ outcome log, (run world args).run [] = ended outcome log ∧
      (∀ plan, Plans args plan →
        started log = (attempts (succeeds world) [] plan).1 ∧
          (outcome = .ok () ↔ (attempts (succeeds world) [] plan).2 = true)) ∧
      ((∀ plan, ¬ Plans args plan) → started log = []) ∧
      ∀ invocation ∈ started log, Authorises args invocation := by
  by_cases planned : ∃ plan, Plans args plan
  · obtain ⟨plan, plans⟩ := planned
    obtain ⟨outcome, log, ran, seen, done⟩ := follows_plan world plans []
    refine ⟨outcome, log, ran, ?_, ?_, ?_⟩
    · intro plan' plans'
      obtain ⟨outcome', log', ran', seen', done'⟩ := follows_plan world plans' []
      obtain ⟨rfl, rfl⟩ := ended_inj (ran.symm.trans ran')
      exact ⟨seen', done'⟩
    · intro unplanned
      exact absurd plans (unplanned plan)
    · intro invocation begun
      rw [seen] at begun
      exact plans.authorises (attempts_initial.mem begun)
  · have unplanned := not_exists.mp planned
    obtain ⟨outcome, log, ran, nothing⟩ := quiet_run world unplanned
    refine ⟨outcome, log, ran, fun plan plans => absurd plans (unplanned plan),
      fun _ => nothing, ?_⟩
    rw [nothing]
    exact nofun

end Runlane.Xtask
