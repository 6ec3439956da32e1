import TaskRunner.Proofs.Session.Definitions
import TaskRunner.Proofs.Session.Matching
import TaskRunner.Proofs.Tree.Reading
import TaskRunner.Statement.Select

/-! What it means to select a target.  The runs of a file are dropped, and one run of the target
takes their place at the end.  What is kept of a file that extends no other only defines and
describes; so all that is started before that run is what the configuration captures, and the run
sees the last definition of every name, wherever in the file it stands. -/

namespace TaskRunner

variable {ω η α β : Type}

/-! ### Selected statements -/

namespace Statement

/-- The statements other than runs. -/
def kept (statements : List Statement) : List Statement :=
  statements.filter fun statement => !statement.isRun

/-- The run that a selection ends with. -/
def runOf (name : String) : Statement :=
  .run ⟨some name, [], .during⟩

variable {statements selected : List Statement} {name : String}

theorem mem_kept {statement : Statement} :
    statement ∈ kept statements ↔ statement ∈ statements ∧ ∀ run, statement ≠ .run run := by
  rw [kept, List.mem_filter]
  cases statement <;> simp [isRun]

theorem any_declares_iff :
    statements.any (declares name) = true ↔ ∃ body, .target name body ∈ statements := by
  rw [List.any_eq_true]
  constructor
  · rintro ⟨statement, hmem, hdeclares⟩
    cases statement with
    | target declared body =>
      obtain rfl := eq_of_beq hdeclares
      exact ⟨body, hmem⟩
    | _ => cases hdeclares
  · rintro ⟨body, hmem⟩
    exact ⟨_, hmem, beq_self_eq_true name⟩

theorem select_eq_ok_iff :
    select statements name = .ok selected ↔
      (∃ body, .target name body ∈ statements) ∧ selected = kept statements ++ [runOf name] := by
  rw [select, ← any_declares_iff]
  split
  next h => simp [h, kept, runOf, eq_comm]
  next h => simp [h]

theorem select_eq_error_iff {error : RunError} :
    select statements name = .error error ↔
      error = .undefinedTarget name ∧ ∀ body, .target name body ∉ statements := by
  rw [select, ← not_exists, ← any_declares_iff]
  split
  next h => simp [h]
  next h => simp [h, eq_comm]

/-- What is selected declares the same targets, and keeps the same statements if it is selected from
again. -/
theorem select_of_select_ok (h : select statements name = .ok selected) (other : String) :
    select selected other = select statements other := by
  obtain ⟨-, rfl⟩ := select_eq_ok_iff.1 h
  have hdeclares : (kept statements ++ [runOf name]).any (declares other) =
      statements.any (declares other) := by
    rw [Bool.eq_iff_iff, any_declares_iff, any_declares_iff]
    simp [mem_kept, runOf]
  have hkept : (kept statements ++ [runOf name]).filter (fun statement => !statement.isRun) =
      statements.filter fun statement => !statement.isRun := by
    simp [kept, runOf, isRun]
  rw [select, select, hdeclares, hkept]

/-- What is kept of a source text that extends no other only defines and describes. -/
theorem onlyDefines_of_mem_kept {source : String} {statements : List Statement}
    (h : parseSource source = .ok statements) (hextend : ∀ paths, .extend paths ∉ statements) :
    ∀ statement ∈ kept statements, statement.OnlyDefines := by
  obtain ⟨phrases, hsymbols, -, rfl⟩ := parseSource_eq_ok_iff.1 h
  intro statement hkept
  obtain ⟨hmem, hrun⟩ := mem_kept.1 hkept
  have hwell := wellFormed_of_mem (Grammar.Phrase.allWellFormed hsymbols) statement hmem
  cases statement with
  | config items => exact fun item hitem => (binding_of_mem hwell item hitem).2
  | var items => exact binding_of_mem hwell
  | target name body => exact hwell.1.ne_empty
  | run run => exact hrun run rfl
  | action script => exact hwell
  | extend paths => exact hextend paths hmem
  | describe lines => trivial
  | literal value => trivial

/-- Dropping the runs drops nothing that is read off other statements only. -/
theorem flatMap_kept {f : Statement → List α} (h : ∀ run, f (.run run) = [])
    (statements : List Statement) : (kept statements).flatMap f = statements.flatMap f := by
  induction statements with
  | nil => rfl
  | cons statement rest ih =>
    rw [kept] at ih ⊢
    rw [List.flatMap_cons, ← ih]
    cases statement with
    | run run => rw [List.filter_cons_of_neg Bool.false_ne_true, h, List.nil_append]
    | _ => exact List.flatMap_cons

end Statement

namespace Session

open Walk

variable {host : Host ω η} {fuel : Nat}

/-! ### Walks over selections -/

/-- What becomes of the statements that are kept: the walk comes to definitions and descriptions
only, it queues what is described, in the order in which it is written, it starts what is captured
for the configuration, and nothing but such a capture makes it fail. -/
structure OnlyPrepares (host : Host ω η) (fuel : Nat) (statements : List Statement)
    (session : Session ω η) : Prop where
  idle : ∀ point ∈ courseOf host (fuel + 1) statements session,
    ∃ statement ∈ statements, point.turn = .statement statement ∧ statement.OnlyDefines
  queued :
    let walked := each (execute host (fuel + 1)) statements session
    ∃ entries, entries <+: (statements.flatMap Statement.describedLines).map
          (fun line => Entry.text (descriptionLine line)) ∧
      walked.2.queue = session.queue ++ entries ∧
      ∀ values, walked.1 = .ok values →
        entries = (statements.flatMap Statement.describedLines).map
          fun line => .text (descriptionLine line)
  configured :
    (settingsAlong host fuel statements session).map (fun setting => (setting.1, setting.2.1)) <+:
      statements.flatMap Statement.definedSettings
  started :
    host.Starts
      (((settingsAlong host fuel statements session).flatMap (Setting.starts host fuel)).map
        Start.invocation)
      session.world (each (execute host (fuel + 1)) statements session).2.world
  failed {halt : Halt} :
    halt? (each (execute host (fuel + 1)) statements session).1 = some halt →
      ∃ setting ∈ settingsAlong host fuel statements session, setting.Fails host fuel halt

/-- In the later session, every name that the statements define stands for what its last definition
gives, and every other name for what it stood for before. -/
structure SeesLast (host : Host ω η) (fuel : Nat) (statements : List Statement)
    (settings : List (Setting ω η)) (session inside : Session ω η) : Prop where
  lastVariable {name : String} {initializer : Statement} :
    IsLast name initializer (statements.flatMap Statement.definedVariables) →
      ∃ value, initializer.Gives value ∧ inside.environment.getVariable name = .ok value
  lastTarget {name : String} {body : List Statement} :
    IsLast name body (statements.flatMap Statement.definedTargets) →
      inside.environment.getTarget name = .ok (Statement.sortByStage body)
  lastSetting {name : String} {initializer : Statement} :
    IsLast name initializer (statements.flatMap Statement.definedSettings) →
      ∃ reached value, IsLast name (initializer, reached) settings ∧
        Sets host fuel (initializer, reached) value ∧ inside.config.get? name = some value
  otherVariable {name : String} :
    name ∉ (statements.flatMap Statement.definedVariables).map Prod.fst →
      inside.environment.getVariable name = session.environment.getVariable name
  otherTarget {name : String} :
    name ∉ (statements.flatMap Statement.definedTargets).map Prod.fst →
      inside.environment.getTarget name = session.environment.getTarget name
  otherSetting {name : String} :
    name ∉ (statements.flatMap Statement.definedSettings).map Prod.fst →
      inside.config.get? name = session.config.get? name

/-- The walk over what is selected for a target.  If the statements that are kept fail, so does it.
Else the last target of that name is walked over, in a scope of its own in which the last definition
of every name is seen, and nothing else is come to or started. -/
structure RunsOnly (host : Host ω η) (fuel : Nat) (statements selected : List Statement)
    (name : String) (session : Session ω η) : Prop where
  prepares : OnlyPrepares host fuel (Statement.kept statements) session
  started :
    host.Starts ((startsOf host (fuel + 1) selected session).map Start.invocation) session.world
      (each (execute host (fuel + 1)) selected session).2.world
  failed {halt : Halt} {before : Session ω η} :
    each (execute host (fuel + 1)) (Statement.kept statements) session = (.error halt, before) →
      each (execute host (fuel + 1)) selected session = (.error halt, before)
  runs {values : List (Option String)} {before : Session ω η} :
    each (execute host (fuel + 1)) (Statement.kept statements) session = (.ok values, before) →
      let inside := { before with environment := before.environment.push }
      SeesLast host fuel statements (settingsAlong host fuel (Statement.kept statements) session)
          session inside ∧
        ∃ body, IsLast name body (statements.flatMap Statement.definedTargets) ∧
          let walked := each (execute host fuel) (Statement.sortByStage body) inside
          let ended := each (execute host (fuel + 1)) selected session
          halt? ended.1 = halt? walked.1 ∧
            ended.2 = { walked.2 with environment := walked.2.environment.pop } ∧
            courseOf host (fuel + 1) selected session =
              courseOf host (fuel + 1) (Statement.kept statements) session ++
                ⟨fuel, [], .statement (Statement.runOf name), before⟩ ::
                  along (execute host fuel) (course host fuel []) (Statement.sortByStage body)
                    inside ∧
            startsOf host (fuel + 1) selected session =
              (settingsAlong host fuel (Statement.kept statements) session).flatMap
                  (Setting.starts host fuel) ++
                along (execute host fuel) (starts host fuel) (Statement.sortByStage body) inside

section

variable {statements : List Statement}

/-- A run defines nothing. -/
theorem Defines.of_kept {settings : List (Setting ω η)} {session after : Session ω η}
    (h : Defines host fuel (Statement.kept statements) settings session after) :
    Defines host fuel statements settings session after where
  values := by
    rw [← Statement.flatMap_kept (fun _ => rfl)]
    exact h.values
  targets := by
    rw [← Statement.flatMap_kept (fun _ => rfl)]
    exact h.targets
  config := h.config

theorem onlyPrepares (host : Host ω η) (fuel : Nat)
    (h : ∀ statement ∈ statements, statement.OnlyDefines) (session : Session ω η) :
    OnlyPrepares host fuel statements session where
  idle point hpoint := by
    obtain ⟨statement, hmem, reached, hpoint⟩ := exists_of_mem_along hpoint
    rw [course_of_onlyDefines (h statement hmem), List.mem_singleton] at hpoint
    exact ⟨statement, hmem, by rw [hpoint], h statement hmem⟩
  queued := queue_of_onlyDefines h session
  configured := (settings_isPrefix host fuel statements session).1
  started := by
    rw [← startsOf_of_onlyDefines h]
    exact (reports_along (reports_execute host (fuel + 1)) statements session).started
  failed hends :=
    exists_of_each_halt (fun statement hmem => fails_of_execute (h statement hmem)) hends

theorem Defines.seesLast {settings : List (Setting ω η)} {session after : Session ω η}
    (h : Defines host fuel statements settings session after)
    (hsettings : settings.map (fun setting => (setting.1, setting.2.1)) =
      statements.flatMap Statement.definedSettings)
    (houter : after.environment.outer = session.environment.outer) :
    SeesLast host fuel statements settings session
      { after with environment := after.environment.push } where
  lastVariable hlast := by
    obtain ⟨value, hvalue, hget⟩ := h.values.last hlast
    exact ⟨value, hvalue, (Environment.lookUp_push rfl _ _ _).trans
      (Environment.lookUp_of_innermost hget)⟩
  lastTarget hlast := by
    obtain ⟨_, rfl, hget⟩ := h.targets.last hlast
    exact (Environment.lookUp_push rfl _ _ _).trans (Environment.lookUp_of_innermost hget)
  lastSetting hlast := by
    rw [← hsettings] at hlast
    obtain ⟨⟨_, reached⟩, rfl, hreached⟩ := hlast.of_map
    obtain ⟨value, hvalue, hget⟩ := h.config.last hreached
    exact ⟨reached, value, hreached, hvalue, hget⟩
  otherVariable hname := (Environment.lookUp_push rfl _ _ _).trans
    (Environment.lookUp_eq_of_innermost (h.values.rest hname) houter)
  otherTarget hname := (Environment.lookUp_push rfl _ _ _).trans
    (Environment.lookUp_eq_of_innermost (h.targets.rest hname) houter)
  otherSetting hname := by
    refine h.config.rest fun hmem => hname ?_
    rw [← hsettings, List.map_map]
    exact hmem

theorem runCourse_of_targetOf {step : Statement → Walk ω η (Option String)}
    {course : Statement → Session ω η → List β} {run : Run} {session : Session ω η}
    {target : List Statement} (h : session.environment.targetOf run = .ok target) :
    runCourse step course run session = along step course (run.body ++ target)
      { session with environment := session.environment.push } := by
  rw [runCourse, h]

/-- The walk over a selection that comes to its last run ends as the walk over the target does. -/
theorem each_selected {statements : List Statement} {name : String} {target : List Statement}
    {session before : Session ω η} {values : List (Option String)}
    (hkept : each (execute host (fuel + 1)) statements session = (.ok values, before))
    (htarget : before.environment.targetOf ⟨some name, [], .during⟩ = .ok target) :
    let inside := { before with environment := before.environment.push }
    let walked := each (execute host fuel) target inside
    let ended := each (execute host (fuel + 1)) (statements ++ [Statement.runOf name]) session
    halt? ended.1 = halt? walked.1 ∧
      ended.2 = { walked.2 with environment := walked.2.environment.pop } := by
  intro inside walked ended
  have hrun : execute host (fuel + 1) (Statement.runOf name) before =
      (walked.1.map fun _ => none, { walked.2 with environment := walked.2.environment.pop }) :=
    execute_run_of_targetOf host fuel htarget
  have hended : ended = Walk.bind (each (execute host (fuel + 1)) [Statement.runOf name])
      (fun others => Walk.pure (values ++ others)) before := by
    show each (execute host (fuel + 1)) (statements ++ [Statement.runOf name]) session = _
    rw [each_append, bind_ok hkept]
  rw [hended, bind_pure_apply, each]
  cases hresult : walked.1 with
  | ok results =>
    rw [hresult] at hrun
    rw [bind_ok hrun]
    exact ⟨rfl, rfl⟩
  | error halt =>
    rw [hresult] at hrun
    rw [bind_error hrun]
    exact ⟨rfl, rfl⟩

theorem runsOnly (host : Host ω η) (fuel : Nat) {statements : List Statement} {name : String}
    (hdeclared : ∃ body, .target name body ∈ statements)
    (h : ∀ statement ∈ Statement.kept statements, statement.OnlyDefines) (session : Session ω η) :
    RunsOnly host fuel statements (Statement.kept statements ++ [Statement.runOf name]) name session
    where
  prepares := onlyPrepares host fuel h session
  started := (reports_along (reports_execute host (fuel + 1)) _ session).started
  failed hkept := by
    rw [each_append, bind_error hkept]
  runs {values before} hkept := by
    intro inside
    have hcontinues := continues_each host (fuel + 1) (Statement.kept statements) session
    have hsettings := (settings_isPrefix host fuel (Statement.kept statements) session).2 values
      (by rw [hkept])
    rw [hkept] at hcontinues
    -- No run defines anything, so what is kept defines all that the file does.
    rw [Statement.flatMap_kept (fun _ => rfl)] at hsettings
    have hsees := (defines_each h hkept).of_kept.seesLast hsettings hcontinues.outer
    obtain ⟨written, hwritten⟩ := hdeclared
    obtain ⟨body, hbody⟩ : ∃ body, IsLast name body (statements.flatMap Statement.definedTargets) :=
      exists_isLast (List.mem_map.2 ⟨(name, written),
        List.mem_flatMap.2 ⟨_, hwritten, List.mem_singleton.2 rfl⟩, rfl⟩)
    have htarget : before.environment.targetOf ⟨some name, [], .during⟩ =
        .ok (Statement.sortByStage body) := hsees.lastTarget hbody
    obtain ⟨hhalt, hafter⟩ := each_selected hkept htarget
    refine ⟨hsees, body, hbody, hhalt, hafter, ?_, ?_⟩
    · rw [courseOf, along_concat hkept, Statement.runOf, course, runCourse_of_targetOf htarget]
      rfl
    · rw [startsOf, along_concat hkept, Statement.runOf, starts, runCourse_of_targetOf htarget,
        ← startsOf_of_onlyDefines h]
      rfl

/-- What it means to select a target.  It fails just if no statement declares a target of that name,
and what is selected can be selected from again as if it were the file.  For a source text that
extends no other, what is queued before the run of the target are descriptions, no other run has
started anything, and the run sees the last definition of every name. -/
theorem select_runs_only_target (host : Host ω η) :
    (∀ statements name error, Statement.select statements name = .error error ↔
        error = .undefinedTarget name ∧ ∀ body, .target name body ∉ statements) ∧
      (∀ statements name selected, Statement.select statements name = .ok selected →
        ∀ other, Statement.select selected other = Statement.select statements other) ∧
      ∀ source statements name selected, parseSource source = .ok statements →
        (∀ paths, .extend paths ∉ statements) →
          Statement.select statements name = .ok selected →
            ∀ fuel session, RunsOnly host fuel statements selected name session := by
  refine ⟨fun _ _ _ => Statement.select_eq_error_iff,
    fun _ _ _ hselect => Statement.select_of_select_ok hselect, ?_⟩
  intro source statements name selected hparse hextend hselect fuel session
  obtain ⟨hdeclared, rfl⟩ := Statement.select_eq_ok_iff.1 hselect
  exact runsOnly host fuel hdeclared (Statement.onlyDefines_of_mem_kept hparse hextend) session

/-- A target and a variable that are defined again after a run that is dropped, and a shell that is
configured there. -/
theorem select_runs_only_target_redefined :
    let source := "target a \x7b run \x7b old \x7d \x7d var \x7b x 1 \x7d run \x7b top \x7d\n" ++
      "config \x7b shell \x7b run \x7b pick \x7d \x7d \x7d desc \x7b \"hi\" \x7d\n" ++
      "var \x7b x 2 \x7d target a \x7b run \x7b new \x7d \x7d\n"
    let script (text : String) : Statement := .run ⟨none, [.action text], .during⟩
    let statements : List Statement :=
      [.target "a" [script "old"], .var [⟨"x", .literal (.number "1")⟩], script "top",
        .config [⟨"shell", script "pick"⟩], .describe ["hi"],
        .var [⟨"x", .literal (.number "2")⟩], .target "a" [script "new"]]
    let host := Host.recorded fun _ => ⟨⟨utf8 "zsh", [], []⟩, .code 0⟩
    let session := start host "runny.rny" []
    parseSource source = .ok statements ∧ (∀ paths, .extend paths ∉ statements) ∧
      ∃ selected, Statement.select statements "a" = .ok selected ∧
        RunsOnly host 4 statements selected "a" session ∧
        (startsOf host 5 selected session).map Start.invocation =
          [⟨"sh", "pick", [("x", "1")]⟩, ⟨"zsh", "new", [("x", "2")]⟩] ∧
        (each (execute host 5) selected session).2.queue =
          [.text "> hi\n", .text "new\n", .process "new" 1] := by
  intro source script statements host session
  have hparse : parseSource source = .ok statements := by
    refine parseSource_eq_ok_iff.2 ⟨[.target "a" [.run .during (.block [.script "old"])],
      .var [.binding "x" (.literal (.number "1"))], .run .during (.block [.script "top"]),
      .config [.binding "shell" (.run .during (.block [.script "pick"]))], .describe [some "hi"],
      .var [.binding "x" (.literal (.number "2"))],
      .target "a" [.run .during (.block [.script "new"])]], ?_, ?_, rfl⟩
    · decide +kernel
    · decide
  have hextend : ∀ paths, .extend paths ∉ statements := by simp [statements, script]
  have hselect : Statement.select statements "a" =
      .ok (Statement.kept statements ++ [Statement.runOf "a"]) := rfl
  exact ⟨hparse, hextend, _, hselect,
    (select_runs_only_target host).2.2 source statements "a" _ hparse hextend hselect 4 session,
    by decide +kernel, by decide +kernel⟩

end

end Session

end TaskRunner
