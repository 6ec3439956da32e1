import TaskRunner.Proofs.Session.Queue

/-! The scripts behind a run.  What is captured of a run that could be walked over are the scripts
that the walk started for its actions, in the same order.  This holds as long as the walk meets
nothing that is not followed when scripts are collected: a file that is extended, a target that is
declared on the way and then run, or an initializer that is walked over. -/

namespace TaskRunner

variable {ω η α β : Type}

/-- The commands of the processes among some entries. -/
def Entry.commands (entries : List (Entry η)) : List String :=
  entries.filterMap fun entry =>
    match entry with
    | .text _ => none
    | .process command _ => some command

@[simp] theorem Entry.commands_append (entries more : List (Entry η)) :
    Entry.commands (entries ++ more) = Entry.commands entries ++ Entry.commands more :=
  List.filterMap_append ..

/-- The initializer gives its value without being walked over. -/
def Statement.isInitializer : Statement → Bool
  | .literal _ => true
  | .run _ => true
  | _ => false

/-- No file is extended at the point, and no initializer is walked over from it. -/
def Point.isStatic (point : Point ω η) : Bool :=
  match point.turn with
  | .statement (.extend _) => false
  | .statement (.config items) => items.all fun item => item.initializer.isInitializer
  | .statement (.var items) => items.all fun item => item.initializer.isInitializer
  | _ => true

/-- The point is one that is followed, or may be passed over, when scripts are collected in an
environment. -/
structure Point.IsCollected (env : Environment) (point : Point ω η) : Prop where
  isStatic : point.isStatic
  sameTarget : ∀ run, point.turn = .statement (.run run) →
    point.session.environment.targetOf run = env.targetOf run

namespace Session

variable {host : Host ω η} {env : Environment}

/-- Where no initializer is walked over, bindings lead to no other points. -/
theorem along_bindings_eq_nil {step : Binding → Walk ω η α}
    {inner : Statement → Session ω η → List β} {items : List Binding}
    (h : items.all fun item => item.initializer.isInitializer) (session : Session ω η) :
    Walk.along step (Binding.course inner) items session = [] := by
  induction items generalizing session with
  | nil => rfl
  | cons item rest ih =>
    obtain ⟨hitem, hrest⟩ := List.forall_mem_cons.1 (List.all_eq_true.1 h)
    have hnone : Binding.course inner item session = [] := by
      unfold Binding.course
      revert hitem
      cases item.initializer <;> simp [Statement.isInitializer]
    rw [Walk.along, hnone, List.nil_append]
    split
    · exact ih (List.all_eq_true.2 hrest) _
    · rfl

/-- An action that was started queued its script as a command, unless it is blank. -/
theorem commands_of_action_ok {fuel : Nat} {script : String} {session after : Session ω η}
    (h : action host fuel script session = (.ok (), after)) :
    Entry.commands (actionEntries host fuel script session) =
      if trimScript script = "" then [] else [trimScript script] := by
  by_cases hscript : trimScript script = ""
  · rw [actionEntries, if_pos hscript, if_pos hscript]
    rfl
  rw [actionEntries, if_neg hscript, if_neg hscript]
  rcases heach : Walk.each (resolve host fuel) session.environment.visible.entries session with
    ⟨result, resolved⟩
  cases result with
  | error halt =>
    rw [action_of_each_error hscript heach] at h
    cases h
  | ok exports =>
    rw [action_of_each_ok hscript heach, launch] at h
    dsimp only
    rcases hstart : host.start ⟨resolved.shell, trimScript script, exports⟩ resolved.world with
      ⟨started, world⟩
    rw [hstart] at h
    cases started with
    | error fault => cases h
    | ok process => rfl

/-- Lines of a description are no commands. -/
theorem commands_of_lines (lines : List String) :
    Entry.commands (lines.map fun line => (.text (descriptionLine line) : Entry η)) = [] := by
  induction lines with
  | nil => rfl
  | cons line rest ih => exact ih

/-- What is collected along a walk that came to its end. -/
theorem collected_along {fuel : Nat} {course : Statement → Session ω η → List (Point ω η)}
    (hstep : ∀ {statement : Statement} {session after : Session ω η} {value : Option String},
      execute host fuel statement session = (.ok value, after) →
      (∀ point ∈ course statement session, point.IsCollected env) →
        env.collected fuel statement =
          .ok (Entry.commands ((course statement session).flatMap (Point.entries host))))
    {statements : List Statement} {session after : Session ω η} {values : List (Option String)}
    (hends : Walk.each (execute host fuel) statements session = (.ok values, after))
    (hpoints : ∀ point ∈ Walk.along (execute host fuel) course statements session,
      point.IsCollected env) :
    ∃ found, statements.mapM (env.collected fuel) = .ok found ∧
      found.flatten = Entry.commands
        ((Walk.along (execute host fuel) course statements session).flatMap
          (Point.entries host)) := by
  induction statements generalizing session values with
  | nil => exact ⟨[], rfl, rfl⟩
  | cons statement rest ih =>
    obtain ⟨value, middle, more, hfirst, hrest, -⟩ := Walk.of_each_cons_ok hends
    rw [Walk.along, hfirst] at hpoints ⊢
    obtain ⟨hhere, hthere⟩ := List.forall_mem_append.1 hpoints
    obtain ⟨found, hfound, hflatten⟩ := ih hrest hthere
    refine ⟨Entry.commands ((course statement session).flatMap (Point.entries host)) :: found,
      ?_, ?_⟩
    · rw [List.mapM_cons, hstep hfirst hhere, hfound]
      rfl
    · rw [List.flatten_cons, hflatten, List.flatMap_append, Entry.commands_append]

/-- A run that could be walked over has a target, or names none, and so could its statements. -/
theorem of_runBlock_ok {step : Statement → Walk ω η (Option String)} {run : Run}
    {session after : Session ω η} (h : runBlock step run session = (.ok (), after)) :
    ∃ target values last, session.environment.targetOf run = .ok target ∧
      Walk.each step (run.body ++ target) { session with environment := session.environment.push } =
        (.ok values, last) := by
  change Walk.bind (Walk.ofExcept (orHalt (session.environment.targetOf run))) _ session = _ at h
  obtain ⟨target, middle, hfound, hscope⟩ := Walk.of_bind_ok h
  obtain ⟨values, outside, hbetween, -⟩ := Walk.of_bind_ok hscope
  cases htarget : session.environment.targetOf run with
  | error error =>
    rw [htarget] at hfound
    cases hfound
  | ok body =>
    rw [htarget] at hfound
    cases hfound
    rcases heach : Walk.each step (run.body ++ target)
      { session with environment := session.environment.push } with ⟨result, last⟩
    rw [Walk.between, heach] at hbetween
    cases hbetween
    exact ⟨target, values, last, rfl, heach⟩

/-- What is collected for a statement that could be walked over are the commands that the walk
queued. -/
theorem collected_of_execute (files : List String) {fuel : Nat} {statement : Statement}
    {session after : Session ω η} {value : Option String}
    (hends : execute host fuel statement session = (.ok value, after))
    (hpoints : ∀ point ∈ course host fuel files statement session, point.IsCollected env) :
    env.collected fuel statement =
      .ok (Entry.commands
        ((course host fuel files statement session).flatMap (Point.entries host))) := by
  induction fuel generalizing statement session after value with
  | zero => cases hends
  | succ fuel ih =>
    cases statement with
    | target name body => rfl
    | literal value => rfl
    | config items =>
      rw [course, List.forall_mem_cons] at hpoints
      rw [course, along_bindings_eq_nil hpoints.1.isStatic]
      rfl
    | var items =>
      rw [course, List.forall_mem_cons] at hpoints
      rw [course, along_bindings_eq_nil hpoints.1.isStatic]
      rfl
    | extend paths =>
      rw [course, List.forall_mem_cons] at hpoints
      exact absurd hpoints.1.isStatic (by simp [Point.isStatic])
    | describe lines =>
      have hlines : (course host (fuel + 1) files (.describe lines) session).flatMap
          (Point.entries host) = lines.map fun line => .text (descriptionLine line) :=
        List.append_nil _
      rw [hlines, commands_of_lines]
      rfl
    | action script =>
      obtain ⟨_, _, haction, -⟩ := Walk.of_bind_ok hends
      have hscript : (course host (fuel + 1) files (.action script) session).flatMap
          (Point.entries host) = actionEntries host fuel script session :=
        List.append_nil _
      rw [hscript, commands_of_action_ok haction]
      rfl
    | run run =>
      obtain ⟨_, _, hrun, -⟩ := Walk.of_bind_ok hends
      obtain ⟨target, values, last, htarget, heach⟩ := of_runBlock_ok hrun
      rw [course, List.forall_mem_cons] at hpoints
      obtain ⟨hhere, hinside⟩ := hpoints
      -- Both go on with the same statements, since the run has the same target in both.
      rw [runCourse, htarget] at hinside
      obtain ⟨found, hfound, hflatten⟩ := collected_along ih heach hinside
      have hsame : env.targetOf run = .ok target := (hhere.sameTarget run rfl).symm.trans htarget
      have hscripts : env.scriptsOf (fuel + 1) run = .ok found.flatten :=
        Environment.scriptsOf_eq_ok_iff.2 ⟨target, found, hsame, hfound, rfl⟩
      refine hscripts.trans (congrArg Except.ok ?_)
      rw [hflatten, course, List.flatMap_cons, runCourse, htarget]
      rfl

end Session

/-! ### Targets that stay -/

/-- A target is declared at the point. -/
def Point.declares (point : Point ω η) : Bool :=
  match point.turn with
  | .statement (.target _ _) => true
  | _ => false

/-- The targets of the scopes, from the innermost outward. -/
def Environment.targets (env : Environment) : List (Table (List Statement)) :=
  env.scopes.map Scope.targets

theorem Environment.targets_defineVariable (env : Environment) (name : String) (value : Value) :
    (env.defineVariable name value).targets = env.targets := by
  unfold defineVariable
  split <;> rfl

/-- Leaving a scope in which no target was declared leads back to the same targets. -/
theorem Environment.targets_pop_of_eq {env inside : Environment}
    (h : inside.targets = env.push.targets) : inside.pop.targets = env.targets := by
  obtain ⟨innermost, outer⟩ := inside
  cases outer with
  | nil => simp [targets, push, scopes] at h
  | cons scope rest => exact (List.cons.inj h).2

/-- The target of a run depends on nothing but the targets of the scopes. -/
theorem Environment.targetOf_eq_of_targets {env other : Environment}
    (h : env.targets = other.targets) (run : Run) : env.targetOf run = other.targetOf run := by
  unfold targetOf
  cases run.name with
  | none => rfl
  | some name => exact lookUp_congr h

theorem Environment.targetOf_push (env : Environment) (run : Run) :
    env.push.targetOf run = env.targetOf run := by
  unfold targetOf
  cases run.name with
  | none => rfl
  | some name => exact lookUp_push rfl env _ name

namespace Session

variable {host : Host ω η}

/-- Where no target is declared, the same targets are found all along. -/
def KeepsTargets (session : Session ω η) (points : List (Point ω η)) (after : Session ω η) : Prop :=
  (∀ point ∈ points, ¬point.declares) →
    after.environment.targets = session.environment.targets ∧
      ∀ point ∈ points, ∀ run,
        point.session.environment.targetOf run = session.environment.targetOf run

theorem isAccount_keepsTargets (host : Host ω η) :
    Walk.IsAccount host fun _ session points _ after => KeepsTargets session points after where
  none _ _ := fun _ => ⟨rfl, by simp⟩
  seq h h' := by
    intro hnone
    obtain ⟨hfirst, hlater⟩ := List.forall_mem_append.1 hnone
    obtain ⟨hmiddle, hpoints⟩ := h hfirst
    obtain ⟨hafter, hmore⟩ := h' hlater
    refine ⟨hafter.trans hmiddle, List.forall_mem_append.2 ⟨hpoints, fun point hpoint run => ?_⟩⟩
    exact (hmore point hpoint run).trans (Environment.targetOf_eq_of_targets hmiddle run)
  exhausted _ _ := fun _ => ⟨rfl, by simp⟩
  undefined _ _ _ _ _ := fun _ => ⟨rfl, by simp⟩
  invalid _ _ _ := fun _ => ⟨rfl, by simp⟩
  captured _ s fuel run := fun _ => by
    obtain ⟨world, hworld⟩ := snd_capture host fuel run s
    exact ⟨by rw [hworld], by simp⟩
  configured _ _ _ _ := fun _ => ⟨rfl, by simp⟩
  boundVariable _ _ _ _ := fun _ => ⟨Environment.targets_defineVariable _ _ _, by simp⟩
  declared _ _ _ _ _ := fun hnone => by simp [Point.declares] at hnone
  described _ _ _ _ := fun _ => ⟨rfl, by simp⟩
  acted _ s fuel script := fun _ => by
    obtain ⟨world, hworld⟩ := snd_action host fuel script s
    exact ⟨by rw [hworld], by simp⟩
  entered _ _ _ h := fun hnone => by
    obtain ⟨hafter, hpoints⟩ := h (List.forall_mem_cons.1 hnone).2
    exact ⟨hafter, List.forall_mem_cons.2 ⟨fun _ => rfl, hpoints⟩⟩
  scope h := fun hnone => by
    obtain ⟨hafter, hpoints⟩ := h hnone
    refine ⟨Environment.targets_pop_of_eq hafter, fun point hpoint run => ?_⟩
    exact (hpoints point hpoint run).trans (Environment.targetOf_push _ run)
  closed _ _ _ _ _ _ := fun _ => ⟨rfl, by simp⟩
  file _ _ _ _ _ hopened h := fun hnone => by
    obtain ⟨-, -, rfl⟩ := of_opened_ok hopened
    obtain ⟨hafter, hpoints⟩ := h (List.forall_mem_cons.1 hnone).2
    exact ⟨hafter, List.forall_mem_cons.2 ⟨fun _ => rfl, hpoints⟩⟩

/-- Where no target is declared, all runs on the way lead to the same targets as in the session that
the walk begins with. -/
theorem isCollected_of_not_declares {env : Environment} (fuel : Nat) {statement : Statement}
    {session : Session ω η} (hsame : session.environment.targets = env.targets)
    (hstatic : ∀ point ∈ course host fuel [] statement session, point.isStatic)
    (hnone : ∀ point ∈ course host fuel [] statement session, ¬point.declares) :
    ∀ point ∈ course host fuel [] statement session, point.IsCollected env := by
  have hkeeps := tells_execute (isAccount_keepsTargets host) fuel [] statement session hnone
  exact fun point hpoint => ⟨hstatic point hpoint, fun run _ =>
    (hkeeps.2 point hpoint run).trans (Environment.targetOf_eq_of_targets hsame run)⟩

/-! ### Captured runs -/

/-- A run that could be walked over is captured by running the scripts that the walk started, in the
same order, up to one that the shell cannot be started for.  The session in which it is captured may
be another one, as long as it is one in which the runs on the way lead to the same targets. -/
theorem capture_runs_executed_scripts (host : Host ω η) {fuel more : Nat} (hmore : fuel ≤ more)
    {run : Run} {session after other : Session ω η} {value : Option String}
    (hends : execute host fuel (.run run) session = (.ok value, after))
    (hpoints : ∀ point ∈ course host fuel [] (.run run) session,
      point.IsCollected other.environment) :
    ∃ started, after.queue = session.queue ++ started ∧
      ((∃ outcomes world,
          host.Runs (invocationsOf other.shell other.environment.texts (Entry.commands started))
            other.world outcomes world ∧
          capture host more run other = (.ok (capturedOf outcomes), { other with world })) ∨
        ∃ fault world,
          host.Stops (invocationsOf other.shell other.environment.texts (Entry.commands started))
            other.world fault world ∧
          capture host more run other =
            (.error (.error (.notStarted other.shell fault)), { other with world })) := by
  have hqueue := tells_execute (isAccount_queue host) fuel [] (.run run) session
  rw [hends] at hqueue
  exact ⟨_, hqueue, capture_of_scriptsOf host
    (Environment.scriptsOf_mono hmore (collected_of_execute [] hends hpoints))⟩

/-- A run with another one inside, and a blank script, captured as the value of a variable. -/
theorem capture_runs_executed_scripts_nested :
    let host := Host.recorded fun _ => ⟨⟨utf8 "done\n", [], []⟩, .code 0⟩
    let run : Run := ⟨some "build", [.run ⟨some "prepare", [], .before⟩], .during⟩
    let first := Environment.initial.defineTarget "prepare" [.action "mkdir out"]
    let environment := first.defineTarget "build"
      [.describe ["building"], .action " ", .action "cc a.c\n"]
    let session := { start host "runny.rny" [] with environment }
    let other := { session with environment := environment.defineVariable "log" (.pending run) }
    5 ≤ 6 ∧ (execute host 5 (.run run) session).1 = .ok none ∧
      (∀ point ∈ course host 5 [] (.run run) session, point.IsCollected other.environment) ∧
      Entry.commands (execute host 5 (.run run) session).2.queue = ["mkdir out", "cc a.c"] ∧
      ∃ outcomes world,
        host.Runs (invocationsOf other.shell other.environment.texts ["mkdir out", "cc a.c"])
          other.world outcomes world ∧
        capture host 6 run other = (.ok (capturedOf outcomes), { other with world }) := by
  intro host run first environment session other
  have hends : (execute host 5 (.run run) session).1 = .ok none := by decide +kernel
  have hpoints : ∀ point ∈ course host 5 [] (.run run) session,
      point.IsCollected other.environment :=
    isCollected_of_not_declares 5 (Environment.targets_defineVariable _ _ _).symm
      (by decide +kernel) (by decide +kernel)
  have hcommands : Entry.commands (execute host 5 (.run run) session).2.queue =
      ["mkdir out", "cc a.c"] := by decide +kernel
  obtain ⟨started, hqueue, hcaptured⟩ :=
    capture_runs_executed_scripts host (show 5 ≤ 6 by decide) (Prod.ext hends rfl) hpoints
  have hstarted : Entry.commands started = ["mkdir out", "cc a.c"] :=
    (congrArg Entry.commands hqueue.symm).trans hcommands
  rw [hstarted] at hcaptured
  refine ⟨by decide, hends, hpoints, hcommands, hcaptured.resolve_right ?_⟩
  rintro ⟨fault, world, -, hcapture⟩
  have hcaptured : (capture host 6 run other).1 = .ok "done\ndone" := by decide +kernel
  rw [hcapture] at hcaptured
  cases hcaptured

/-- A target that is declared by another one and run there.  The run can be walked over and starts
its one script, but what is captured of it is the error that its target is not defined. -/
theorem capture_misses_local_target :
    let host := Host.recorded fun _ => ⟨⟨utf8 "hi\n", [], []⟩, .code 0⟩
    let run : Run := ⟨some "greet", [], .during⟩
    let inside : Run := ⟨some "inner", [], .during⟩
    let body : Run := ⟨none, [.action "echo hi"], .during⟩
    let environment := Environment.initial.defineTarget "greet"
      [.target "inner" [.run body], .run inside]
    let session := { start host "runny.rny" [] with environment }
    (execute host 5 (.run run) session).1 = .ok none ∧
      (course host 5 [] (.run run) session).map Point.turn =
        ([.run run, .target "inner" [.run body], .run inside, .run body, .action "echo hi"].map
          Turn.statement) ∧
      Entry.commands (execute host 5 (.run run) session).2.queue = ["echo hi"] ∧
      ∀ fuel, (capture host (fuel + 2) run session).1 =
        .error (.error (.undefinedTarget "inner")) := by
  intro host run inside body environment session
  exact ⟨by decide +kernel, rfl, by decide +kernel, fun fuel => rfl⟩

end Session

end TaskRunner
