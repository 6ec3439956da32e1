import TaskRunner.Proofs.Environment.View
import TaskRunner.Proofs.Session.Steady
import TaskRunner.Proofs.Session.Values

/-! What an action starts.  Before its own script, the scripts behind the visible variables are run
to their ends, one after the other, in the order of the names; what they are given, and what the
action is given, depends on nothing but the bindings that can be seen.  The relations here say so
without fuel and without the functions of the session; what these compute is related to them. -/

namespace TaskRunner

variable {ω η : Type}

/-! ### Rows of scripts -/

/-- From one world to the other, the scripts were run to their ends, one after the other, with these
outcomes. -/
inductive Host.Runs (host : Host ω η) : List Invocation → ω → List Outcome → ω → Prop where
  | nil (world : ω) : host.Runs [] world [] world
  | cons {invocation : Invocation} {rest : List Invocation} {process : η} {outcomes : List Outcome}
      {world started after : ω} (hstart : host.start invocation world = (.ok process, started))
      (hrest : host.Runs rest (host.finish process started).2 outcomes after) :
      host.Runs (invocation :: rest) world ((host.finish process started).1 :: outcomes) after

/-- From one world to the other, the scripts were run to their ends, one after the other, up to one
that could not be started. -/
inductive Host.Stops (host : Host ω η) : List Invocation → ω → Fault → ω → Prop where
  | refused {invocation : Invocation} {rest : List Invocation} {fault : Fault} {world after : ω}
      (hstart : host.start invocation world = (.error fault, after)) :
      host.Stops (invocation :: rest) world fault after
  | later {invocation : Invocation} {rest : List Invocation} {process : η} {fault : Fault}
      {world started after : ω} (hstart : host.start invocation world = (.ok process, started))
      (hrest : host.Stops rest (host.finish process started).2 fault after) :
      host.Stops (invocation :: rest) world fault after

theorem Host.Runs.append {host : Host ω η} {invocations others : List Invocation}
    {outcomes more : List Outcome} {world middle after : ω}
    (h : host.Runs invocations world outcomes middle) (hmore : host.Runs others middle more after) :
    host.Runs (invocations ++ others) world (outcomes ++ more) after := by
  induction h with
  | nil world => exact hmore
  | cons hstart _ ih => exact .cons hstart (ih hmore)

/-- The scripts, for a shell and with additions to the environment. -/
def invocationsOf (shell : String) (exports : List (String × String)) (scripts : List String) :
    List Invocation :=
  scripts.map fun script => ⟨shell, script, exports⟩

/-- What is captured of the outcomes: the outputs, each followed by the messages. -/
def capturedOf (outcomes : List Outcome) : String :=
  capturedText (outcomes.flatMap fun outcome => outcome.stdout ++ outcome.stderr)

/-! ### Scripts behind a variable -/

/-- The scripts that statements lead to in an environment: those of their actions, trimmed, and of
their runs, where the body of a run comes before its target.  Nothing else counts. -/
inductive Collects (env : Environment) : List Statement → List String → Prop where
  | nil : Collects env [] []
  | action {script kept : String} {rest : List Statement} {scripts : List String}
      (hkept : Trims script kept) (hsolid : isBlankText script.toList = false)
      (hrest : Collects env rest scripts) :
      Collects env (.action script :: rest) (kept :: scripts)
  | blank {script : String} {rest : List Statement} {scripts : List String}
      (hblank : isBlankText script.toList = true) (hrest : Collects env rest scripts) :
      Collects env (.action script :: rest) scripts
  | run {run : Run} {target rest : List Statement} {inner scripts : List String}
      (htarget : env.targetOf run = .ok target) (hinner : Collects env (run.body ++ target) inner)
      (hrest : Collects env rest scripts) : Collects env (.run run :: rest) (inner ++ scripts)
  | other {statement : Statement} {rest : List Statement} {scripts : List String}
      (haction : ∀ script, statement ≠ .action script) (hrun : ∀ run, statement ≠ .run run)
      (hrest : Collects env rest scripts) : Collects env (statement :: rest) scripts

/-- The first target without a definition that statements lead to in an environment. -/
inductive Misses (env : Environment) : List Statement → String → Prop where
  | here {run : Run} {name : String} {rest : List Statement}
      (htarget : env.targetOf run = .error (.undefinedTarget name)) :
      Misses env (.run run :: rest) name
  | inside {run : Run} {name : String} {target rest : List Statement}
      (htarget : env.targetOf run = .ok target)
      (hinner : Misses env (run.body ++ target) name) : Misses env (.run run :: rest) name
  | later {statement : Statement} {name : String} {rest : List Statement} {scripts : List String}
      (hfirst : Collects env [statement] scripts) (hrest : Misses env rest name) :
      Misses env (statement :: rest) name

theorem Collects.append {env : Environment} {statements others : List Statement}
    {scripts more : List String} (h : Collects env statements scripts)
    (hmore : Collects env others more) : Collects env (statements ++ others) (scripts ++ more) := by
  induction h with
  | nil => exact hmore
  | action hkept hsolid _ ih => exact .action hkept hsolid ih
  | blank hblank _ ih => exact .blank hblank ih
  | run htarget hinner _ _ ih =>
    rw [List.append_assoc]
    exact .run htarget hinner ih
  | other haction hrun _ ih => exact .other haction hrun ih

theorem Misses.cons {env : Environment} {statement : Statement} {name : String}
    (h : Misses env [statement] name) (rest : List Statement) :
    Misses env (statement :: rest) name := by
  cases h with
  | here htarget => exact .here htarget
  | inside htarget hinner => exact .inside htarget hinner
  | later _ hrest => cases hrest

theorem Environment.targetOf_error {env : Environment} {run : Run} {error : RunError}
    (h : env.targetOf run = .error error) : ∃ name, error = .undefinedTarget name := by
  rw [targetOf] at h
  split at h
  · cases h
  · exact ⟨_, (lookUp_eq_error_iff.1 h).1⟩

section

variable {α β ε : Type} {f : α → Except ε β} {a : α} {rest : List α}

theorem mapM_cons_eq_ok_iff {values : List β} :
    (a :: rest).mapM f = .ok values ↔
      ∃ value more, f a = .ok value ∧ rest.mapM f = .ok more ∧ value :: more = values := by
  rw [List.mapM_cons]
  cases f a with
  | error error => simp [bind, Except.bind]
  | ok value => cases rest.mapM f <;> simp [bind, Except.bind, pure, Except.pure]

theorem mapM_cons_eq_error_iff {error : ε} :
    (a :: rest).mapM f = .error error ↔
      f a = .error error ∨ ∃ value, f a = .ok value ∧ rest.mapM f = .error error := by
  rw [List.mapM_cons]
  cases f a with
  | error error => simp [bind, Except.bind]
  | ok value => cases rest.mapM f <;> simp [bind, Except.bind, pure, Except.pure]

/-- Where another step yields the same unless the first fails in one way, it does so in a list. -/
theorem mapM_eq_of_ne {g : α → Except ε β} {items : List α} (error : ε)
    (h : ∀ item ∈ items, f item ≠ .error error → g item = f item)
    (hne : items.mapM f ≠ .error error) : items.mapM g = items.mapM f := by
  induction items with
  | nil => rfl
  | cons item rest ih =>
    obtain ⟨hitem, hrest⟩ := List.forall_mem_cons.1 h
    rw [List.mapM_cons] at hne
    have hfirst : f item ≠ .error error := fun heq => hne (by rw [heq]; rfl)
    rw [List.mapM_cons, List.mapM_cons, hitem hfirst]
    cases hvalue : f item with
    | error other => rfl
    | ok value =>
      have hmore : rest.mapM f ≠ .error error := fun heq => hne (by rw [hvalue, heq]; rfl)
      rw [ih hrest hmore]

end

namespace Environment

variable {env : Environment} {fuel : Nat} {run : Run}

/-- The scripts that a statement of a run leads to. -/
def collected (env : Environment) (fuel : Nat) (statement : Statement) :
    Except Halt (List String) :=
  match statement with
  | .action script => .ok (if trimScript script = "" then [] else [trimScript script])
  | .run nested => env.scriptsOf fuel nested
  | _ => .ok []

theorem scriptsOf_succ (env : Environment) (fuel : Nat) (run : Run) :
    env.scriptsOf (fuel + 1) run =
      (do
        let target ← orHalt (env.targetOf run)
        let found ← (run.body ++ target).mapM (env.collected fuel)
        return found.flatten) := by
  rw [scriptsOf]
  rfl

/-- The scripts of a run are those of its body and of its target, if it has one or names none. -/
theorem scriptsOf_eq_ok_iff {scripts : List String} :
    env.scriptsOf (fuel + 1) run = .ok scripts ↔
      ∃ target found, env.targetOf run = .ok target ∧
        (run.body ++ target).mapM (env.collected fuel) = .ok found ∧ found.flatten = scripts := by
  rw [scriptsOf_succ]
  cases env.targetOf run with
  | error error => simp [orHalt, bind, Except.bind]
  | ok target =>
    simp only [orHalt, bind, Except.bind, Except.ok.injEq, exists_eq_left', exists_and_left]
    cases (run.body ++ target).mapM (env.collected fuel) <;> simp [pure, Except.pure]

theorem scriptsOf_eq_error_iff {halt : Halt} :
    env.scriptsOf (fuel + 1) run = .error halt ↔
      (∃ error, env.targetOf run = .error error ∧ .error error = halt) ∨
        ∃ target, env.targetOf run = .ok target ∧
          (run.body ++ target).mapM (env.collected fuel) = .error halt := by
  rw [scriptsOf_succ]
  cases env.targetOf run with
  | error error => simp [orHalt, bind, Except.bind]
  | ok target =>
    simp only [orHalt, bind, Except.bind, reduceCtorEq, false_and, exists_false, false_or,
      Except.ok.injEq, exists_eq_left']
    cases (run.body ++ target).mapM (env.collected fuel) <;> simp [pure, Except.pure]

/-- What is found for a statement is what it leads to, if that is so for runs. -/
theorem collects_of_collected
    (hruns : ∀ {run scripts}, env.scriptsOf fuel run = .ok scripts →
      Collects env [.run run] scripts) {statement : Statement} {scripts : List String}
    (h : env.collected fuel statement = .ok scripts) : Collects env [statement] scripts := by
  cases statement with
  | action script =>
    cases h
    split
    next hblank => exact .blank (trimScript_eq_empty_iff.1 hblank) .nil
    next hsolid =>
      rw [trimScript_eq_empty_iff, Bool.not_eq_true] at hsolid
      exact .action (trims_iff.2 rfl) hsolid .nil
  | run nested => exact hruns h
  | _ =>
    cases h
    exact .other (by simp) (by simp) .nil

theorem collects_of_mapM
    (hruns : ∀ {run scripts}, env.scriptsOf fuel run = .ok scripts →
      Collects env [.run run] scripts) {statements : List Statement} {found : List (List String)}
    (h : statements.mapM (env.collected fuel) = .ok found) :
    Collects env statements found.flatten := by
  induction statements generalizing found with
  | nil =>
    cases h
    exact .nil
  | cons statement rest ih =>
    obtain ⟨first, more, hfirst, hmore, rfl⟩ := mapM_cons_eq_ok_iff.1 h
    exact (collects_of_collected hruns hfirst).append (ih hmore)

/-- The scripts that are found for a run are those that it leads to. -/
theorem collects_of_scriptsOf {scripts : List String} (h : env.scriptsOf fuel run = .ok scripts) :
    Collects env [.run run] scripts := by
  induction fuel generalizing run scripts with
  | zero => cases h
  | succ fuel ih =>
    obtain ⟨target, found, htarget, hfound, rfl⟩ := scriptsOf_eq_ok_iff.1 h
    rw [← List.append_nil found.flatten]
    exact .run htarget (collects_of_mapM ih hfound) .nil

/-- What cannot be found for statements leads to a target without a definition, if that is so for
runs. -/
theorem misses_of_mapM
    (hruns : ∀ {run error}, env.scriptsOf fuel run = .error (.error error) →
      ∃ name, error = .undefinedTarget name ∧ Misses env [.run run] name)
    {statements : List Statement} {error : RunError}
    (h : statements.mapM (env.collected fuel) = .error (.error error)) :
    ∃ name, error = .undefinedTarget name ∧ Misses env statements name := by
  induction statements with
  | nil => cases h
  | cons statement rest ih =>
    rcases mapM_cons_eq_error_iff.1 h with hfirst | ⟨scripts, hfirst, hrest⟩
    · cases statement with
      | run nested =>
        obtain ⟨name, hname, hmisses⟩ := hruns hfirst
        exact ⟨name, hname, hmisses.cons rest⟩
      | _ => cases hfirst
    · obtain ⟨name, hname, hmisses⟩ := ih hrest
      exact ⟨name, hname, .later (collects_of_collected collects_of_scriptsOf hfirst) hmisses⟩

/-- A run whose scripts cannot be found leads to a target without a definition, or it has not been
followed to its end. -/
theorem scriptsOf_error {halt : Halt} (h : env.scriptsOf fuel run = .error halt) :
    halt = .exhausted ∨
      ∃ name, halt = .error (.undefinedTarget name) ∧ Misses env [.run run] name := by
  cases halt with
  | exhausted => exact .inl rfl
  | error error =>
    suffices hmisses : ∃ name, error = .undefinedTarget name ∧ Misses env [.run run] name by
      obtain ⟨name, rfl, hname⟩ := hmisses
      exact .inr ⟨name, rfl, hname⟩
    induction fuel generalizing run error with
    | zero => cases h
    | succ fuel ih =>
      rcases scriptsOf_eq_error_iff.1 h with ⟨_, htarget, heq⟩ | ⟨target, htarget, hfound⟩
      · cases heq
        obtain ⟨name, rfl⟩ := targetOf_error htarget
        exact ⟨name, rfl, .here htarget⟩
      · obtain ⟨name, hname, hmisses⟩ := misses_of_mapM (fun hrun => ih _ hrun) hfound
        exact ⟨name, hname, .inside htarget hmisses⟩

/-- A run that was followed to its end leads to the same scripts, or fails in the same way, if it
may be followed further. -/
theorem scriptsOf_eq_of_le {more : Nat} (hle : fuel ≤ more)
    (h : env.scriptsOf fuel run ≠ .error .exhausted) :
    env.scriptsOf more run = env.scriptsOf fuel run := by
  induction fuel generalizing more run with
  | zero => exact absurd rfl h
  | succ fuel ih =>
    obtain ⟨more, rfl⟩ : ∃ less, more = less + 1 := Nat.exists_eq_succ_of_ne_zero (by omega)
    rw [scriptsOf_succ] at h
    rw [scriptsOf_succ, scriptsOf_succ]
    cases htarget : orHalt (env.targetOf run) with
    | error halt => rfl
    | ok target =>
      rw [htarget] at h
      refine congrArg (fun found => Except.bind found fun found => Except.ok found.flatten)
        (mapM_eq_of_ne Halt.exhausted (fun statement _ hne => ?_) fun heq => h ?_)
      · -- Only nested runs spend fuel.
        cases statement with
        | run nested => exact ih (by omega) hne
        | _ => rfl
      · simp only [bind, Except.bind]
        rw [heq]

/-- With more fuel, no other scripts are found. -/
theorem scriptsOf_mono {more : Nat} (hle : fuel ≤ more) {scripts : List String}
    (h : env.scriptsOf fuel run = .ok scripts) : env.scriptsOf more run = .ok scripts := by
  rw [scriptsOf_eq_of_le hle (by simp [h]), h]

theorem mapM_collected_mono {more : Nat} (hle : fuel ≤ more) {statements : List Statement}
    {found : List (List String)} (h : statements.mapM (env.collected fuel) = .ok found) :
    statements.mapM (env.collected more) = .ok found := by
  rw [← h]
  refine mapM_eq_of_ne Halt.exhausted (fun statement _ hne => ?_) (by simp [h])
  cases statement with
  | run nested => exact scriptsOf_eq_of_le hle hne
  | _ => rfl

/-- What statements lead to is found with enough fuel. -/
theorem exists_mapM_of_collects {statements : List Statement} {scripts : List String}
    (h : Collects env statements scripts) :
    ∃ fuel found, statements.mapM (env.collected fuel) = .ok found ∧ found.flatten = scripts := by
  induction h with
  | nil => exact ⟨0, [], rfl, rfl⟩
  | @action script kept rest scripts hkept hsolid _ ih =>
    obtain ⟨fuel, found, hfound, rfl⟩ := ih
    have hne : trimScript script ≠ "" := by simp [trimScript_eq_empty_iff, hsolid]
    refine ⟨fuel, [kept] :: found, mapM_cons_eq_ok_iff.2 ⟨[kept], found, ?_, hfound, rfl⟩, rfl⟩
    rw [collected, if_neg hne, trims_iff.1 hkept]
  | blank hblank _ ih =>
    obtain ⟨fuel, found, hfound, rfl⟩ := ih
    refine ⟨fuel, [] :: found, mapM_cons_eq_ok_iff.2 ⟨[], found, ?_, hfound, rfl⟩, rfl⟩
    rw [collected, if_pos (trimScript_eq_empty_iff.2 hblank)]
  | run htarget _ _ hinner hrest =>
    obtain ⟨fuel, found, hfound, rfl⟩ := hinner
    obtain ⟨more, others, hothers, rfl⟩ := hrest
    have hrun := scriptsOf_mono (Nat.le_max_left (fuel + 1) more)
      (scriptsOf_eq_ok_iff.2 ⟨_, found, htarget, hfound, rfl⟩)
    exact ⟨_, found.flatten :: others, mapM_cons_eq_ok_iff.2 ⟨found.flatten, others, hrun,
      mapM_collected_mono (Nat.le_max_right (fuel + 1) more) hothers, rfl⟩, rfl⟩
  | @other statement rest scripts haction hrun _ ih =>
    obtain ⟨fuel, found, hfound, rfl⟩ := ih
    refine ⟨fuel, [] :: found, mapM_cons_eq_ok_iff.2 ⟨[], found, ?_, hfound, rfl⟩, rfl⟩
    cases statement with
    | action script => exact absurd rfl (haction script)
    | run nested => exact absurd rfl (hrun nested)
    | _ => rfl

/-- The scripts that a run leads to are those that are found for it with enough fuel. -/
theorem collects_iff {scripts : List String} :
    Collects env [.run run] scripts ↔ ∃ fuel, env.scriptsOf fuel run = .ok scripts := by
  constructor
  · intro h
    obtain ⟨fuel, found, hfound, rfl⟩ := exists_mapM_of_collects h
    obtain ⟨first, more, hfirst, hmore, rfl⟩ := mapM_cons_eq_ok_iff.1 hfound
    cases hmore
    exact ⟨fuel, by simpa [collected] using hfirst⟩
  · rintro ⟨fuel, h⟩
    exact collects_of_scriptsOf h

/-- A run leads to one list of scripts at most. -/
theorem eq_of_collects {scripts more : List String}
    (h : Collects env [.run run] scripts) (hmore : Collects env [.run run] more) :
    scripts = more := by
  obtain ⟨fuel, hfound⟩ := collects_iff.1 h
  obtain ⟨other, hother⟩ := collects_iff.1 hmore
  have hfirst := scriptsOf_mono (Nat.le_max_left fuel other) hfound
  rw [scriptsOf_mono (Nat.le_max_right fuel other) hother] at hfirst
  exact (Except.ok.inj hfirst).symm

end Environment

namespace Session

variable {host : Host ω η}

/-- Scripts are run one after the other, up to one that cannot be started. -/
theorem each_runScript (host : Host ω η) (shell : String) (exports : List (String × String))
    (scripts : List String) (session : Session ω η) (hshell : session.shell = shell) :
    (∃ outcomes world,
        host.Runs (invocationsOf shell exports scripts) session.world outcomes world ∧
        Walk.each (fun script => runScript host script exports) scripts session =
          (.ok outcomes, { session with world })) ∨
      ∃ fault world, host.Stops (invocationsOf shell exports scripts) session.world fault world ∧
        Walk.each (fun script => runScript host script exports) scripts session =
          (.error (.error (.notStarted shell fault)), { session with world }) := by
  induction scripts generalizing session with
  | nil => exact .inl ⟨[], session.world, .nil _, rfl⟩
  | cons script rest ih =>
    rw [Walk.each]
    cases hstart : host.start ⟨shell, script, exports⟩ session.world with
    | mk started world =>
      cases started with
      | error fault =>
        have hrun : runScript host script exports session =
            (.error (.error (.notStarted shell fault)), { session with world }) := by
          show Walk.bind (startScript host script exports) (finish host) session = _
          simp [Walk.bind, startScript, hshell, hstart]
        exact .inr ⟨fault, world, .refused hstart, by rw [Walk.bind_error hrun]⟩
      | ok process =>
        have hrun : runScript host script exports session =
            (.ok (host.finish process world).1,
              { session with world := (host.finish process world).2 }) := by
          show Walk.bind (startScript host script exports) (finish host) session = _
          simp [Walk.bind, startScript, hshell, hstart, finish]
        rw [Walk.bind_ok hrun]
        rcases ih { session with world := (host.finish process world).2 } hshell with
          ⟨outcomes, after, hruns, hrest⟩ | ⟨fault, after, hstops, hrest⟩
        · refine .inl ⟨_, after, .cons hstart hruns, ?_⟩
          rw [Walk.bind_ok hrest]
          rfl
        · refine .inr ⟨fault, after, .later hstart hstops, ?_⟩
          rw [Walk.bind_error hrest]

/-- A run whose scripts can be collected is captured by running them. -/
theorem capture_of_scriptsOf (host : Host ω η) {fuel : Nat} {run : Run} {session : Session ω η}
    {scripts : List String} (hscripts : session.environment.scriptsOf fuel run = .ok scripts) :
    (∃ outcomes world,
        host.Runs (invocationsOf session.shell session.environment.texts scripts) session.world
          outcomes world ∧
        capture host fuel run session = (.ok (capturedOf outcomes), { session with world })) ∨
      ∃ fault world,
        host.Stops (invocationsOf session.shell session.environment.texts scripts) session.world
          fault world ∧
        capture host fuel run session =
          (.error (.error (.notStarted session.shell fault)), { session with world }) := by
  have hcapture : capture host fuel run session =
      Walk.bind (Walk.each (fun script => runScript host script session.environment.texts) scripts)
        (fun outcomes => Walk.pure (capturedOf outcomes)) session := by
    have hfound : Walk.ofExcept (session.environment.scriptsOf fuel run) session =
        (.ok scripts, session) := by rw [hscripts]; rfl
    show Walk.bind (Walk.ofExcept (session.environment.scriptsOf fuel run)) _ session = _
    rw [Walk.bind_ok hfound]
    rfl
  rw [hcapture]
  rcases each_runScript host session.shell session.environment.texts scripts session rfl with
    ⟨outcomes, world, hruns, heach⟩ | ⟨fault, world, hstops, heach⟩
  · exact .inl ⟨outcomes, world, hruns, by rw [Walk.bind_ok heach]; rfl⟩
  · exact .inr ⟨fault, world, hstops, by rw [Walk.bind_error heach]⟩

theorem capture_of_scriptsOf_error {fuel : Nat} {run : Run} {session : Session ω η} {halt : Halt}
    (hscripts : session.environment.scriptsOf fuel run = .error halt) :
    capture host fuel run session = (.error halt, session) := by
  show Walk.bind (Walk.ofExcept (session.environment.scriptsOf fuel run)) _ session = _
  exact Walk.bind_error (by rw [hscripts]; rfl)

end Session

/-! ### Resolution -/

/-- The bindings of texts, each with its value, in their order. -/
inductive HasTexts : List (String × Value) → List (String × String) → Prop where
  | nil : HasTexts [] []
  | text {name text value : String} {rest : List (String × Value)}
      {literals : List (String × String)} (hvalue : Unquotes text value)
      (hrest : HasTexts rest literals) :
      HasTexts ((name, .text text) :: rest) ((name, value) :: literals)
  | pending {name : String} {run : Run} {rest : List (String × Value)}
      {literals : List (String × String)} (hrest : HasTexts rest literals) :
      HasTexts ((name, .pending run) :: rest) literals

theorem Environment.hasTexts_texts (env : Environment) :
    HasTexts env.visible.entries env.texts := by
  unfold texts
  induction env.visible.entries with
  | nil => exact .nil
  | cons entry rest ih =>
    obtain ⟨name, value⟩ := entry
    cases value with
    | text text => exact .text (unquotes_iff.2 rfl) ih
    | pending run => exact .pending ih

section

variable (host : Host ω η) (env : Environment) (shell : String) (literals : List (String × String))

/-- From one world to the other, the bindings are resolved one after the other, by starting some
scripts: the value of a text is told by it, and the value of a run is what is captured of all of its
scripts, the output of each before its messages, however they end.  The scripts are run with nothing
but the literals added to the environment. -/
inductive Resolves :
    List (String × Value) → ω → List Invocation → List (String × String) → ω → Prop where
  | nil (world : ω) : Resolves [] world [] [] world
  | text {name text value : String} {rest : List (String × Value)} {starts : List Invocation}
      {exports : List (String × String)} {world after : ω} (hvalue : Unquotes text value)
      (hrest : Resolves rest world starts exports after) :
      Resolves ((name, .text text) :: rest) world starts ((name, value) :: exports) after
  | pending {name value : String} {run : Run} {scripts : List String} {outcomes : List Outcome}
      {rest : List (String × Value)} {starts : List Invocation} {exports : List (String × String)}
      {world middle after : ω} (hscripts : Collects env [.run run] scripts)
      (hruns : host.Runs (invocationsOf shell literals scripts) world outcomes middle)
      (hvalue : Captures (outcomes.flatMap fun outcome => outcome.stdout ++ outcome.stderr) value)
      (hrest : Resolves rest middle starts exports after) :
      Resolves ((name, .pending run) :: rest) world (invocationsOf shell literals scripts ++ starts)
        ((name, value) :: exports) after

/-- From one world to the other, the bindings are resolved one after the other, up to one that leads
to a target that is not defined, or to a script that the shell cannot be started for. -/
inductive Unresolved : List (String × Value) → ω → RunError → ω → Prop where
  | undefined {name target : String} {run : Run} {rest : List (String × Value)} {world : ω}
      (hmisses : Misses env [.run run] target) :
      Unresolved ((name, .pending run) :: rest) world (.undefinedTarget target) world
  | notStarted {name : String} {run : Run} {scripts : List String} {fault : Fault}
      {rest : List (String × Value)} {world after : ω} (hscripts : Collects env [.run run] scripts)
      (hstops : host.Stops (invocationsOf shell literals scripts) world fault after) :
      Unresolved ((name, .pending run) :: rest) world (.notStarted shell fault) after
  | text {name text : String} {rest : List (String × Value)} {error : RunError} {world after : ω}
      (hrest : Unresolved rest world error after) :
      Unresolved ((name, .text text) :: rest) world error after
  | pending {name : String} {run : Run} {scripts : List String} {outcomes : List Outcome}
      {rest : List (String × Value)} {error : RunError} {world middle after : ω}
      (hscripts : Collects env [.run run] scripts)
      (hruns : host.Runs (invocationsOf shell literals scripts) world outcomes middle)
      (hrest : Unresolved rest middle error after) :
      Unresolved ((name, .pending run) :: rest) world error after

end

section

variable {host : Host ω η} {env : Environment} {shell : String}
  {literals : List (String × String)} {bindings : List (String × Value)}

/-- One value is exported for each binding, under its name. -/
theorem Resolves.names {starts : List Invocation} {exports : List (String × String)}
    {world after : ω} (h : Resolves host env shell literals bindings world starts exports after) :
    exports.map Prod.fst = bindings.map Prod.fst := by
  induction h with
  | nil => rfl
  | text _ _ ih => rw [List.map_cons, List.map_cons, ih]
  | pending _ _ _ _ ih => rw [List.map_cons, List.map_cons, ih]

/-- The scripts that are started for the bindings are run to their ends, one after the other. -/
theorem Resolves.runs {starts : List Invocation} {exports : List (String × String)}
    {world after : ω} (h : Resolves host env shell literals bindings world starts exports after) :
    ∃ outcomes, host.Runs starts world outcomes after := by
  induction h with
  | nil world => exact ⟨[], .nil world⟩
  | text _ _ ih => exact ih
  | pending _ hruns _ _ ih =>
    obtain ⟨more, hmore⟩ := ih
    exact ⟨_, hruns.append hmore⟩

/-- A binding is not resolved because of a target that is not defined, or of the shell. -/
theorem Unresolved.error_cases {error : RunError} {world after : ω}
    (h : Unresolved host env shell literals bindings world error after) :
    (∃ target, error = .undefinedTarget target) ∨ ∃ fault, error = .notStarted shell fault := by
  induction h with
  | undefined => exact .inl ⟨_, rfl⟩
  | notStarted => exact .inr ⟨_, rfl⟩
  | text _ ih => exact ih
  | pending _ _ _ ih => exact ih

end

namespace Session

variable {host : Host ω η} {fuel : Nat}

/-- How the resolution of bindings ends: with one value for each, or at one that cannot be resolved,
or for want of fuel.  Of the session nothing changes but the world. -/
inductive Resolution (host : Host ω η) (bindings : List (String × Value))
    (session : Session ω η) : Except Halt (List (String × String)) × Session ω η → Prop where
  | resolved {starts : List Invocation} {exports : List (String × String)} {world : ω}
      (hresolves : Resolves host session.environment session.shell session.environment.texts
        bindings session.world starts exports world) :
      Resolution host bindings session (.ok exports, { session with world })
  | unresolved {error : RunError} {world : ω}
      (hfails : Unresolved host session.environment session.shell session.environment.texts
        bindings session.world error world) :
      Resolution host bindings session (.error (.error error), { session with world })
  | exhausted (world : ω) :
      Resolution host bindings session (.error .exhausted, { session with world })

/-- Once the first of the bindings is resolved, the resolution ends as that of the others does. -/
theorem Resolution.cons {binding : String × Value} {value : String × String}
    {rest : List (String × Value)} {session : Session ω η} {middle : ω} (first : List Invocation)
    (hfirst : resolve host fuel binding session = (.ok value, { session with world := middle }))
    (hresolves : ∀ {starts exports world},
      Resolves host session.environment session.shell session.environment.texts rest middle
          starts exports world →
        Resolves host session.environment session.shell session.environment.texts
          (binding :: rest) session.world (first ++ starts) (value :: exports) world)
    (hfails : ∀ {error world},
      Unresolved host session.environment session.shell session.environment.texts rest middle
          error world →
        Unresolved host session.environment session.shell session.environment.texts
          (binding :: rest) session.world error world)
    (hrest : Resolution host rest { session with world := middle }
      (Walk.each (resolve host fuel) rest { session with world := middle })) :
    Resolution host (binding :: rest) session
      (Walk.each (resolve host fuel) (binding :: rest) session) := by
  rw [Walk.each, Walk.bind_ok hfirst]
  generalize heach : Walk.each (resolve host fuel) rest { session with world := middle } = ended
    at hrest
  cases hrest with
  | resolved h =>
    rw [Walk.bind_ok heach]
    exact .resolved (hresolves h)
  | unresolved h =>
    rw [Walk.bind_error heach]
    exact .unresolved (hfails h)
  | exhausted world =>
    rw [Walk.bind_error heach]
    exact .exhausted world

theorem resolution_each (host : Host ω η) (fuel : Nat) (bindings : List (String × Value))
    (session : Session ω η) :
    Resolution host bindings session (Walk.each (resolve host fuel) bindings session) := by
  induction bindings generalizing session with
  | nil => exact .resolved (.nil session.world)
  | cons binding rest ih =>
    obtain ⟨name, value⟩ := binding
    cases value with
    | text text =>
      have hfirst : resolve host fuel (name, .text text) session =
          (.ok (name, unquote text), { session with world := session.world }) := rfl
      exact .cons [] hfirst (.text (unquotes_iff.2 rfl)) .text (ih session)
    | pending run =>
      -- All the scripts of the run are found before the first of them is started.
      cases hscripts : session.environment.scriptsOf fuel run with
      | error halt =>
        have hfirst : resolve host fuel (name, .pending run) session = (.error halt, session) :=
          Walk.bind_error (capture_of_scriptsOf_error hscripts)
        rw [Walk.each, Walk.bind_error hfirst]
        rcases Environment.scriptsOf_error hscripts with rfl | ⟨target, rfl, hmisses⟩
        · exact .exhausted session.world
        · exact .unresolved (.undefined hmisses)
      | ok scripts =>
        have hcollects := Environment.collects_of_scriptsOf hscripts
        rcases capture_of_scriptsOf host hscripts with
          ⟨outcomes, middle, hruns, hcapture⟩ | ⟨fault, after, hstops, hcapture⟩
        · exact .cons _ (Walk.bind_ok hcapture)
            (.pending hcollects hruns (captures_iff.2 rfl)) (.pending hcollects hruns)
            (ih { session with world := middle })
        · have hfirst : resolve host fuel (name, .pending run) session =
              (.error (.error (.notStarted session.shell fault)),
                { session with world := after }) :=
            Walk.bind_error hcapture
          rw [Walk.each, Walk.bind_error hfirst]
          exact .unresolved (.notStarted hcollects hstops)

/-! ### Actions -/

variable {script : String} {session : Session ω η}

theorem action_of_blank (hscript : trimScript script = "") :
    action host fuel script session = (.ok (), session) := by
  rw [action]
  simp only [if_pos hscript]
  rfl

/-- An action that cannot resolve its variables ends with that. -/
theorem action_of_each_error (hscript : trimScript script ≠ "") {halt : Halt} {after : Session ω η}
    (heach : Walk.each (resolve host fuel) session.environment.visible.entries session =
      (.error halt, after)) :
    action host fuel script session = (.error halt, after) := by
  rw [action]
  simp only [if_neg hscript]
  show Walk.bind (Walk.each (resolve host fuel) session.environment.visible.entries) _ session = _
  exact Walk.bind_error heach

/-- What an action does once its variables are resolved: it shows its script and starts it. -/
def launch (host : Host ω η) (script : String) (exports : List (String × String))
    (session : Session ω η) : Except Halt Unit × Session ω η :=
  match host.start ⟨session.shell, script, exports⟩ session.world with
  | (.ok process, world) =>
    (.ok (), { session with
      world, queue := session.queue ++ [.text (echo script), .process script process] })
  | (.error fault, world) =>
    (.error (.error (.notStarted session.shell fault)),
      { session with world, queue := session.queue ++ [.text (echo script)] })

theorem action_of_each_ok (hscript : trimScript script ≠ "") {exports : List (String × String)}
    {after : Session ω η}
    (heach : Walk.each (resolve host fuel) session.environment.visible.entries session =
      (.ok exports, after)) :
    action host fuel script session = launch host (trimScript script) exports after := by
  rw [action, launch]
  simp only [if_neg hscript]
  refine (Walk.bind_ok heach).trans ?_
  show Walk.bind (startScript host (trimScript script) exports) _
    { after with queue := after.queue ++ [.text (echo (trimScript script))] } = _
  have hshell : ({ after with queue := after.queue ++ [.text (echo (trimScript script))] } :
    Session ω η).shell = after.shell := rfl
  rw [Walk.bind, startScript, hshell]
  cases host.start ⟨after.shell, trimScript script, exports⟩ after.world with
  | mk started world =>
    cases started with
    | ok process => simp [enqueue, Walk.modify]
    | error fault => rfl

section

variable (host : Host ω η) (session : Session ω η) (bindings : List (String × Value))
  (literals : List (String × String)) (trimmed shown : String)

/-- What an action queues, how it ends and the world after it, where it sees some bindings.  These
are resolved first, in order, and nothing but their literals is added to the environment of the
scripts behind them.  Then the script of the action is shown, and started with one value for each
name.  If a binding cannot be resolved, the action is not started and nothing is queued for it. -/
inductive Acts : List (Entry η) → Except Halt (Option String) → ω → Prop where
  | started {starts : List Invocation} {exports : List (String × String)} {outcomes : List Outcome}
      {process : η} {world after : ω}
      (hresolves : Resolves host session.environment session.shell literals bindings session.world
        starts exports world)
      (hruns : host.Runs starts session.world outcomes world)
      (hnames : exports.map Prod.fst = bindings.map Prod.fst)
      (hstart : host.start ⟨session.shell, trimmed, exports⟩ world = (.ok process, after)) :
      Acts [.text shown, .process trimmed process] (.ok none) after
  | notStarted {starts : List Invocation} {exports : List (String × String)}
      {outcomes : List Outcome} {fault : Fault} {world after : ω}
      (hresolves : Resolves host session.environment session.shell literals bindings session.world
        starts exports world)
      (hruns : host.Runs starts session.world outcomes world)
      (hnames : exports.map Prod.fst = bindings.map Prod.fst)
      (hstart : host.start ⟨session.shell, trimmed, exports⟩ world = (.error fault, after)) :
      Acts [.text shown] (.error (.error (.notStarted session.shell fault))) after
  | unresolved {error : RunError} {world : ω}
      (hfails : Unresolved host session.environment session.shell literals bindings session.world
        error world) :
      Acts [] (.error (.error error)) world

end

/-- What an action queues, how it ends and the world after it, as it follows from the bindings that
can be seen: each visible name with its innermost binding, in the order of the bytes of the
names. -/
def ActsOn (host : Host ω η) (script : String) (session : Session ω η) (entries : List (Entry η))
    (result : Except Halt (Option String)) (world : ω) : Prop :=
  ∃ bindings literals trimmed shown, session.environment.IsView bindings ∧
    HasTexts bindings literals ∧ Trims script trimmed ∧ Echoes trimmed shown ∧
    Acts host session bindings literals trimmed shown entries result world

/-- What an action queues: nothing if it is blank or its variables cannot be resolved; else its
script and, if the shell is started, its process. -/
def actionEntries (host : Host ω η) (fuel : Nat) (script : String) (session : Session ω η) :
    List (Entry η) :=
  if trimScript script = "" then []
  else
    match Walk.each (resolve host fuel) session.environment.visible.entries session with
    | (.error _, _) => []
    | (.ok exports, resolved) =>
      .text (echo (trimScript script)) ::
        match host.start ⟨resolved.shell, trimScript script, exports⟩ resolved.world with
        | (.ok process, _) => [.process (trimScript script) process]
        | (.error _, _) => []

/-- An action changes the world and the queue. -/
theorem snd_action (host : Host ω η) (fuel : Nat) (script : String) (session : Session ω η) :
    ∃ world, (action host fuel script session).2 = { session with
      world, queue := session.queue ++ actionEntries host fuel script session } := by
  by_cases hscript : trimScript script = ""
  · rw [action_of_blank hscript, actionEntries, if_pos hscript, List.append_nil]
    exact ⟨session.world, rfl⟩
  rw [actionEntries, if_neg hscript]
  have hresolution := resolution_each host fuel session.environment.visible.entries session
  generalize heach : Walk.each (resolve host fuel) session.environment.visible.entries session =
    ended at hresolution
  cases hresolution with
  | @resolved _ exports world _ =>
    rw [action_of_each_ok hscript heach, launch]
    dsimp only
    rcases host.start _ world with ⟨started, after⟩
    cases started <;> exact ⟨after, rfl⟩
  | @unresolved _ world _ =>
    rw [action_of_each_error hscript heach]
    exact ⟨world, by rw [List.append_nil]⟩
  | exhausted world =>
    rw [action_of_each_error hscript heach]
    exact ⟨world, by rw [List.append_nil]⟩

/-- What an action that is not blank does is determined by the bindings that can be seen. -/
theorem action_acts (host : Host ω η) (fuel : Nat) {script : String} (session : Session ω η)
    (hscript : isBlankText script.toList = false)
    (hends : (action host fuel script session).1 ≠ .error .exhausted) :
    ActsOn host script session (actionEntries host fuel script session)
      ((action host fuel script session).1.map fun _ => none)
      (action host fuel script session).2.world := by
  have hsolid : trimScript script ≠ "" := by simp [trimScript_eq_empty_iff, hscript]
  refine ⟨_, _, _, _, session.environment.isView_visible, session.environment.hasTexts_texts,
    trims_iff.2 rfl, echoes_iff.2 rfl, ?_⟩
  rw [actionEntries, if_neg hsolid]
  have hresolution := resolution_each host fuel session.environment.visible.entries session
  generalize heach : Walk.each (resolve host fuel) session.environment.visible.entries session =
    ended at hresolution
  cases hresolution with
  | @resolved starts exports world hresolves =>
    obtain ⟨outcomes, hruns⟩ := hresolves.runs
    have hshell : ({ session with world } : Session ω η).shell = session.shell := rfl
    rw [action_of_each_ok hsolid heach, launch]
    simp only [hshell]
    rcases hstart : host.start ⟨session.shell, trimScript script, exports⟩ world with
      ⟨started, after⟩
    cases started with
    | ok process => exact .started hresolves hruns hresolves.names hstart
    | error fault => exact .notStarted hresolves hruns hresolves.names hstart
  | @unresolved error world hfails =>
    rw [action_of_each_error hsolid heach]
    exact .unresolved hfails
  | exhausted world =>
    rw [action_of_each_error hsolid heach] at hends
    exact absurd rfl hends

/-- The action of a statement is all that it does. -/
theorem execute_action (host : Host ω η) (fuel : Nat) (script : String) (session : Session ω η) :
    execute host (fuel + 1) (.action script) session =
      ((action host fuel script session).1.map fun _ => none,
        (action host fuel script session).2) := by
  show Walk.bind (action host fuel script) (fun _ => Walk.pure none) session = _
  rw [Walk.bind]
  rcases action host fuel script session with ⟨result, after⟩
  cases result <;> rfl

/-- What an action sees and starts is determined by the bindings that can be seen: each visible name
with its innermost binding, in the order of the bytes of the names. -/
theorem execute_action_acts (host : Host ω η) (fuel : Nat) (script : String)
    (session : Session ω η) (hscript : isBlankText script.toList = false)
    (hends : (execute host (fuel + 1) (.action script) session).1 ≠ .error .exhausted) :
    ∃ entries world,
      ActsOn host script session entries (execute host (fuel + 1) (.action script) session).1
        world ∧
      (execute host (fuel + 1) (.action script) session).2 =
        { session with world, queue := session.queue ++ entries } := by
  rw [execute_action] at hends ⊢
  have hresult : (action host fuel script session).1 ≠ .error .exhausted := fun hexhausted => by
    rw [hexhausted] at hends
    exact hends rfl
  have hacts := action_acts host fuel session hscript hresult
  obtain ⟨world, hafter⟩ := snd_action host fuel script session
  rw [hafter] at hacts
  exact ⟨_, world, hacts, hafter⟩

/-- A name that is bound twice, and a script that fails, writes to both its outputs, and a byte that
encodes nothing.  The script of the action lists what is added to its environment. -/
theorem execute_action_acts_shadowed :
    let host := Host.recorded fun invocation =>
      if invocation.script = "echo hi" then ⟨⟨[104, 105, 255, 10], utf8 "no\r\n", []⟩, .code 3⟩
      else ⟨⟨invocation.exports.flatMap fun given => utf8 (given.1 ++ "=" ++ given.2 ++ "\n"), [],
        []⟩, .code 0⟩
    let run : Run := ⟨none, [.action "echo hi"], .during⟩
    let outer := (Environment.initial.defineVariable "b" (.text "outer")).defineVariable "a"
      (.pending run)
    let environment := outer.push.defineVariable "b" (.text "\"inner\"")
    let session := { start host "runny.rny" [] with environment }
    let bindings : List (String × Value) := [("a", .pending run), ("b", .text "\"inner\"")]
    let listed := utf8 "a=hi\ufffd\nno\nb=inner\n"
    environment.IsView bindings ∧ HasTexts bindings [("b", "inner")] ∧
      Resolves host environment "sh" [("b", "inner")] bindings []
        [⟨"sh", "echo hi", [("b", "inner")]⟩] [("a", "hi\ufffd\nno"), ("b", "inner")] [none] ∧
      isBlankText " env".toList = false ∧
      (execute host 3 (.action " env") session).1 ≠ .error .exhausted ∧
      ActsOn host " env" session [.text "env\n", .process "env" 1] (.ok none)
        [none, some ⟨⟨listed, [], []⟩, .code 0⟩] := by
  intro host run outer environment session bindings listed
  have hvisible : environment.visible.entries = bindings := by decide +kernel
  have hview := hvisible ▸ environment.isView_visible
  have htexts : HasTexts bindings [("b", "inner")] :=
    .pending (.text (unquotes_iff.2 (by decide +kernel)) .nil)
  have hresolves : Resolves host environment "sh" [("b", "inner")] bindings []
      [⟨"sh", "echo hi", [("b", "inner")]⟩] [("a", "hi\ufffd\nno"), ("b", "inner")] [none] := by
    have hscripts : Collects environment [.run run] ["echo hi"] :=
      Environment.collects_of_scriptsOf (show environment.scriptsOf 2 run = _ by rfl)
    exact .pending hscripts (.cons rfl (.nil _)) (captures_iff.2 (by decide +kernel))
      (.text (unquotes_iff.2 (by decide +kernel)) (.nil _))
  have hresult : (execute host 3 (.action " env") session).1 = .ok none := by decide +kernel
  have hqueue : (execute host 3 (.action " env") session).2.queue =
      [.text "env\n", .process "env" 1] := by decide +kernel
  have hworld : (execute host 3 (.action " env") session).2.world =
      [none, some ⟨⟨listed, [], []⟩, .code 0⟩] := by decide +kernel
  have hends : (execute host 3 (.action " env") session).1 ≠ .error .exhausted := by
    rw [hresult]
    simp
  obtain ⟨entries, world, hacts, hafter⟩ :=
    execute_action_acts host 2 " env" session (by decide) hends
  rw [hafter] at hqueue hworld
  obtain rfl : entries = _ := hqueue
  obtain rfl : world = _ := hworld
  rw [hresult] at hacts
  exact ⟨hview, htexts, hresolves, by decide, hends, hacts⟩

end Session

end TaskRunner
