import TaskRunner.Proofs.Session.Frame

/-! The course of a walk: the statements and the files that it comes to, in the order in which it
comes to them, each with the session at that point.  What the constructs of the language do to an
account of sessions and courses is said once; an account that they all respect holds of every walk,
however it ends. -/

namespace TaskRunner

variable {ω η α β γ : Type}

/-- What a walk comes to: a statement, or a file that is to be read in. -/
inductive Turn where
  | statement (statement : Statement)
  | file (path : String)

/-- A point of a walk: how deep the walk may go from here, the files that are being read in, the
outermost first, whose turn it is, and the session. -/
structure Point (ω η : Type) where
  fuel : Nat
  files : List String
  turn : Turn
  session : Session ω η

/-- The canonical path of a file.  A path that has none stands for itself. -/
def Host.canonicalPath (host : Host ω η) (world : ω) (path : String) : String :=
  (host.canonical? path world).getD path

/-- The course of the steps for the members of a list, up to the first that ends the walk. -/
def Walk.along (step : α → Walk ω η β) (course : α → Session ω η → List γ) :
    List α → Session ω η → List γ
  | [], _ => []
  | a :: rest, session =>
    course a session ++
      match step a session with
      | (.ok _, after) => along step course rest after
      | (.error _, _) => []

/-- A step that is followed by another comes to its end before that does. -/
theorem Walk.of_bind_ok {step : Walk ω η α} {next : α → Walk ω η β} {session after : Session ω η}
    {value : β} (h : Walk.bind step next session = (.ok value, after)) :
    ∃ first middle, step session = (.ok first, middle) ∧
      next first middle = (.ok value, after) := by
  rw [bind] at h
  split at h
  next first middle hfirst => exact ⟨first, middle, hfirst, h⟩
  next => cases h

/-- Steps one after the other come to their end if the first does and then the others do. -/
theorem Walk.of_each_cons_ok {step : α → Walk ω η β} {a : α} {rest : List α}
    {session after : Session ω η} {values : List β}
    (h : Walk.each step (a :: rest) session = (.ok values, after)) :
    ∃ value middle more, step a session = (.ok value, middle) ∧
      Walk.each step rest middle = (.ok more, after) ∧ values = value :: more := by
  obtain ⟨value, middle, hfirst, hrest⟩ := of_bind_ok h
  obtain ⟨more, last, hmore, hlast⟩ := of_bind_ok hrest
  cases hlast
  exact ⟨value, middle, more, hfirst, hmore, rfl⟩

/-- The course of a binding, whose initializer is walked over only if it is neither a literal nor a
run. -/
def Binding.course (course : Statement → Session ω η → List γ) (item : Binding)
    (session : Session ω η) : List γ :=
  match item.initializer with
  | .literal _ => []
  | .run _ => []
  | other => course other session

namespace Session

/-- What a path leads to: the statements of a file, with the session in which they are walked over,
or the reason why the file is not read in. -/
def opened (host : Host ω η) (path : String) (session : Session ω η) :
    Except RunError (List Statement × Session ω η) :=
  let key := host.canonicalPath session.world path
  if session.chain.any (Path.same key) then .error (.circularExtends path)
  else
    match host.readText path session.world with
    | .error fault => .error (.unreadable path fault)
    | .ok source =>
      match parseSource source with
      | .error error => .error (.inFile path (.source error))
      | .ok statements =>
        .ok (statements, { session with origin := path, chain := session.chain ++ [key] })

/-- A file is read in if it is not being read in already and its text can be read and parsed. -/
theorem of_opened_ok {host : Host ω η} {path : String} {session inside : Session ω η}
    {statements : List Statement} (h : opened host path session = .ok (statements, inside)) :
    session.chain.any (Path.same (host.canonicalPath session.world path)) = false ∧
      (∃ source, host.readText path session.world = .ok source ∧
        parseSource source = .ok statements) ∧
      inside = { session with
        origin := path
        chain := session.chain ++ [host.canonicalPath session.world path] } := by
  unfold opened at h
  grind

theorem readIn_of_opened_error {host : Host ω η} {step : Statement → Walk ω η (Option String)}
    {path : String} {session : Session ω η} {error : RunError}
    (h : opened host path session = .error error) :
    readIn host step path session = (.error (.error error), session) := by
  unfold opened Host.canonicalPath at h
  unfold readIn
  dsimp only at h ⊢
  grind

theorem readIn_of_opened_ok {host : Host ω η} {step : Statement → Walk ω η (Option String)}
    {path : String} {session inside : Session ω η} {statements : List Statement}
    (h : opened host path session = .ok (statements, inside)) :
    readIn host step path session =
      ((Walk.each step statements inside).1.map fun _ => (),
        { (Walk.each step statements inside).2 with
          origin := session.origin
          chain := (Walk.each step statements inside).2.chain.dropLast }) := by
  unfold opened Host.canonicalPath at h
  unfold readIn
  dsimp only at h ⊢
  grind

/-- A walk puts back the chain that it finds, so the path that is taken off it at the end of a file
is the one that was put on it at the beginning. -/
theorem readIn_execute_of_opened_ok {host : Host ω η} {fuel : Nat} {path : String}
    {session inside : Session ω η} {statements : List Statement}
    (h : opened host path session = .ok (statements, inside)) :
    readIn host (execute host fuel) path session =
      ((Walk.each (execute host fuel) statements inside).1.map fun _ => (),
        { (Walk.each (execute host fuel) statements inside).2 with
          origin := session.origin, chain := session.chain }) := by
  obtain ⟨-, -, hinside⟩ := of_opened_ok h
  have hchain := (continues_each host fuel statements inside).chain
  rw [readIn_of_opened_ok h, hchain, hinside, List.dropLast_concat]

/-- The course of a run: that of its body and its target, in a scope of their own. -/
def runCourse (step : Statement → Walk ω η β) (course : Statement → Session ω η → List γ)
    (run : Run) (session : Session ω η) : List γ :=
  match session.environment.targetOf run with
  | .error _ => []
  | .ok target =>
    Walk.along step course (run.body ++ target)
      { session with environment := session.environment.push }

/-- The course of a file that is read in. -/
def readInCourse (host : Host ω η) (fuel : Nat) (files : List String)
    (course : List String → Statement → Session ω η → List (Point ω η)) (path : String)
    (session : Session ω η) : List (Point ω η) :=
  ⟨fuel, files, .file path, session⟩ ::
    match opened host path session with
    | .error _ => []
    | .ok (statements, inside) =>
      Walk.along (execute host fuel) (course (files ++ [path])) statements inside

/-- The course of the walk over a statement, while some files are being read in. -/
def course (host : Host ω η) : Nat → List String → Statement → Session ω η → List (Point ω η)
  | 0, _, _, _ => []
  | fuel + 1, files, statement, session =>
    let step := execute host fuel
    ⟨fuel, files, .statement statement, session⟩ ::
      match statement with
      | .config items =>
        Walk.along (configure host fuel step) (Binding.course (course host fuel files)) items
          session
      | .var items =>
        Walk.along (bindVariable step) (Binding.course (course host fuel files)) items session
      | .run run => runCourse step (course host fuel files) run session
      | .extend paths =>
        Walk.along (extendBy host step)
          (fun path session =>
            match path.text? with
            | none => []
            | some relative =>
              readInCourse host fuel files (course host fuel)
                (Path.join (Path.parent session.origin) relative) session) paths session
      | _ => []

/-- The course of the walk over the statements of a file. -/
def courseOf (host : Host ω η) (fuel : Nat) (statements : List Statement)
    (session : Session ω η) : List (Point ω η) :=
  Walk.along (execute host fuel) (course host fuel []) statements session

end Session

/-! ### Accounts -/

/-- The statement has an effect of its own and leads to no other. -/
def Statement.isBasic : Statement → Bool
  | .target _ _ => true
  | .action _ => true
  | .describe _ => true
  | _ => false

namespace Walk

/-- Why a step ended early, if it did. -/
def halt? : Except Halt α → Option Halt
  | .ok _ => none
  | .error halt => some halt

/-- The relation holds between a session, the course of the step, the reason why it ended early, and
the session that it leads to. -/
def Tells (T : List String → Session ω η → List (Point ω η) → Option Halt → Session ω η → Prop)
    (files : List String) (step : Walk ω η α) (course : Session ω η → List (Point ω η)) : Prop :=
  ∀ session, T files session (course session) (halt? (step session).1) (step session).2

open Session in
/-- The relation respects what a walk is made of: changes of the session in which nothing is come
to, statements with an effect of their own, and whatever leads to other statements. -/
structure IsAccount (host : Host ω η)
    (T : List String → Session ω η → List (Point ω η) → Option Halt → Session ω η → Prop) :
    Prop where
  none (files : List String) (s : Session ω η) : T files s [] none s
  seq {files : List String} {s t u : Session ω η} {points more : List (Point ω η)}
    {halt : Option Halt} :
    T files s points .none t → T files t more halt u → T files s (points ++ more) halt u
  exhausted (files : List String) (s : Session ω η) : T files s [] (some .exhausted) s
  undefined (files : List String) {s : Session ω η} {run : Run} {error : RunError} :
    s.environment.targetOf run = .error error → T files s [] (some (.error error)) s
  invalid (files : List String) (s : Session ω η) (path : String) :
    T files s [] (some (.error (.invalidPath path))) s
  captured (files : List String) (s : Session ω η) (fuel : Nat) (run : Run) :
    T files s [] (halt? (capture host fuel run s).1) (capture host fuel run s).2
  configured (files : List String) (s : Session ω η) (name : String) (value : Literal) :
    T files s [] .none { s with config := s.config.insert name value }
  boundVariable (files : List String) (s : Session ω η) (name : String) (value : Value) :
    T files s [] .none { s with environment := s.environment.defineVariable name value }
  declared (files : List String) (s : Session ω η) (fuel : Nat) (name : String)
    (body : List Statement) :
    T files s [⟨fuel, files, .statement (.target name body), s⟩] .none
      { s with environment := s.environment.defineTarget name (Statement.sortByStage body) }
  described (files : List String) (s : Session ω η) (fuel : Nat) (lines : List String) :
    T files s [⟨fuel, files, .statement (.describe lines), s⟩] .none
      { s with queue := s.queue ++ lines.map fun line => .text (descriptionLine line) }
  acted (files : List String) (s : Session ω η) (fuel : Nat) (script : String) :
    T files s [⟨fuel, files, .statement (.action script), s⟩]
      (halt? (action host fuel script s).1) (action host fuel script s).2
  entered {files : List String} {s t : Session ω η} {points : List (Point ω η)}
    {halt : Option Halt} (fuel : Nat) {statement : Statement} : statement.isBasic = false →
      T files s points halt t → T files s (⟨fuel, files, .statement statement, s⟩ :: points) halt t
  scope {files : List String} {s t : Session ω η} {points : List (Point ω η)}
    {halt : Option Halt} :
    T files { s with environment := s.environment.push } points halt t →
      T files s points halt { t with environment := t.environment.pop }
  closed (files : List String) {s : Session ω η} (fuel : Nat) {path : String} {error : RunError} :
    opened host path s = .error error →
      T files s [⟨fuel, files, .file path, s⟩] (some (.error error)) s
  file {files : List String} {s inside t : Session ω η} (fuel : Nat) {path : String}
    {statements : List Statement} {points : List (Point ω η)} {halt : Option Halt} :
    opened host path s = .ok (statements, inside) → T (files ++ [path]) inside points halt t →
      T files s (⟨fuel, files, .file path, s⟩ :: points) halt
        { t with origin := s.origin, chain := s.chain }

section

variable {host : Host ω η}
  {T : List String → Session ω η → List (Point ω η) → Option Halt → Session ω η → Prop}
  {files : List String}

theorem tells_pure (h : IsAccount host T) (value : α) :
    Tells T files (Pure.pure value) fun _ => [] :=
  h.none files

/-- A step after which nothing more is come to. -/
theorem Tells.bind (h : IsAccount host T) {step : Walk ω η α} {next : α → Walk ω η β}
    {course : Session ω η → List (Point ω η)} (hstep : Tells T files step course)
    (hnext : ∀ value, Tells T files (next value) fun _ => []) :
    Tells T files (step >>= next) course := by
  intro session
  have hfirst := hstep session
  show T files session (course session) (halt? (Walk.bind step next session).1)
    (Walk.bind step next session).2
  rcases hrun : step session with ⟨result, after⟩
  rw [hrun] at hfirst
  cases result with
  | error halt =>
    rw [bind_error hrun]
    exact hfirst
  | ok value =>
    rw [bind_ok hrun, ← List.append_nil (course session)]
    exact h.seq hfirst (hnext value after)

theorem tells_along (h : IsAccount host T) {step : α → Walk ω η β}
    {course : α → Session ω η → List (Point ω η)} (items : List α)
    (hstep : ∀ item, Tells T files (step item) (course item)) :
    Tells T files (each step items) (along step course items) := by
  induction items with
  | nil => exact tells_pure h []
  | cons item rest ih =>
    intro session
    have hfirst := hstep item session
    rw [each, along]
    rcases hrun : step item session with ⟨result, after⟩
    rw [hrun] at hfirst
    cases result with
    | error halt =>
      rw [bind_error hrun, List.append_nil]
      exact hfirst
    | ok value =>
      rw [bind_ok hrun]
      exact h.seq hfirst (ih.bind h (fun more => tells_pure h (value :: more)) after)

end

end Walk

namespace Session

open Walk

section

variable {host : Host ω η}
  {T : List String → Session ω η → List (Point ω η) → Option Halt → Session ω η → Prop}
  {files : List String} {step : Statement → Walk ω η (Option String)}
  {inner : Statement → Session ω η → List (Point ω η)}

theorem tells_capture (h : IsAccount host T) (fuel : Nat) (run : Run) :
    Tells T files (capture host fuel run) fun _ => [] :=
  fun session => h.captured files session fuel run

theorem tells_configure (h : IsAccount host T)
    (hstep : ∀ statement, Tells T files (step statement) (inner statement)) (fuel : Nat)
    (item : Binding) :
    Tells T files (configure host fuel step item) (Binding.course inner item) := by
  have hset (value : Literal) : Tells T files (Walk.modify fun session : Session ω η =>
      { session with config := session.config.insert item.name value }) fun _ => [] :=
    fun session => h.configured files session item.name value
  unfold configure Binding.course
  cases item.initializer with
  | literal value => exact (tells_pure h value).bind h hset
  | run run =>
    exact ((tells_capture h fuel run).bind h fun _ => tells_pure h _).bind h hset
  | _ => exact (hstep _).bind h fun _ => (tells_pure h _).bind h hset

theorem tells_bindVariable (h : IsAccount host T)
    (hstep : ∀ statement, Tells T files (step statement) (inner statement)) (item : Binding) :
    Tells T files (bindVariable step item) (Binding.course inner item) := by
  have hset (value : Value) : Tells T files (Walk.modify fun session : Session ω η =>
      { session with environment := session.environment.defineVariable item.name value })
      fun _ => [] :=
    fun session => h.boundVariable files session item.name value
  unfold bindVariable Binding.course
  cases item.initializer with
  | literal value => exact (tells_pure h _).bind h hset
  | run run => exact (tells_pure h _).bind h hset
  | _ => exact (hstep _).bind h fun _ => (tells_pure h _).bind h hset

theorem tells_runBlock (h : IsAccount host T)
    (hstep : ∀ statement, Tells T files (step statement) (inner statement)) (run : Run) :
    Tells T files (runBlock step run) (runCourse step inner run) := by
  intro session
  rw [runBlock, runCourse]
  show T files session _
    (halt? (Walk.bind (Walk.ofExcept (orHalt (session.environment.targetOf run))) _ session).1)
    (Walk.bind (Walk.ofExcept (orHalt (session.environment.targetOf run))) _ session).2
  cases htarget : session.environment.targetOf run with
  | error error => exact h.undefined files htarget
  | ok target =>
    have hscope : Tells T files (Walk.between
        (fun session => { session with environment := session.environment.push })
        (fun session => { session with environment := session.environment.pop })
        (each step (run.body ++ target))) fun session =>
          Walk.along step inner (run.body ++ target)
            { session with environment := session.environment.push } :=
      fun session => h.scope (tells_along h _ hstep _)
    exact hscope.bind h (fun _ => tells_pure h ()) session

theorem tells_readIn (h : IsAccount host T) (fuel : Nat)
    {inner : List String → Statement → Session ω η → List (Point ω η)}
    (hstep : ∀ files statement, Tells T files (execute host fuel statement) (inner files statement))
    (path : String) : Tells T files (readIn host (execute host fuel) path)
      (readInCourse host fuel files inner path) := by
  intro session
  rw [readInCourse]
  cases hopened : opened host path session with
  | error error =>
    rw [readIn_of_opened_error hopened]
    exact h.closed files fuel hopened
  | ok found =>
    obtain ⟨statements, inside⟩ := found
    rw [readIn_execute_of_opened_ok hopened]
    have hinside := tells_along h statements (hstep (files ++ [path])) inside
    have hhalt (result : Except Halt (List (Option String))) :
        halt? (result.map fun _ => ()) = halt? result := by cases result <;> rfl
    rw [hhalt]
    exact h.file fuel hopened hinside

theorem tells_extendBy (h : IsAccount host T) (fuel : Nat)
    {inner : List String → Statement → Session ω η → List (Point ω η)}
    (hstep : ∀ files statement, Tells T files (execute host fuel statement) (inner files statement))
    (path : Literal) : Tells T files (extendBy host (execute host fuel) path) fun session =>
      match path.text? with
      | none => []
      | some relative =>
        readInCourse host fuel files inner (Path.join (Path.parent session.origin) relative)
          session := by
  unfold extendBy
  cases path.text? with
  | none => exact fun session => h.invalid files session _
  | some relative => exact fun session => tells_readIn h fuel hstep _ session

theorem each_enqueue (lines : List String) (session : Session ω η) :
    Walk.each (fun line => enqueue (.text (descriptionLine line))) lines session =
      (.ok (lines.map fun _ => ()), { session with
        queue := session.queue ++ lines.map fun line => .text (descriptionLine line) }) := by
  induction lines generalizing session with
  | nil => simp [Walk.each, Walk.pure]
  | cons line rest ih =>
    have hfirst : enqueue (.text (descriptionLine line)) session =
        (.ok (), { session with queue := session.queue ++ [.text (descriptionLine line)] }) := rfl
    rw [Walk.each, Walk.bind_ok hfirst, Walk.bind_ok (ih _)]
    simp [Walk.pure]

/-- An account holds of the walk over a statement. -/
theorem tells_execute (h : IsAccount host T) (fuel : Nat) (files : List String)
    (statement : Statement) :
    Tells T files (execute host fuel statement) (course host fuel files statement) := by
  -- What a statement leads to is walked over with less fuel, so the induction is on the fuel.
  induction fuel generalizing files statement with
  | zero => exact h.exhausted files
  | succ fuel ih =>
    have hnone (_ : List Unit) : Tells T files (Pure.pure (none : Option String)) fun _ => [] :=
      tells_pure h none
    intro session
    cases statement with
    | config items =>
      exact h.entered fuel rfl
        ((tells_along h items (tells_configure h (ih files) fuel)).bind h hnone session)
    | var items =>
      exact h.entered fuel rfl
        ((tells_along h items (tells_bindVariable h (ih files))).bind h hnone session)
    | target name body => exact h.declared files session fuel name body
    | run run =>
      exact h.entered fuel rfl
        ((tells_runBlock h (ih files) run).bind h (fun _ => tells_pure h none) session)
    | action script =>
      have hacted : Tells T files (action host fuel script)
          fun session => [⟨fuel, files, .statement (.action script), session⟩] :=
        fun session => h.acted files session fuel script
      exact hacted.bind h (fun _ => tells_pure h none) session
    | describe lines =>
      have hdescribed := h.described files session fuel lines
      show T files session _ (halt? (Walk.bind (Walk.each _ lines) _ session).1)
        (Walk.bind (Walk.each _ lines) _ session).2
      rw [Walk.bind_ok (each_enqueue lines session)]
      exact hdescribed
    | extend paths =>
      exact h.entered fuel rfl
        ((tells_along h paths (tells_extendBy h fuel ih)).bind h hnone session)
    | literal value => exact h.entered fuel rfl (h.none files session)

/-- An account holds of the walk over the statements of a file. -/
theorem tells_courseOf (h : IsAccount host T) (fuel : Nat) (statements : List Statement) :
    Tells T [] (each (execute host fuel) statements) (courseOf host fuel statements) :=
  tells_along h statements (tells_execute h fuel [])

end

end Session

end TaskRunner
