import TaskRunner.Proofs.Session.Chunks

/-! Where errors come from.  What ends a walk at some point of its course ends the whole walk, and
nothing is made of it on the way out: an error that is raised in a file that is read in, or in a
target that was declared there, is the error of the evaluation.  Errors that have to do with a file
are raised where that file is to be read in. -/

namespace TaskRunner

variable {ω η α β : Type}

/-! ### Errors on their way out -/

/-- Why the turn of a point ended early, if it did. -/
def Point.halt? (host : Host ω η) (point : Point ω η) : Option Halt :=
  match point.turn with
  | .statement statement =>
    Walk.halt? (Session.execute host (point.fuel + 1) statement point.session).1
  | .file path =>
    Walk.halt? (Session.readIn host (Session.execute host point.fuel) path point.session).1

namespace Walk

/-- What ends the turn of a point of the course ends the step. -/
def Passes (host : Host ω η) (step : Walk ω η α) (course : Session ω η → List (Point ω η)) : Prop :=
  ∀ session, ∀ point ∈ course session, ∀ halt,
    point.halt? host = some halt → halt? (step session).1 = some halt

variable {host : Host ω η}

theorem passes_nil (step : Walk ω η α) : Passes host step fun _ => [] := by
  intro session point hpoint
  cases hpoint

theorem Passes.bind {step : Walk ω η α} {course : Session ω η → List (Point ω η)}
    (h : Passes host step course) (next : α → Walk ω η β) : Passes host (step >>= next) course := by
  intro session point hpoint halt hhalt
  have hstep := h session point hpoint halt hhalt
  show halt? (Walk.bind step next session).1 = some halt
  rcases hrun : step session with ⟨result, after⟩
  rw [hrun] at hstep
  cases result with
  | ok value => cases hstep
  | error other =>
    rw [bind_error hrun]
    exact hstep

/-- A step that begins with the turn of a point. -/
theorem Passes.cons {step : Walk ω η α} {course : Session ω η → List (Point ω η)}
    (h : Passes host step course) {first : Session ω η → Point ω η}
    (hfirst : ∀ session, (first session).halt? host = halt? (step session).1) :
    Passes host step fun session => first session :: course session := by
  intro session point hpoint halt hhalt
  rcases List.mem_cons.1 hpoint with rfl | hinside
  · rw [← hfirst]
    exact hhalt
  · exact h session point hinside halt hhalt

theorem passes_along {step : α → Walk ω η β} {course : α → Session ω η → List (Point ω η)}
    (h : ∀ item, Passes host (step item) (course item)) (items : List α) :
    Passes host (each step items) (along step course items) := by
  induction items with
  | nil => exact passes_nil _
  | cons item rest ih =>
    intro session point hpoint halt hhalt
    rw [along] at hpoint
    rw [each]
    rcases hrun : step item session with ⟨result, after⟩
    rw [hrun] at hpoint
    rcases List.mem_append.1 hpoint with hfirst | hlater
    · have hitem := h item session point hfirst halt hhalt
      rw [hrun] at hitem
      cases result with
      | ok value => cases hitem
      | error other =>
        rw [bind_error hrun]
        exact hitem
    · cases result with
      | ok value =>
        rw [bind_ok hrun]
        exact ih.bind _ after point hlater halt hhalt
      | error other => cases hlater

end Walk

namespace Session

open Walk

section

variable {host : Host ω η} {step : Statement → Walk ω η (Option String)}
  {inner : Statement → Session ω η → List (Point ω η)}

theorem passes_configure (hstep : ∀ statement, Passes host (step statement) (inner statement))
    (fuel : Nat) (item : Binding) :
    Passes host (configure host fuel step item) (Binding.course inner item) := by
  unfold configure Binding.course
  cases item.initializer with
  | literal value => exact passes_nil _
  | run run => exact passes_nil _
  | _ => exact (hstep _).bind _

theorem passes_bindVariable (hstep : ∀ statement, Passes host (step statement) (inner statement))
    (item : Binding) : Passes host (bindVariable step item) (Binding.course inner item) := by
  unfold bindVariable Binding.course
  cases item.initializer with
  | literal value => exact passes_nil _
  | run run => exact passes_nil _
  | _ => exact (hstep _).bind _

theorem passes_runBlock (hstep : ∀ statement, Passes host (step statement) (inner statement))
    (run : Run) : Passes host (runBlock step run) (runCourse step inner run) := by
  intro session
  rw [runBlock, runCourse]
  show ∀ point : Point ω η, point ∈ _ → ∀ halt, point.halt? host = some halt →
    halt? (Walk.bind (Walk.ofExcept (orHalt (session.environment.targetOf run))) _ session).1 =
      some halt
  cases session.environment.targetOf run with
  | error error =>
    intro point hpoint
    cases hpoint
  | ok target =>
    have hscope : Passes host (Walk.between
        (fun session => { session with environment := session.environment.push })
        (fun session => { session with environment := session.environment.pop })
        (each step (run.body ++ target))) fun session =>
          Walk.along step inner (run.body ++ target)
            { session with environment := session.environment.push } :=
      fun session => passes_along hstep _ _
    exact hscope.bind _ session

theorem passes_readIn (fuel : Nat) (files : List String)
    {inner : List String → Statement → Session ω η → List (Point ω η)}
    (hstep : ∀ files statement, Passes host (execute host fuel statement) (inner files statement))
    (path : String) : Passes host (readIn host (execute host fuel) path)
      (readInCourse host fuel files inner path) := by
  refine Passes.cons (fun session point hinside halt hhalt => ?_) fun _ => rfl
  cases hopened : opened host path session with
  | error error =>
    rw [hopened] at hinside
    cases hinside
  | ok found =>
    obtain ⟨statements, inside⟩ := found
    rw [hopened] at hinside
    have hwalked :=
      passes_along (hstep (files ++ [path])) statements inside point hinside halt hhalt
    rw [readIn_of_opened_ok hopened]
    cases hresult : (Walk.each (execute host fuel) statements inside).1 with
    | ok values =>
      rw [hresult] at hwalked
      cases hwalked
    | error other =>
      rw [hresult] at hwalked
      exact hwalked

theorem passes_extendBy (fuel : Nat) (files : List String)
    {inner : List String → Statement → Session ω η → List (Point ω η)}
    (hstep : ∀ files statement, Passes host (execute host fuel statement) (inner files statement))
    (path : Literal) : Passes host (extendBy host (execute host fuel) path) fun session =>
      match path.text? with
      | none => []
      | some relative =>
        readInCourse host fuel files inner (Path.join (Path.parent session.origin) relative)
          session := by
  unfold extendBy
  cases path.text? with
  | none => exact passes_nil _
  | some relative => exact fun session => passes_readIn fuel files hstep _ session

theorem passes_execute (host : Host ω η) (fuel : Nat) (files : List String)
    (statement : Statement) :
    Passes host (execute host fuel statement) (course host fuel files statement) := by
  -- What a statement leads to is walked over with less fuel, so the induction is on the fuel.
  induction fuel generalizing files statement with
  | zero => exact passes_nil _
  | succ fuel ih =>
    have hfirst (session : Session ω η) :
        Point.halt? host ⟨fuel, files, .statement statement, session⟩ =
          halt? (execute host (fuel + 1) statement session).1 := rfl
    cases statement with
    | config items =>
      exact Passes.cons ((passes_along (passes_configure (ih files) fuel) items).bind _) hfirst
    | var items =>
      exact Passes.cons ((passes_along (passes_bindVariable (ih files)) items).bind _) hfirst
    | run run => exact Passes.cons ((passes_runBlock (ih files) run).bind _) hfirst
    | extend paths =>
      exact Passes.cons ((passes_along (passes_extendBy fuel files ih) paths).bind _) hfirst
    | _ => exact Passes.cons (passes_nil _) hfirst

/-- What ends the turn of a point ends the walk. -/
theorem passes_courseOf (host : Host ω η) (fuel : Nat) (statements : List Statement) :
    Passes host (each (execute host fuel) statements) (courseOf host fuel statements) :=
  passes_along (passes_execute host fuel []) statements

end

end Session

/-! ### Errors where they are raised -/

/-- The reason has nothing to do with a file that is to be read in. -/
inductive Halt.IsApart : Halt → Prop where
  | exhausted : Halt.IsApart .exhausted
  | undefinedTarget (name : String) : Halt.IsApart (.error (.undefinedTarget name))
  | invalidPath (path : String) : Halt.IsApart (.error (.invalidPath path))
  | notStarted (shell : String) (fault : Fault) : Halt.IsApart (.error (.notStarted shell fault))

/-- The turn is that of a file whose text is read. -/
structure Point.Reads (host : Host ω η) (path source : String) (point : Point ω η) : Prop where
  turn : point.turn = .file path
  fresh : ¬point.session.chain.any
    (Path.same (host.canonicalPath point.session.world path))
  read : host.readText path point.session.world = .ok source

/-- The turn is that of a file that is not read in, for the given error. -/
def Point.FailsToOpen (host : Host ω η) (error : RunError) (point : Point ω η) : Prop :=
  ∃ path, point.turn = .file path ∧ Session.opened host path point.session = .error error

namespace Session

open Walk

variable {host : Host ω η}

theorem isApart_of_capture {fuel : Nat} {run : Run} {session : Session ω η} {halt : Halt}
    (h : halt? (capture host fuel run session).1 = some halt) : halt.IsApart := by
  cases hscripts : session.environment.scriptsOf fuel run with
  | error other =>
    rw [capture_of_scriptsOf_error hscripts] at h
    cases h
    rcases Environment.scriptsOf_error hscripts with rfl | ⟨name, rfl, -⟩
    · exact .exhausted
    · exact .undefinedTarget name
  | ok scripts =>
    rcases capture_of_scriptsOf host hscripts with
      ⟨_, _, _, hcapture⟩ | ⟨fault, _, _, hcapture⟩ <;> rw [hcapture] at h <;> cases h
    exact .notStarted _ fault

theorem isApart_of_action {fuel : Nat} {script : String} {session : Session ω η} {halt : Halt}
    (h : halt? (action host fuel script session).1 = some halt) : halt.IsApart := by
  by_cases hscript : trimScript script = ""
  · rw [action_of_blank hscript] at h
    cases h
  have hresolution := resolution_each host fuel session.environment.visible.entries session
  generalize heach : Walk.each (resolve host fuel) session.environment.visible.entries session =
    ended at hresolution
  cases hresolution with
  | @resolved _ exports world _ =>
    rw [action_of_each_ok hscript heach, launch] at h
    split at h
    · cases h
    next fault _ _ =>
      cases h
      exact .notStarted _ fault
  | unresolved hfails =>
    rw [action_of_each_error hscript heach] at h
    cases h
    rcases hfails.error_cases with ⟨name, rfl⟩ | ⟨fault, rfl⟩
    · exact .undefinedTarget name
    · exact .notStarted _ fault
  | exhausted =>
    rw [action_of_each_error hscript heach] at h
    cases h
    exact .exhausted

/-- A walk that ended early did so for a reason apart from files, or at a file that is not read
in. -/
def TellsFiles (host : Host ω η) (points : List (Point ω η)) (halt : Option Halt) : Prop :=
  ∀ reason, halt = some reason →
    reason.IsApart ∨ ∃ error, reason = .error error ∧ ∃ point ∈ points, point.FailsToOpen host error

theorem TellsFiles.mono {points more : List (Point ω η)} {halt : Option Halt}
    (h : TellsFiles host points halt) (hsubset : points ⊆ more) : TellsFiles host more halt := by
  intro reason hreason
  rcases h reason hreason with hapart | ⟨error, rfl, point, hpoint, hfails⟩
  · exact .inl hapart
  · exact .inr ⟨error, rfl, point, hsubset hpoint, hfails⟩

theorem tellsFiles_none (points : List (Point ω η)) : TellsFiles host points none := by
  intro reason hreason
  cases hreason

theorem isAccount_files (host : Host ω η) :
    Walk.IsAccount host fun _ _ points halt _ => TellsFiles host points halt where
  none _ _ := tellsFiles_none []
  seq _ h' := h'.mono (List.subset_append_right _ _)
  exhausted _ _ _ hreason := by
    cases hreason
    exact .inl .exhausted
  undefined _ _ _ _ htarget _ hreason := by
    obtain ⟨name, rfl⟩ := Environment.targetOf_error htarget
    cases hreason
    exact .inl (.undefinedTarget name)
  invalid _ _ path _ hreason := by
    cases hreason
    exact .inl (.invalidPath path)
  captured _ _ _ _ _ hreason := .inl (isApart_of_capture hreason)
  configured _ _ _ _ := tellsFiles_none []
  boundVariable _ _ _ _ := tellsFiles_none []
  declared _ _ _ _ _ := tellsFiles_none _
  described _ _ _ _ := tellsFiles_none _
  acted _ _ _ _ _ hreason := .inl (isApart_of_action hreason)
  entered _ _ _ h := h.mono (List.subset_cons_self _ _)
  scope h := h
  closed _ _ fuel path error hopened _ hreason := by
    cases hreason
    exact .inr ⟨error, rfl, _, List.mem_singleton.2 rfl, path, rfl, hopened⟩
  file _ _ _ _ _ _ h := h.mono (List.subset_cons_self _ _)

/-- A file is not read in because it is being read, because it cannot be read, or because its text
is refused. -/
theorem of_opened_error {path : String} {session : Session ω η} {error : RunError}
    (h : opened host path session = .error error) :
    error = .circularExtends path ∨ (∃ fault, error = .unreadable path fault) ∨
      ¬session.chain.any (Path.same (host.canonicalPath session.world path)) ∧
        ∃ source refusal, host.readText path session.world = .ok source ∧
          parseSource source = .error refusal ∧ error = .inFile path (.source refusal) := by
  unfold opened at h
  grind

/-- The error of a file ends the walk just if the walk comes to the file. -/
theorem walk_fails_iff (host : Host ω η) (fuel : Nat) (statements : List Statement)
    (session : Session ω η) {error : RunError} (h : ¬(Halt.error error).IsApart) :
    (each (execute host fuel) statements session).1 = .error (.error error) ↔
      ∃ point ∈ courseOf host fuel statements session, point.FailsToOpen host error := by
  have hhalt : (each (execute host fuel) statements session).1 = .error (.error error) ↔
      halt? (each (execute host fuel) statements session).1 = some (.error error) := by
    cases (each (execute host fuel) statements session).1 <;> simp [halt?]
  rw [hhalt]
  constructor
  · intro hends
    rcases tells_courseOf (isAccount_files host) fuel statements session _ hends with
      hapart | ⟨_, heq, hfails⟩
    · exact absurd hapart h
    · cases heq
      exact hfails
  · rintro ⟨point, hpoint, path, hturn, hopened⟩
    refine passes_courseOf host fuel statements session point hpoint _ ?_
    simp only [Point.halt?, hturn]
    rw [readIn_of_opened_error hopened]
    rfl

end Session

/-! ### Errors of evaluations -/

/-- The error is that of the scanner on the text, or that of the parser on its tokens. -/
inductive SourceError.IsOf (source : String) : SourceError → Prop where
  | scan {fault : ScanError} (h : TaskRunner.scan source = .error fault) : IsOf source (.scan fault)
  | parse {tokens : List Token} {fault : ParseError} (h : TaskRunner.scan source = .ok tokens)
    (h' : TaskRunner.parse tokens = .error fault) : IsOf source (.parse fault)

theorem SourceError.isOf_of_parseSource {source : String} {error : SourceError}
    (h : parseSource source = .error error) : error.IsOf source := by
  unfold parseSource at h
  split at h
  next fault hscan =>
    cases h
    exact .scan hscan
  next tokens hscan =>
    split at h
    next fault hparse =>
      cases h
      exact .parse hscan hparse
    next => cases h

theorem Sink.writeAll_error {chunks : List Bytes} {sink taken : Sink} {error : RunError}
    (h : sink.writeAll chunks = (.error error, taken)) : error = .output .full := by
  rw [writeAll_eq] at h
  split at h <;> cases h
  rfl

theorem Entry.of_failure? {entry : Entry Outcome} {error : RunError}
    (h : entry.failure? = some error) :
    ∃ command status, error = .commandFailed command status := by
  cases entry with
  | text text => cases h
  | process command outcome =>
    rw [failure?] at h
    split at h <;> cases h
    exact ⟨command, outcome.status, rfl⟩

/-- The writing ends as the first process that fails has it, or else the sink is at fault. -/
theorem fst_drain (host : Host ω η) (sink : Sink) (queue : List (Entry η)) (world : ω) :
    (drain host sink queue world).1 =
        verdictOf ((Entry.settled host queue world).findSome? Entry.failure?) ∨
      ∃ fault, (drain host sink queue world).1 = .error (.output fault) := by
  induction queue generalizing sink world with
  | nil =>
    rw [drain, Sink.flush]
    by_cases hbroken : sink.broken
    · rw [if_pos hbroken]
      exact .inr ⟨.broken, rfl⟩
    · rw [if_neg hbroken]
      exact .inl rfl
  | cons entry rest ih =>
    rw [drain_cons, Entry.settled, List.findSome?_cons, Sink.receive]
    rcases hwritten : sink.writeAll (entry.wait host world).1.writes with ⟨error | ⟨⟩, taken⟩
    · obtain rfl := Sink.writeAll_error hwritten
      exact .inr ⟨.full, rfl⟩
    · cases (entry.wait host world).1.failure? with
      | some error => exact .inl rfl
      | none => exact ih taken _

theorem of_drain_error {host : Host ω η} {sink : Sink} {queue : List (Entry η)} {world : ω}
    {error : RunError} (h : (drain host sink queue world).1 = .error error) :
    (Entry.settled host queue world).findSome? Entry.failure? = some error ∨
      ∃ fault, error = .output fault := by
  rcases fst_drain host sink queue world with hends | ⟨fault, hfault⟩
  · left
    rw [h] at hends
    cases hfailure : (Entry.settled host queue world).findSome? Entry.failure? with
    | none =>
      rw [hfailure] at hends
      cases hends
    | some other =>
      rw [hfailure] at hends
      cases hends
      rfl
  · cases h.symm.trans hfault
    exact .inr ⟨fault, rfl⟩

namespace Session

variable {host : Host ω η} {fuel : Nat} {statements : List Statement}
  {session : Session ω η} {sink : Sink} {done : Evaluation ω η}

theorem error_of_map {ε : Type} {result : Except ε α} {f : α → β} {error : ε}
    (h : result.map f = .error error) : result = .error error := by
  cases result with
  | ok value => cases h
  | error other =>
    cases h
    rfl

/-- An error that neither a walk apart from files nor the writing has is that of a file which is not
read in. -/
theorem fails_of_result (hdone : evaluate host fuel statements session sink = some done)
    {error : RunError} (herror : done.result = .error error) (hapart : ¬(Halt.error error).IsApart)
    (hcommand : ∀ command status, error ≠ .commandFailed command status)
    (houtput : ∀ fault, error ≠ .output fault) :
    ∃ point ∈ courseOf host fuel statements session, point.FailsToOpen host error := by
  obtain ⟨-, -, ⟨other, hwalked, hresult⟩ | ⟨values, -, hresult⟩⟩ := ends_of_evaluate hdone
  · cases herror.symm.trans hresult
    exact (walk_fails_iff host fuel statements session hapart).1 hwalked
  · rcases of_drain_error (error_of_map (hresult.symm.trans herror)) with hprocess | ⟨fault, rfl⟩
    · obtain ⟨entry, -, hfailure⟩ := List.exists_of_findSome?_eq_some hprocess
      obtain ⟨command, status, rfl⟩ := Entry.of_failure? hfailure
      exact absurd rfl (hcommand command status)
    · exact absurd rfl (houtput fault)

/-- Where the error of an evaluation comes from.  No variable is ever undefined.  The error of a
file is the scanner's or the parser's on the text that was read from that file, no error of another
file and none of running.  What ends the turn of a statement or a file, however deep in files that
are read in or in targets that were declared there, is the error of the evaluation as it is.  Where
the walk comes to its end, the error is that of the first process that failed, or the sink is at
fault. -/
theorem evaluate_attributes_errors
    (hdone : evaluate host fuel statements session sink = some done) :
    let course := courseOf host fuel statements session
    let walked := Walk.each (execute host fuel) statements session
    let outcomes :=
      Entry.settled host (session.queue ++ course.flatMap (Point.entries host)) walked.2.world
    (∀ name, done.result ≠ .error (.undefinedVariable name)) ∧
      (∀ path failure, done.result = .error (.inFile path failure) →
        ∃ error, failure = .source error ∧
          ∃ point ∈ course, ∃ source, point.Reads host path source ∧
            parseSource source = .error error ∧ error.IsOf source) ∧
      (∀ point ∈ course, ∀ error, point.halt? host = some (.error error) →
        done.result = .error error) ∧
      ∀ error, done.result = .error error →
        walked.1 = .error (.error error) ∨
          (∃ values, walked.1 = .ok values) ∧
            (outcomes.findSome? Entry.failure? = some error ∨ ∃ fault, error = .output fault) := by
  intro course walked outcomes
  refine ⟨fun name herror => ?_, fun path failure herror => ?_, fun point hpoint error hhalt => ?_,
    fun error herror => ?_⟩
  · obtain ⟨point, -, path, -, hopened⟩ :=
      fails_of_result hdone herror (by nofun) (by nofun) (by nofun)
    rcases of_opened_error hopened with hcircle | ⟨fault, hfault⟩ | ⟨-, _, _, -, -, hrefused⟩
    · cases hcircle
    · cases hfault
    · cases hrefused
  · obtain ⟨point, hpoint, other, hturn, hopened⟩ :=
      fails_of_result hdone herror (by nofun) (by nofun) (by nofun)
    rcases of_opened_error hopened with hcircle | ⟨fault, hfault⟩ |
      ⟨hfresh, source, refusal, hread, hparse, hrefused⟩
    · cases hcircle
    · cases hfault
    · cases hrefused
      exact ⟨refusal, rfl, point, hpoint, source, ⟨hturn, hfresh, hread⟩, hparse,
        SourceError.isOf_of_parseSource hparse⟩
  · have hpassed := passes_courseOf host fuel statements session point hpoint _ hhalt
    obtain ⟨-, -, ⟨other, hwalked, hresult⟩ | ⟨values, hwalked, -⟩⟩ := ends_of_evaluate hdone
    · rw [hwalked] at hpassed
      cases hpassed
      exact hresult
    · rw [hwalked] at hpassed
      cases hpassed
  · obtain ⟨-, -, ⟨other, hwalked, hresult⟩ | ⟨values, hwalked, hresult⟩⟩ := ends_of_evaluate hdone
    · cases herror.symm.trans hresult
      exact .inl hwalked
    · have hqueue : walked.2.queue = session.queue ++ course.flatMap (Point.entries host) :=
        tells_courseOf (isAccount_queue host) fuel statements session
      rw [hqueue] at hresult
      exact .inr ⟨⟨values, hwalked⟩, of_drain_error (error_of_map (hresult.symm.trans herror))⟩

/-- A file that is read in by a file that is read in, and that ends too early. -/
theorem evaluate_attributes_errors_chain :
    let host := Host.recordedBeside [("b.rny", "extends \x7b c.rny \x7d"), ("c.rny", "target")]
      fun _ => ⟨⟨[], [], []⟩, .code 0⟩
    let statements : List Statement := [.describe ["a"], .extend [.string "b.rny"]]
    let session := start host "a.rny" []
    let refusal : SourceError := .parse ⟨.name .target, none, ⟨1, 7, 6⟩⟩
    ∃ done, evaluate host 9 statements session ⟨[], none, false⟩ = some done ∧
      done.result = .error (.inFile "c.rny" (.source refusal)) ∧
      ∃ point ∈ courseOf host 9 statements session, ∃ source,
        point.Reads host "c.rny" source ∧ refusal.IsOf source := by
  intro host statements session refusal
  have hwalk : (Walk.each (execute host 9) statements session).1 =
      .error (.error (.inFile "c.rny" (.source refusal))) := by decide +kernel
  obtain ⟨done, hdone, hresult⟩ : ∃ done,
      evaluate host 9 statements session ⟨[], none, false⟩ = some done ∧
        done.result = .error (.inFile "c.rny" (.source refusal)) := by
    rcases hends : Walk.each (execute host 9) statements session with ⟨result, after⟩
    rw [hends] at hwalk
    obtain rfl := hwalk
    exact ⟨_, evaluate_of_each_error hends _, rfl⟩
  obtain ⟨-, hfile, -⟩ := evaluate_attributes_errors hdone
  obtain ⟨error, hsame, point, hpoint, source, hreads, -, hof⟩ := hfile "c.rny" _ hresult
  obtain rfl : refusal = error := Failure.source.inj hsame
  exact ⟨done, hdone, hresult, point, hpoint, source, hreads, hof⟩

end Session

end TaskRunner
