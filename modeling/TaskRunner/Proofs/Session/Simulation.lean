import TaskRunner.Proofs.Session.Queue

/-! Walks side by side.  In steady surroundings, the walks over statements that differ in scripts
only lead from sessions that are alike to sessions that are alike, and end with the same result;
what they have queued is shown alike. -/

namespace TaskRunner

variable {ω η α β γ δ : Type}

namespace Walk

/-- From related sessions, the steps lead to results that agree and to related sessions. -/
def Relates (R : Session ω η → Session ω η → Prop) (V : α → β → Prop) (step : Walk ω η α)
    (other : Walk ω η β) : Prop :=
  ∀ session session', R session session' →
    Agree V (step session).1 (other session').1 ∧ R (step session).2 (other session').2

variable {R : Session ω η → Session ω η → Prop} {V : α → β → Prop} {W : γ → δ → Prop}

theorem relates_ofExcept {found : Except Halt α} {found' : Except Halt β}
    (h : Agree V found found') :
    Relates R V (ofExcept found) (ofExcept found') :=
  fun _ _ hsession => ⟨h, hsession⟩

theorem relates_pure {a : α} {b : β} (h : V a b) :
    Relates R V (Pure.pure a : Walk ω η α) (Pure.pure b) :=
  fun _ _ hsession => ⟨.ok h, hsession⟩

theorem relates_get {part : Session ω η → α} {part' : Session ω η → β}
    (h : ∀ session session', R session session' → V (part session) (part' session')) :
    Relates R V (get part) (get part') :=
  fun session session' hsession => ⟨.ok (h session session' hsession), hsession⟩

theorem relates_modify {change change' : Session ω η → Session ω η}
    (h : ∀ session session', R session session' → R (change session) (change' session')) :
    Relates R (· = ·) (modify change) (modify change') :=
  fun session session' hsession => ⟨.ok rfl, h session session' hsession⟩

theorem Relates.bind {step : Walk ω η α} {other : Walk ω η β} {next : α → Walk ω η γ}
    {after : β → Walk ω η δ} (h : Relates R V step other)
    (hnext : ∀ a b, V a b → Relates R W (next a) (after b)) :
    Relates R W (step >>= next) (other >>= after) := by
  intro session session' hsession
  obtain ⟨hvalue, hmiddle⟩ := h session session' hsession
  show Agree W (Walk.bind step next session).1 (Walk.bind other after session').1 ∧
    R (Walk.bind step next session).2 (Walk.bind other after session').2
  rcases hstep : step session with ⟨result, middle⟩
  rcases hother : other session' with ⟨result', middle'⟩
  rw [hstep, hother] at hvalue hmiddle
  cases hvalue with
  | ok hab =>
    rw [bind_ok hstep, bind_ok hother]
    exact hnext _ _ hab middle middle' hmiddle
  | error halt =>
    rw [bind_error hstep, bind_error hother]
    exact ⟨.error halt, hmiddle⟩

/-- Two steps with the same value go on from it. -/
theorem Relates.bind_eq {step other : Walk ω η α} {next : α → Walk ω η γ} {after : α → Walk ω η δ}
    (h : Relates R (· = ·) step other) (hnext : ∀ a, Relates R W (next a) (after a)) :
    Relates R W (step >>= next) (other >>= after) :=
  h.bind fun a _ hab => hab ▸ hnext a

theorem relates_each {P : γ → δ → Prop} {step : γ → Walk ω η α} {other : δ → Walk ω η α}
    (hstep : ∀ a b, P a b → Relates R (· = ·) (step a) (other b)) {items : List γ}
    {others : List δ} (h : List.Forall₂ P items others) :
    Relates R (· = ·) (each step items) (each other others) := by
  induction h with
  | nil => exact relates_pure rfl
  | cons hitem _ ih =>
    exact (hstep _ _ hitem).bind_eq fun _ => ih.bind_eq fun _ => relates_pure rfl

theorem Relates.between {first last : Session ω η → Session ω η} {step : Walk ω η α}
    {other : Walk ω η β}
    (hfirst : ∀ session session', R session session' → R (first session) (first session'))
    (hlast : ∀ session session', R session session' → R (last session) (last session'))
    (h : Relates R V step other) :
    Relates R V (between first last step) (between first last other) := by
  intro session session' hsession
  obtain ⟨hvalue, hafter⟩ := h _ _ (hfirst session session' hsession)
  exact ⟨hvalue, hlast _ _ hafter⟩

end Walk

namespace Session

open Walk

section

variable {host : Host ω η} {outcome : Invocation → Except Fault Outcome}
  {due : ω → η → Option Outcome} {S : String → String → Prop}

theorem relates_runScript (h : host.TreatsAlike outcome due S) {script other : String}
    (hscript : S script other) (exports : List (String × String)) :
    Relates (Session.Alike host due S) (· = ·) (runScript host script exports)
      (runScript host other exports) := by
  intro session session' hsession
  obtain ⟨world, hkeeps, hrun⟩ := runScript_eq h.steady script exports session
  obtain ⟨world', hkeeps', hrun'⟩ := runScript_eq h.steady other exports session'
  have hafter := hsession.keeps hkeeps hkeeps'
  rw [hrun, hrun', ← hsession.shell, ← h.same session.shell exports hscript]
  cases outcome ⟨session.shell, script, exports⟩ with
  | ok result => exact ⟨.ok rfl, hafter⟩
  | error fault => exact ⟨.error _, hafter⟩

theorem relates_environment :
    Relates (Session.Alike host due S) (Environment.Alike S) (Walk.get environment)
      (Walk.get environment) :=
  relates_get fun _ _ hsession => hsession.environment

theorem relates_capture (h : host.TreatsAlike outcome due S) (fuel : Nat) {run run' : Run}
    (hrun : Run.Alike S run run') :
    Relates (Session.Alike host due S) (· = ·) (capture host fuel run)
      (capture host fuel run') := by
  refine relates_environment.bind fun env env' henv => ?_
  refine (relates_ofExcept (henv.scriptsOf h.shows fuel hrun)).bind
    fun scripts scripts' hscripts => ?_
  rw [henv.texts]
  exact (relates_each (P := S) (fun _ _ hscript => relates_runScript h hscript _) hscripts).bind_eq
    fun _ => relates_pure rfl

theorem relates_resolve (h : host.TreatsAlike outcome due S) (fuel : Nat)
    {entry entry' : String × Value} (hentry : Named (Value.Alike S) entry entry') :
    Relates (Session.Alike host due S) (· = ·) (resolve host fuel entry)
      (resolve host fuel entry') := by
  obtain ⟨name, value⟩ := entry
  obtain ⟨name', value'⟩ := entry'
  obtain ⟨hname, hvalue⟩ := hentry
  obtain rfl : name = name' := hname
  cases hvalue with
  | text text => exact relates_pure rfl
  | pending hrun => exact (relates_capture h fuel hrun).bind_eq fun _ => relates_pure rfl

theorem relates_enqueue_text (text : String) :
    Relates (Session.Alike host due S) (· = ·) (enqueue (.text text)) (enqueue (.text text)) := by
  refine relates_modify fun session session' hsession => ?_
  refine { hsession with queue := ⟨?_, ?_, ?_⟩ }
  · exact List.rel_append hsession.queue.entries (.cons (.text text) .nil)
  · simpa [Entry.processes] using hsession.queue.nodup
  · simpa [Entry.processes] using hsession.queue.nodup'

/-- A process that was not running before is queued. -/
theorem Alike.enqueue_process {session session' : Session ω η}
    (hsession : Session.Alike host due S session session') {world world' : ω}
    (hkeeps : host.Keeps due session.world world) (hkeeps' : host.Keeps due session'.world world')
    {process process' : η} (hfresh : due session.world process = none)
    (hfresh' : due session'.world process' = none) {result : Outcome}
    (hdue : due world process = some result) (hdue' : due world' process' = some result)
    {script other : String} (hscript : S script other) :
    Session.Alike host due S
      { session with world, queue := session.queue ++ [.process script process] }
      { session' with world := world', queue := session'.queue ++ [.process other process'] } := by
  have hafter := hsession.keeps hkeeps hkeeps'
  obtain ⟨hrunning, hrunning'⟩ := Entry.exists_due hsession.queue.entries
  refine { hafter with queue := ⟨?_, ?_, ?_⟩ }
  · exact List.rel_append hafter.queue.entries (.cons (.process hscript hdue hdue') .nil)
  · exact Entry.nodup_processes_append hsession.queue.nodup hrunning hfresh script
  · exact Entry.nodup_processes_append hsession.queue.nodup' hrunning' hfresh' other

/-- A script that is started is queued in both sessions, or cannot be started in either. -/
theorem relates_startScript (h : host.TreatsAlike outcome due S) {script other : String}
    (hscript : S script other) (exports : List (String × String)) :
    Relates (Session.Alike host due S) (· = ·)
      (do
        let process ← startScript host script exports
        enqueue (.process script process))
      (do
        let process ← startScript host other exports
        enqueue (.process other process)) := by
  intro session session' hsession
  have hsame := h.same session.shell exports hscript
  show Agree _ (Walk.bind (startScript host script exports) _ session).1
      (Walk.bind (startScript host other exports) _ session').1 ∧
    Session.Alike host due S (Walk.bind (startScript host script exports) _ session).2
      (Walk.bind (startScript host other exports) _ session').2
  obtain ⟨world, hkeeps, hcases⟩ := startScript_cases h.steady script exports session
  obtain ⟨world', hkeeps', hcases'⟩ := startScript_cases h.steady other exports session'
  rw [← hsession.shell, ← hsame] at hcases'
  rcases hcases with ⟨process, result, hresult, hfresh, hdue, hstart⟩ | ⟨fault, hfault, hstart⟩
  · obtain ⟨process', result', hresult', hfresh', hdue', hstart'⟩ :=
      hcases'.resolve_right fun ⟨_, hfault, _⟩ => by simp [hresult] at hfault
    cases hresult.symm.trans hresult'
    rw [Walk.bind_ok hstart, Walk.bind_ok hstart']
    exact ⟨.ok rfl,
      hsession.enqueue_process hkeeps hkeeps' hfresh hfresh' hdue hdue' hscript⟩
  · obtain ⟨fault', hfault', hstart'⟩ :=
      hcases'.resolve_left fun ⟨_, _, hresult, _⟩ => by simp [hfault] at hresult
    cases hfault.symm.trans hfault'
    rw [Walk.bind_error hstart, Walk.bind_error hstart']
    exact ⟨.error _, hsession.keeps hkeeps hkeeps'⟩

theorem relates_action (h : host.TreatsAlike outcome due S) (fuel : Nat) {script other : String}
    (hscript : S script other) :
    Relates (Session.Alike host due S) (· = ·) (action host fuel script)
      (action host fuel other) := by
  have hblank := h.shows.blank hscript
  unfold action
  by_cases hempty : trimScript script = ""
  · rw [if_pos hempty, if_pos (hblank.1 hempty)]
    exact relates_pure rfl
  · rw [if_neg hempty, if_neg (fun hother => hempty (hblank.2 hother)), h.shows.echo hscript]
    refine relates_environment.bind fun env env' henv => ?_
    refine (relates_each (fun _ _ hentry => relates_resolve h fuel hentry) henv.visible).bind_eq
      fun exports => ?_
    exact (relates_enqueue_text _).bind_eq fun _ =>
      relates_startScript h (h.shows.trimmed hscript) exports

/-! ### Statements -/

variable {step step' : Statement → Walk ω η (Option String)}

/-- The steps for statements that differ in scripts only. -/
def StepsAlike (host : Host ω η) (due : ω → η → Option Outcome) (S : String → String → Prop)
    (step step' : Statement → Walk ω η (Option String)) : Prop :=
  ∀ statement statement', Statement.Alike S statement statement' →
    Relates (Session.Alike host due S) (· = ·) (step statement) (step' statement')

theorem relates_configure (h : host.TreatsAlike outcome due S)
    (hstep : StepsAlike host due S step step') (fuel : Nat) {item item' : Binding}
    (hitem : Binding.Alike S item item') :
    Relates (Session.Alike host due S) (· = ·) (configure host fuel step item)
      (configure host fuel step' item') := by
  have hset (name : String) (value : Literal) :
      Relates (Session.Alike host due S) (· = ·)
        (Walk.modify fun session => { session with config := session.config.insert name value })
        (Walk.modify fun session => { session with config := session.config.insert name value }) :=
    relates_modify fun _ _ hsession => { hsession with config := by rw [hsession.config] }
  cases hitem with
  | mk name hinitializer =>
    have hother := hstep _ _ hinitializer
    cases hinitializer with
    | literal value => exact (relates_pure rfl).bind_eq (hset name)
    | run hrun =>
      exact ((relates_capture h fuel hrun).bind_eq fun _ => relates_pure rfl).bind_eq (hset name)
    | _ => exact hother.bind_eq fun _ => (relates_pure rfl).bind_eq (hset name)

theorem relates_bindVariable (hstep : StepsAlike host due S step step') {item item' : Binding}
    (hitem : Binding.Alike S item item') :
    Relates (Session.Alike host due S) (· = ·) (bindVariable step item)
      (bindVariable step' item') := by
  have hset (name : String) (value value' : Value) (hvalue : Value.Alike S value value') :
      Relates (Session.Alike host due S) (· = ·)
        (Walk.modify fun session =>
          { session with environment := session.environment.defineVariable name value })
        (Walk.modify fun session =>
          { session with environment := session.environment.defineVariable name value' }) :=
    relates_modify fun _ _ hsession =>
      { hsession with environment := hsession.environment.defineVariable name hvalue }
  cases hitem with
  | mk name hinitializer =>
    have hother := hstep _ _ hinitializer
    cases hinitializer with
    | literal value => exact (relates_pure (.text _)).bind (hset name)
    | run hrun => exact (relates_pure (.pending hrun)).bind (hset name)
    | _ => exact hother.bind_eq fun _ => (relates_pure (.text _)).bind (hset name)

theorem relates_runBlock (hstep : StepsAlike host due S step step') {run run' : Run}
    (hrun : Run.Alike S run run') :
    Relates (Session.Alike host due S) (· = ·) (runBlock step run) (runBlock step' run') := by
  refine relates_environment.bind fun env env' henv => ?_
  refine (relates_ofExcept (henv.targetOf hrun).orHalt).bind fun target target' htarget => ?_
  cases hrun with
  | mk name stage hbody =>
    have hstatements := relates_each hstep (List.rel_append hbody htarget)
    refine (Relates.between ?_ ?_ hstatements).bind_eq fun _ => relates_pure rfl
    · exact fun _ _ hsession => { hsession with environment := hsession.environment.push }
    · exact fun _ _ hsession => { hsession with environment := hsession.environment.pop }

theorem relates_readIn (hS : ∀ script, S script script)
    (hstep : StepsAlike host due S step step') (path : String) :
    Relates (Session.Alike host due S) (· = ·) (readIn host step path)
      (readIn host step' path) := by
  intro session session' hsession
  have hcanonical := hsession.files.canonical path
  have htext := hsession.files.readText path
  unfold readIn
  rw [← hcanonical, ← htext, ← hsession.chain, ← hsession.origin]
  dsimp only
  generalize (host.canonical? path session.world).getD path = key
  split
  · exact ⟨.error _, hsession⟩
  split
  · exact ⟨.error _, hsession⟩
  split
  · exact ⟨.error _, hsession⟩
  next statements _ =>
    have hinside : Session.Alike host due S
        { session with origin := path, chain := session.chain ++ [key] }
        { session' with origin := path, chain := session.chain ++ [key] } :=
      { hsession with origin := rfl, chain := rfl }
    obtain ⟨hresult, hafter⟩ :=
      relates_each hstep (Statement.alike_refl_row hS statements) _ _ hinside
    exact ⟨hresult.map fun _ => (),
      { hafter with origin := rfl, chain := congrArg List.dropLast hafter.chain }⟩

theorem relates_extendBy (hS : ∀ script, S script script)
    (hstep : StepsAlike host due S step step') (path : Literal) :
    Relates (Session.Alike host due S) (· = ·) (extendBy host step path)
      (extendBy host step' path) := by
  unfold extendBy
  split
  · exact fun _ _ hsession => ⟨.error _, hsession⟩
  · exact (relates_get fun _ _ hsession => hsession.origin).bind_eq fun _ =>
      relates_readIn hS hstep _

/-- The walks over two statements that differ in scripts only go side by side. -/
theorem stepsAlike_execute (h : host.TreatsAlike outcome due S) (fuel : Nat) :
    StepsAlike host due S (execute host fuel) (execute host fuel) := by
  induction fuel with
  | zero => exact fun _ _ _ => relates_ofExcept (.error _)
  | succ fuel ih =>
    have hnone {β : Type} (_ : β) :
        Relates (Session.Alike host due S) (· = ·) (Pure.pure (none : Option String))
          (Pure.pure none) := relates_pure rfl
    intro statement statement' hstatement
    cases hstatement with
    | config hitems =>
      exact (relates_each (fun _ _ hitem => relates_configure h ih fuel hitem) hitems).bind_eq hnone
    | var hitems =>
      exact (relates_each (fun _ _ hitem => relates_bindVariable ih hitem) hitems).bind_eq hnone
    | target name hbody =>
      refine (relates_modify fun _ _ hsession => ?_).bind_eq hnone
      exact { hsession with
        environment := hsession.environment.defineTarget name (Statement.alike_sortByStage hbody) }
    | run hrun => exact (relates_runBlock ih hrun).bind_eq hnone
    | action hscript => exact (relates_action h fuel hscript).bind_eq hnone
    | describe lines =>
      exact (relates_each (P := (· = ·)) (fun _ _ hline => hline ▸ relates_enqueue_text _)
        (List.forall₂_same.2 fun _ _ => rfl)).bind_eq hnone
    | extend paths =>
      exact (relates_each (P := (· = ·))
        (fun _ _ hpath => hpath ▸ relates_extendBy h.shows.refl ih _)
        (List.forall₂_same.2 fun _ _ => rfl)).bind_eq hnone
    | literal value => exact relates_pure rfl

end

end Session

/-! ### What is shown -/

/-- The errors are the same, or of commands that failed in the same way and that the relation holds
between. -/
inductive RunError.Alike (S : String → String → Prop) : RunError → RunError → Prop where
  | refl (error : RunError) : RunError.Alike S error error
  | commandFailed {command other : String} (h : S command other) (status : ExitStatus) :
      RunError.Alike S (.commandFailed command status) (.commandFailed other status)

/-- Both results are the same value, or errors that are alike. -/
inductive ResultAlike (S : String → String → Prop) :
    Except RunError α → Except RunError α → Prop where
  | ok (a : α) : ResultAlike S (.ok a) (.ok a)
  | error {error other : RunError} (h : RunError.Alike S error other) :
      ResultAlike S (.error error) (.error other)

section

variable {host : Host ω η} {outcome : Invocation → Except Fault Outcome}
  {due : ω → η → Option Outcome} {S : String → String → Prop}

theorem ResultAlike.refl (result : Except RunError α) : ResultAlike S result result := by
  cases result with
  | ok a => exact .ok a
  | error error => exact .error (.refl error)

theorem ResultAlike.map {result other : Except RunError α} (h : ResultAlike S result other)
    (f : α → β) : ResultAlike S (result.map f) (other.map f) := by
  cases h with
  | ok a => exact .ok (f a)
  | error herror => exact .error herror

/-- Behind a process that has ended, the queues go on to show the same. -/
theorem Entry.QueuesAlike.tail (h : host.IsSteady outcome due) {world world' : ω}
    {command command' : String} {process process' : η} {queue other : List (Entry η)}
    (hqueue : Entry.QueuesAlike S (due world) (due world') (.process command process :: queue)
      (.process command' process' :: other)) :
    Entry.QueuesAlike S (due (host.finish process world).2) (due (host.finish process' world').2)
      queue other := by
  obtain ⟨hentries, hnodup, hnodup'⟩ := hqueue
  obtain ⟨hfirst, hrest⟩ := List.nodup_cons.1 hnodup
  obtain ⟨hfirst', hrest'⟩ := List.nodup_cons.1 hnodup'
  obtain ⟨-, hentries⟩ := List.forall₂_cons.1 hentries
  refine ⟨Entry.rel_mono hentries ?_ ?_, hrest, hrest'⟩
  · exact fun other hother _ => h.finished_running fun heq => hfirst (heq ▸ hother)
  · exact fun other hother _ => h.finished_running fun heq => hfirst' (heq ▸ hother)

/-- Queues that show the same are written alike to every sink. -/
theorem drain_alike (h : host.IsSteady outcome due) {queue other : List (Entry η)}
    {world world' : ω} (hqueue : Entry.QueuesAlike S (due world) (due world') queue other)
    (sink : Sink) :
    ResultAlike S (drain host sink queue world).1 (drain host sink other world').1 ∧
      (drain host sink queue world).2.1 = (drain host sink other world').2.1 := by
  induction queue generalizing other world world' sink with
  | nil =>
    cases hqueue.entries
    exact ⟨.refl _, rfl⟩
  | cons entry queue ih =>
    obtain ⟨entry', other, hentry, hentries, rfl⟩ := List.forall₂_cons_left_iff.1 hqueue.entries
    cases hentry with
    | text text =>
      have hrest : Entry.QueuesAlike S (due world) (due world') queue other :=
        ⟨hentries, hqueue.nodup, hqueue.nodup'⟩
      rw [drain_cons, drain_cons]
      dsimp only [Entry.wait]
      rcases sink.receive (.text text) with ⟨error | ⟨⟩, after⟩
      · exact ⟨.refl _, rfl⟩
      · exact ih hrest after
    | @process command command' process process' result hcommand hdue hdue' =>
      rw [drain_cons, drain_cons]
      dsimp only [Entry.wait, Sink.receive, Entry.writes]
      rw [h.finished hdue, h.finished hdue']
      rcases sink.writeAll result.toTranscript.chunks with ⟨error | ⟨⟩, after⟩
      · exact ⟨.refl _, rfl⟩
      · simp only [Entry.failure?]
        cases result.status.isSuccess with
        | true => exact ih (hqueue.tail h) after
        | false => exact ⟨.error (.commandFailed hcommand _), rfl⟩

/-- The evaluations wrote the same to the sink, and ended with the same results or with errors that
are alike, in sessions that are alike. -/
structure Session.Evaluation.Alike (S : String → String → Prop)
    (done other : Session.Evaluation ω η) : Prop where
  result : ResultAlike S done.result other.result
  sink : done.sink = other.sink
  origin : done.session.origin = other.session.origin
  chain : done.session.chain = other.session.chain
  config : done.session.config = other.session.config
  environment : Environment.Alike S done.session.environment other.session.environment

/-- The evaluations of statements that differ in scripts only end alike, or neither ends. -/
theorem Session.evaluate_alike (h : host.TreatsAlike outcome due S) (fuel : Nat)
    {statements statements' : List Statement}
    (hstatements : List.Forall₂ (Statement.Alike S) statements statements')
    {session session' : Session ω η} (hsession : Session.Alike host due S session session')
    (sink : Sink) :
    Option.Rel (Session.Evaluation.Alike S) (evaluate host fuel statements session sink)
      (evaluate host fuel statements' session' sink) := by
  have hwalked :=
    Walk.relates_each (stepsAlike_execute h fuel) hstatements session session' hsession
  unfold evaluate
  generalize Walk.each (execute host fuel) statements session = walked at hwalked ⊢
  generalize Walk.each (execute host fuel) statements' session' = walked' at hwalked ⊢
  obtain ⟨result, after⟩ := walked
  obtain ⟨result', after'⟩ := walked'
  obtain ⟨hresult, hafter⟩ := hwalked
  have hdrained := drain_alike h.steady hafter.queue sink
  dsimp only at hresult hdrained ⊢
  generalize drain host sink after.queue after.world = drained at hdrained ⊢
  generalize drain host sink after'.queue after'.world = drained' at hdrained ⊢
  obtain ⟨written, taken, world⟩ := drained
  obtain ⟨written', taken', world'⟩ := drained'
  obtain ⟨hwritten, hsink⟩ := hdrained
  cases hresult with
  | ok hvalues =>
    subst hvalues
    exact .some ⟨hwritten.map _, hsink, hafter.origin, hafter.chain, hafter.config,
      hafter.environment⟩
  | error halt =>
    cases halt with
    | exhausted => exact .none
    | error error =>
      exact .some ⟨.refl _, hsink, hafter.origin, hafter.chain, hafter.config,
        hafter.environment⟩

end

end TaskRunner
