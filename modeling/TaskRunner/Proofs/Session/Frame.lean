import TaskRunner.Session

/-! What a walk leaves alone.  A walk changes its session in a few ways only, and scopes and files
are left the way they were entered.  A relation between sessions that these changes respect
therefore holds between the beginning and the end of every walk, however the walk ends. -/

namespace TaskRunner

variable {ω η α β : Type}

namespace Walk

/-- What is made of the value of a step does not matter to the session. -/
theorem snd_bind_pure (step : Walk ω η α) (f : α → β) (session : Session ω η) :
    ((step >>= fun value => Pure.pure (f value)) session).2 = (step session).2 := by
  show (Walk.bind step _ session).2 = _
  rcases hrun : step session with ⟨result, after⟩
  cases result with
  | error halt => rw [bind_error hrun]
  | ok value =>
    rw [bind_ok hrun]
    rfl

/-- The relation holds between a session and what the step makes of it. -/
def Within (R : Session ω η → Session ω η → Prop) (step : Walk ω η α) : Prop :=
  ∀ session, R session (step session).2

/-- The relation respects every change that a walk makes: one entry, process or definition more, and
a scope or a file in between. -/
structure IsFrame (host : Host ω η) (R : Session ω η → Session ω η → Prop) : Prop where
  refl (s : Session ω η) : R s s
  trans {s t u : Session ω η} : R s t → R t u → R s u
  queued (s : Session ω η) (entry : Entry η) : R s { s with queue := s.queue ++ [entry] }
  started (s : Session ω η) (invocation : Invocation) :
    R s { s with world := (host.start invocation s.world).2 }
  finished (s : Session ω η) (process : η) :
    R s { s with world := (host.finish process s.world).2 }
  configured (s : Session ω η) (name : String) (value : Literal) :
    R s { s with config := s.config.insert name value }
  boundVariable (s : Session ω η) (name : String) (value : Value) :
    R s { s with environment := s.environment.defineVariable name value }
  boundTarget (s : Session ω η) (name : String) (body : List Statement) :
    R s { s with environment := s.environment.defineTarget name body }
  scope {s t : Session ω η} :
    R { s with environment := s.environment.push } t →
      R s { t with environment := t.environment.pop }
  file {s t : Session ω η} {path key : String} :
    (host.canonical? path s.world).getD path = key → s.chain.any (Path.same key) = false →
      R { s with origin := path, chain := s.chain ++ [key] } t →
        R s { t with origin := s.origin, chain := t.chain.dropLast }

section

variable {host : Host ω η} {R : Session ω η → Session ω η → Prop}

theorem within_ofExcept (h : IsFrame host R) (found : Except Halt α) :
    Within R (ofExcept found) :=
  h.refl

theorem within_get (h : IsFrame host R) (part : Session ω η → α) : Within R (get part) :=
  h.refl

theorem within_pure (h : IsFrame host R) (value : α) : Within R (Pure.pure value) :=
  h.refl

theorem Within.bind (h : IsFrame host R) {step : Walk ω η α} {next : α → Walk ω η β}
    (hstep : Within R step) (hnext : ∀ value, Within R (next value)) :
    Within R (step >>= next) := by
  intro session
  have hfirst := hstep session
  show R session (Walk.bind step next session).2
  rcases hrun : step session with ⟨result, middle⟩
  rw [hrun] at hfirst
  cases result with
  | error halt =>
    rw [bind_error hrun]
    exact hfirst
  | ok value =>
    rw [bind_ok hrun]
    exact h.trans hfirst (hnext value middle)

theorem within_each (h : IsFrame host R) {step : α → Walk ω η β} (items : List α)
    (hstep : ∀ item, Within R (step item)) : Within R (each step items) := by
  induction items with
  | nil => exact within_pure h []
  | cons item items ih =>
    exact (hstep item).bind h fun _ => ih.bind h fun _ => within_pure h _

end

end Walk

namespace Session

open Walk

section

variable {host : Host ω η} {R : Session ω η → Session ω η → Prop}

theorem within_enqueue (h : IsFrame host R) (entry : Entry η) : Within R (enqueue entry) :=
  fun session => h.queued session entry

theorem within_startScript (h : IsFrame host R) (script : String)
    (exports : List (String × String)) : Within R (startScript host script exports) := by
  intro session
  have hstarted := h.started session ⟨session.shell, script, exports⟩
  rw [startScript]
  split <;> simpa [*] using hstarted

theorem within_capture (h : IsFrame host R) (fuel : Nat) (run : Run) :
    Within R (capture host fuel run) := by
  have hscript (script : String) (exports : List (String × String)) :
      Within R (runScript host script exports) :=
    (within_startScript h script exports).bind h fun process session =>
      h.finished session process
  exact (within_get h _).bind h fun _ => (within_ofExcept h _).bind h fun scripts =>
    (within_each h scripts fun script => hscript script _).bind h fun _ => within_pure h _

theorem within_resolve (h : IsFrame host R) (fuel : Nat) (entry : String × Value) :
    Within R (resolve host fuel entry) := by
  rw [resolve]
  split
  · exact within_pure h _
  · exact (within_capture h fuel _).bind h fun _ => within_pure h _

theorem within_action (h : IsFrame host R) (fuel : Nat) (script : String) :
    Within R (action host fuel script) := by
  rw [action]
  split
  · exact within_pure h ()
  · exact (within_get h _).bind h fun env =>
      (within_each h env.visible.entries (within_resolve h fuel)).bind h fun _ =>
        (within_enqueue h _).bind h fun _ =>
          (within_startScript h _ _).bind h fun _ => within_enqueue h _

variable {step : Statement → Walk ω η (Option String)}

theorem within_configure (h : IsFrame host R) (hstep : ∀ statement, Within R (step statement))
    (fuel : Nat) (item : Binding) : Within R (configure host fuel step item) := by
  have hset (value : Literal) : Within R (Walk.modify fun session : Session ω η =>
      { session with config := session.config.insert item.name value }) :=
    fun session => h.configured session item.name value
  rw [configure]
  split
  · exact (within_pure h _).bind h hset
  · exact ((within_capture h fuel _).bind h fun _ => within_pure h _).bind h hset
  · exact (hstep _).bind h fun _ => (within_pure h _).bind h hset

theorem within_bindVariable (h : IsFrame host R)
    (hstep : ∀ statement, Within R (step statement)) (item : Binding) :
    Within R (bindVariable step item) := by
  have hset (value : Value) : Within R (Walk.modify fun session : Session ω η =>
      { session with environment := session.environment.defineVariable item.name value }) :=
    fun session => h.boundVariable session item.name value
  rw [bindVariable]
  split
  · exact (within_pure h _).bind h hset
  · exact (within_pure h _).bind h hset
  · exact (hstep _).bind h fun _ => (within_pure h _).bind h hset

theorem within_runBlock (h : IsFrame host R) (hstep : ∀ statement, Within R (step statement))
    (run : Run) : Within R (runBlock step run) := by
  have hscope (target : List Statement) : Within R (Walk.between
      (fun session => { session with environment := session.environment.push })
      (fun session => { session with environment := session.environment.pop })
      (each step (run.body ++ target))) :=
    fun session => h.scope (within_each h _ hstep { session with environment := _ })
  exact (within_get h _).bind h fun _ => (within_ofExcept h _).bind h fun target =>
    (hscope target).bind h fun _ => within_pure h ()

theorem within_readIn (h : IsFrame host R) (hstep : ∀ statement, Within R (step statement))
    (path : String) : Within R (readIn host step path) := by
  intro session
  rw [readIn]
  split
  · exact h.refl session
  next hchain =>
    split
    · exact h.refl session
    split
    · exact h.refl session
    next statements _ =>
      exact h.file rfl (by simpa using hchain) (within_each h statements hstep _)

theorem within_extendBy (h : IsFrame host R) (hstep : ∀ statement, Within R (step statement))
    (path : Literal) : Within R (extendBy host step path) := by
  rw [extendBy]
  split
  · exact h.refl
  · exact (within_get h _).bind h fun _ => within_readIn h hstep _

/-- A frame holds between the beginning and the end of the walk over a statement. -/
theorem within_execute (h : IsFrame host R) (fuel : Nat) (statement : Statement) :
    Within R (execute host fuel statement) := by
  induction fuel generalizing statement with
  | zero => exact within_ofExcept h _
  | succ fuel ih =>
    have hnone (_ : List Unit) : Within R (Pure.pure (none : Option String)) := within_pure h none
    cases statement with
    | config items => exact (within_each h items (within_configure h ih fuel)).bind h hnone
    | var items => exact (within_each h items (within_bindVariable h ih)).bind h hnone
    | target name body =>
      have hset : Within R (Walk.modify fun session : Session ω η =>
          { session with
            environment := session.environment.defineTarget name (Statement.sortByStage body) }) :=
        fun session => h.boundTarget session name _
      exact hset.bind h fun _ => within_pure h none
    | run run => exact (within_runBlock h ih run).bind h fun _ => within_pure h none
    | action script => exact (within_action h fuel script).bind h fun _ => within_pure h none
    | describe lines =>
      exact (within_each h lines fun _ => within_enqueue h _).bind h hnone
    | extend paths => exact (within_each h paths (within_extendBy h ih)).bind h hnone
    | literal value => exact within_pure h _

end

/-! ### Runs -/

/-- The second session is at the same file as the first, within the same scopes, and its queue goes
on from that of the first.  Only the innermost scope and the configuration may be others. -/
structure Continues (session after : Session ω η) : Prop where
  origin : after.origin = session.origin
  chain : after.chain = session.chain
  outer : after.environment.outer = session.environment.outer
  queue : session.queue <+: after.queue

/-- Whatever was bound in a scope, leaving it leads back to where it was entered. -/
theorem pop_eq_of_outer_eq {env inside : Environment} (h : inside.outer = env.push.outer) :
    inside.pop = env := by
  rw [Environment.pop, h]
  rfl

theorem isFrame_continues (host : Host ω η) : IsFrame host Continues where
  refl _ := ⟨rfl, rfl, rfl, List.prefix_rfl⟩
  trans h h' := ⟨h'.origin.trans h.origin, h'.chain.trans h.chain, h'.outer.trans h.outer,
    h.queue.trans h'.queue⟩
  queued _ entry := ⟨rfl, rfl, rfl, List.prefix_append _ [entry]⟩
  started _ _ := ⟨rfl, rfl, rfl, List.prefix_rfl⟩
  finished _ _ := ⟨rfl, rfl, rfl, List.prefix_rfl⟩
  configured _ _ _ := ⟨rfl, rfl, rfl, List.prefix_rfl⟩
  boundVariable s name value := by
    refine ⟨rfl, rfl, ?_, List.prefix_rfl⟩
    simp only [Environment.defineVariable]
    split <;> rfl
  boundTarget s name body := by
    refine ⟨rfl, rfl, ?_, List.prefix_rfl⟩
    simp only [Environment.defineTarget]
    split <;> rfl
  scope h := ⟨h.origin, h.chain, congrArg Environment.outer (pop_eq_of_outer_eq h.outer), h.queue⟩
  file _ _ h := ⟨rfl, by rw [h.chain, List.dropLast_concat], h.outer, h.queue⟩

/-- The scope of a run is left as it was entered, and with it all that was bound inside. -/
theorem environment_runBlock (host : Host ω η) (fuel : Nat) (run : Run) (session : Session ω η) :
    (runBlock (execute host fuel) run session).2.environment = session.environment := by
  rw [runBlock]
  show (Walk.bind (Walk.ofExcept (orHalt (session.environment.targetOf run))) _
    session).2.environment = _
  cases orHalt (session.environment.targetOf run) with
  | error halt => rfl
  | ok target =>
    have hinside := within_each (isFrame_continues host) (run.body ++ target)
      (within_execute (isFrame_continues host) fuel)
      { session with environment := session.environment.push }
    exact (congrArg Session.environment (snd_bind_pure _ _ session)).trans
      (pop_eq_of_outer_eq hinside.outer)

/-- A run is neutral: however it ends, and whatever its body and its target hold, every scope is
what it was before, and so are the file that is read and the files around it.  Entries are only
added to the queue, at its end. -/
theorem execute_run_neutral (host : Host ω η) (fuel : Nat) (run : Run) (session : Session ω η) :
    let after := (execute host fuel (.run run) session).2
    after.environment = session.environment ∧ after.origin = session.origin ∧
      after.chain = session.chain ∧ session.queue <+: after.queue := by
  have hframe := within_execute (isFrame_continues host) fuel (.run run) session
  refine ⟨?_, hframe.origin, hframe.chain, hframe.queue⟩
  cases fuel with
  | zero => rfl
  | succ fuel =>
    calc (execute host (fuel + 1) (.run run) session).2.environment
        = (runBlock (execute host fuel) run session).2.environment :=
          congrArg Session.environment (snd_bind_pure _ _ session)
      _ = session.environment := environment_runBlock host fuel run session

/-! ### Evaluations -/

theorem continues_each (host : Host ω η) (fuel : Nat) (statements : List Statement)
    (session : Session ω η) :
    Continues session (Walk.each (execute host fuel) statements session).2 :=
  within_each (isFrame_continues host) statements (within_execute (isFrame_continues host) fuel)
    session

/-- However an evaluation ends, its session is that of the walk, without the queue and in the world
after the writing. -/
theorem session_of_evaluate {host : Host ω η} {fuel : Nat} {statements : List Statement}
    {session : Session ω η} {sink : Sink} {done : Evaluation ω η}
    (h : evaluate host fuel statements session sink = some done) :
    let after := (Walk.each (execute host fuel) statements session).2
    done.session =
      { after with queue := [], world := (drain host sink after.queue after.world).2.2 } := by
  intro after
  unfold evaluate at h
  dsimp only at h
  split at h <;> cases h <;> rfl

/-- An evaluation leads back to the file and the scopes it began in, and leaves nothing queued. -/
theorem continues_evaluate {host : Host ω η} {fuel : Nat} {statements : List Statement}
    {session : Session ω η} {sink : Sink} {done : Evaluation ω η}
    (h : evaluate host fuel statements session sink = some done) :
    done.session.origin = session.origin ∧ done.session.chain = session.chain ∧
      done.session.environment.outer = session.environment.outer ∧ done.session.queue = [] := by
  have hwalked := continues_each host fuel statements session
  rw [session_of_evaluate h]
  exact ⟨hwalked.origin, hwalked.chain, hwalked.outer, rfl⟩

end Session

end TaskRunner
