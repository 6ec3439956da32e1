import TaskRunner.Proofs.Session.Collected
import TaskRunner.Proofs.Session.Simulation
import TaskRunner.Proofs.Session.Starts
import TaskRunner.Proofs.Tree.Stages

/-! What the order of stages means to a session.  A target is stored in the order of its stages;
whatever else is walked over or collected is taken in the order in which it is written.  So how the
stages of a target are interleaved makes no difference to anything that is done. -/

namespace TaskRunner

variable {ω η α β γ δ : Type}

/-! ### Environments -/

/-- The values are the same, but for the order between the stages of targets. -/
inductive Value.Restaged : Value → Value → Prop where
  | text (text : String) : Value.Restaged (.text text) (.text text)
  | pending {run other : Run} (h : Run.Restaged run other) :
      Value.Restaged (.pending run) (.pending other)

theorem Value.Restaged.refl (value : Value) : Value.Restaged value value := by
  cases value with
  | text text => exact .text text
  | pending run => exact .pending (Run.Restaged.refl run)

theorem Value.Restaged.text_iff {value other : Value} (h : Value.Restaged value other)
    (text : String) : value = .text text ↔ other = .text text := by
  cases h with
  | text text => exact Iff.rfl
  | pending hrun => exact ⟨nofun, nofun⟩

/-- The environments are the same, but for the order between the stages of targets that the stored
targets and the runs of variables declare. -/
def Environment.Restaged (env other : Environment) : Prop :=
  Environment.Pairs Value.Restaged (List.Forall₂ Statement.Restaged) env other

theorem Environment.Restaged.refl (env : Environment) : Environment.Restaged env env := by
  have hscope (scope : Scope) :
      Scope.Pairs Value.Restaged (List.Forall₂ Statement.Restaged) scope scope :=
    ⟨List.forall₂_same.2 fun entry _ => ⟨rfl, Value.Restaged.refl entry.2⟩,
      List.forall₂_same.2 fun entry _ => ⟨rfl, Statement.restaged_refl_row entry.2⟩⟩
  exact ⟨hscope _, List.forall₂_same.2 fun scope _ => hscope scope⟩

theorem Environment.Restaged.texts_eq {env other : Environment}
    (h : Environment.Restaged env other) : env.texts = other.texts :=
  h.texts fun _ _ hvalue => hvalue.text_iff

theorem Environment.Restaged.targetOf {env other : Environment}
    (h : Environment.Restaged env other) {run run' : Run} (hrun : Run.Restaged run run') :
    Agree (List.Forall₂ Statement.Restaged) (env.targetOf run) (other.targetOf run') := by
  cases hrun with
  | mk name stage hbody =>
    cases name with
    | none => exact .ok .nil
    | some name => exact h.getTarget name

theorem Agree.eq {ε : Type} {first other : Except ε α} (h : Agree (· = ·) first other) :
    first = other := by
  cases h with
  | ok hab => rw [hab]
  | error e => rfl

/-- A run leads to the same scripts. -/
theorem Environment.Restaged.scriptsOf {env other : Environment}
    (h : Environment.Restaged env other) (fuel : Nat) {run run' : Run}
    (hrun : Run.Restaged run run') :
    Agree (· = ·) (env.scriptsOf fuel run) (other.scriptsOf fuel run') := by
  induction fuel generalizing run run' with
  | zero => exact .error _
  | succ fuel ih =>
    have htarget := (h.targetOf hrun).orHalt
    cases hrun with
    | mk name stage hbody =>
      refine htarget.bind fun target target' htarget => ?_
      refine Agree.bind (V := List.Forall₂ (· = ·)) ?_ fun found found' hfound => ?_
      · have hstatements := List.rel_append hbody htarget
        refine Agree.mapM (fun statement statement' hstatement => ?_) hstatements
        cases hstatement with
        | run hrun => exact ih hrun
        | _ => exact .ok rfl
      · rw [List.forall₂_eq_eq_eq] at hfound
        exact .ok (congrArg _ hfound)

/-! ### Sessions -/

/-- The sessions are the same, but for the order between the stages of targets in what they bind. -/
def Session.Restaged (session other : Session ω η) : Prop :=
  ∃ env, Environment.Restaged session.environment env ∧ other = { session with environment := env }

theorem Session.Restaged.refl (session : Session ω η) : Session.Restaged session session :=
  ⟨session.environment, .refl _, rfl⟩

namespace Walk

/-- From sessions that differ in the order between stages only, the steps start the same scripts,
and lead to results that agree and to sessions that differ in that order only. -/
structure Mirrors (V : α → β → Prop) (step : Walk ω η α) (starts : Session ω η → List Start)
    (other : Walk ω η β) (starts' : Session ω η → List Start) : Prop where
  relates : Relates Session.Restaged V step other
  starts_eq {session session' : Session ω η} : Session.Restaged session session' →
    (starts session).map Start.invocation = (starts' session').map Start.invocation

variable {V : α → β → Prop} {W : γ → δ → Prop}

theorem Relates.mirrors {step : Walk ω η α} {other : Walk ω η β}
    (h : Relates Session.Restaged V step other) :
    Mirrors V step (fun _ => []) other fun _ => [] :=
  ⟨h, fun _ => rfl⟩

/-- Steps after which nothing more is started. -/
theorem Mirrors.bind {step : Walk ω η α} {other : Walk ω η β}
    {starts starts' : Session ω η → List Start} {next : α → Walk ω η γ} {after : β → Walk ω η δ}
    (h : Mirrors V step starts other starts')
    (hnext : ∀ a b, V a b → Relates Session.Restaged W (next a) (after b)) :
    Mirrors W (step >>= next) starts (other >>= after) starts' :=
  ⟨h.relates.bind hnext, h.starts_eq⟩

theorem mirrors_along {P : γ → δ → Prop} {step : γ → Walk ω η α} {other : δ → Walk ω η α}
    {starts : γ → Session ω η → List Start} {starts' : δ → Session ω η → List Start}
    (hstep : ∀ a b, P a b → Mirrors (· = ·) (step a) (starts a) (other b) (starts' b))
    {items : List γ} {others : List δ} (h : List.Forall₂ P items others) :
    Mirrors (· = ·) (each step items) (along step starts items) (each other others)
      (along other starts' others) where
  relates := relates_each (fun a b hab => (hstep a b hab).relates) h
  starts_eq {session session'} hsession := by
    induction h generalizing session session' with
    | nil => rfl
    | @cons a b _ _ hab _ ih =>
      rw [along, along, List.map_append, List.map_append, (hstep a b hab).starts_eq hsession]
      obtain ⟨hvalue, hafter⟩ := (hstep a b hab).relates session session' hsession
      rcases hfirst : step a session with ⟨result, after⟩
      rcases hother : other b session' with ⟨result', after'⟩
      rw [hfirst, hother] at hvalue hafter
      cases hvalue with
      | ok _ => exact congrArg _ (ih hafter)
      | error halt => rfl

end Walk

namespace Session

open Walk

section

variable {host : Host ω η}

theorem relates_startScript_restaged (host : Host ω η) (script : String)
    (exports : List (String × String)) :
    Relates Session.Restaged (· = ·) (startScript host script exports)
      (startScript host script exports) := by
  rintro session _ ⟨env, henv, rfl⟩
  show Agree _ (startScript host script exports session).1 _ ∧ _
  unfold startScript
  have hshell : ({ session with environment := env } : Session ω η).shell = session.shell := rfl
  rw [hshell]
  rcases host.start ⟨session.shell, script, exports⟩ session.world with ⟨started, world⟩
  cases started with
  | ok process => exact ⟨.ok rfl, env, henv, rfl⟩
  | error fault => exact ⟨.error _, env, henv, rfl⟩

theorem relates_runScript_restaged (host : Host ω η) (script : String)
    (exports : List (String × String)) :
    Relates Session.Restaged (· = ·) (runScript host script exports)
      (runScript host script exports) := by
  refine (relates_startScript_restaged host script exports).bind_eq fun process => ?_
  rintro session _ ⟨env, henv, rfl⟩
  exact ⟨.ok rfl, env, henv, rfl⟩

theorem relates_environment_restaged :
    Relates Session.Restaged Environment.Restaged (Walk.get (ω := ω) (η := η) environment)
      (Walk.get environment) := by
  refine relates_get ?_
  rintro session _ ⟨env, henv, rfl⟩
  exact henv

theorem relates_modify_restaged {change : Session ω η → Session ω η}
    (h : ∀ session env, change { session with environment := env } =
      { change session with environment := env })
    (henvironment : ∀ session, (change session).environment = session.environment) :
    Relates Session.Restaged (· = ·) (Walk.modify change) (Walk.modify change) := by
  refine relates_modify ?_
  rintro session _ ⟨env, henv, rfl⟩
  exact ⟨env, by rwa [henvironment], h session env⟩

theorem relates_enqueue_restaged (entry : Entry η) :
    Relates (ω := ω) Session.Restaged (· = ·) (enqueue entry) (enqueue entry) :=
  relates_modify_restaged (fun _ _ => rfl) fun _ => rfl

/-- The scripts of a run are started alike. -/
theorem mirrors_scripts (host : Host ω η) (exports : List (String × String))
    (scripts : List String) :
    let starts (script : String) (session : Session ω η) : List Start :=
      [⟨session.environment, ⟨session.shell, script, exports⟩⟩]
    Mirrors (· = ·) (Walk.each (fun script => runScript host script exports) scripts)
      (along (fun script => runScript host script exports) starts scripts)
      (Walk.each (fun script => runScript host script exports) scripts)
      (along (fun script => runScript host script exports) starts scripts) := by
  refine mirrors_along (P := (· = ·)) ?_ (List.forall₂_same.2 fun _ _ => rfl)
  rintro script _ rfl
  refine ⟨relates_runScript_restaged host script exports, ?_⟩
  rintro session _ ⟨env, henv, rfl⟩
  rfl

theorem mirrors_capture (host : Host ω η) (fuel : Nat) {run run' : Run}
    (hrun : Run.Restaged run run') :
    Mirrors (· = ·) (capture host fuel run) (captureStarts host fuel run)
      (capture host fuel run') (captureStarts host fuel run') where
  relates := by
    refine relates_environment_restaged.bind fun env env' henv => ?_
    refine (relates_ofExcept (henv.scriptsOf fuel hrun)).bind_eq fun scripts => ?_
    rw [henv.texts_eq]
    exact (mirrors_scripts host _ scripts).relates.bind_eq fun _ => relates_pure rfl
  starts_eq {session session'} hsession := by
    have hsame := hsession
    obtain ⟨env, henv, rfl⟩ := hsession
    have hscripts := henv.scriptsOf fuel hrun
    unfold captureStarts
    dsimp only
    rw [← henv.texts_eq]
    generalize session.environment.scriptsOf fuel run = found at hscripts ⊢
    generalize env.scriptsOf fuel run' = found' at hscripts ⊢
    cases hscripts with
    | error halt => rfl
    | @ok scripts scripts' heq =>
      obtain rfl : scripts = scripts' := heq
      exact (mirrors_scripts host _ scripts).starts_eq hsame

theorem mirrors_resolve (host : Host ω η) (fuel : Nat) {entry entry' : String × Value}
    (hentry : Named Value.Restaged entry entry') :
    Mirrors (· = ·) (resolve host fuel entry) (resolveStarts host fuel entry)
      (resolve host fuel entry') (resolveStarts host fuel entry') := by
  obtain ⟨name, value⟩ := entry
  obtain ⟨name', value'⟩ := entry'
  obtain ⟨hname, hvalue⟩ := hentry
  obtain rfl : name = name' := hname
  cases hvalue with
  | text text => exact (relates_pure rfl).mirrors
  | pending hrun =>
    exact (mirrors_capture host fuel hrun).bind fun _ _ heq => relates_pure (heq ▸ rfl)

theorem mirrors_action (host : Host ω η) (fuel : Nat) (script : String) :
    Mirrors (· = ·) (action host fuel script) (actionStarts host fuel script)
      (action host fuel script) (actionStarts host fuel script) := by
  have hresolved {env env' : Environment} (henv : Environment.Restaged env env') :=
    mirrors_along (fun _ _ hentry => mirrors_resolve host fuel hentry) henv.visible
  constructor
  · unfold action
    dsimp only
    split
    · exact relates_pure rfl
    refine relates_environment_restaged.bind fun env env' henv => ?_
    refine (hresolved henv).relates.bind_eq fun exports => ?_
    exact (relates_enqueue_restaged _).bind_eq fun _ =>
      (relates_startScript_restaged host _ exports).bind_eq fun _ => relates_enqueue_restaged _
  · intro session session' hsession
    unfold actionStarts
    split
    · rfl
    obtain ⟨env, henv, rfl⟩ := id hsession
    dsimp only
    rw [List.map_append, List.map_append, (hresolved henv).starts_eq hsession]
    obtain ⟨hvalue, hafter⟩ := (hresolved henv).relates _ _ hsession
    generalize Walk.each (resolve host fuel) session.environment.visible.entries session = walked
      at hvalue hafter ⊢
    generalize Walk.each (resolve host fuel) env.visible.entries _ = walked' at hvalue hafter ⊢
    obtain ⟨result, after⟩ := walked
    obtain ⟨result', after'⟩ := walked'
    obtain ⟨env', -, rfl⟩ := hafter
    cases hvalue with
    | ok heq =>
      subst heq
      rfl
    | error halt => rfl

/-! ### Statements -/

variable {step step' : Statement → Walk ω η (Option String)}
  {inner inner' : Statement → Session ω η → List Start}

/-- The steps for statements that differ in the order between the stages of targets. -/
def StepsMirror (step : Statement → Walk ω η (Option String))
    (inner : Statement → Session ω η → List Start)
    (step' : Statement → Walk ω η (Option String))
    (inner' : Statement → Session ω η → List Start) : Prop :=
  ∀ statement statement', Statement.Restaged statement statement' →
    Mirrors (· = ·) (step statement) (inner statement) (step' statement') (inner' statement')

theorem mirrors_configure (hstep : StepsMirror step inner step' inner') (fuel : Nat)
    {item item' : Binding} (hitem : Binding.Restaged item item') :
    Mirrors (· = ·) (configure host fuel step item) (configureStarts host fuel inner item)
      (configure host fuel step' item') (configureStarts host fuel inner' item') := by
  have hset (name : String) (value value' : Literal) (heq : value = value') :
      Relates (ω := ω) (η := η) Session.Restaged (· = ·)
        (Walk.modify fun session => { session with config := session.config.insert name value })
        (Walk.modify fun session =>
          { session with config := session.config.insert name value' }) := by
    subst heq
    exact relates_modify_restaged (fun _ _ => rfl) fun _ => rfl
  cases hitem with
  | mk name hinitializer =>
    have hother := hstep _ _ hinitializer
    cases hinitializer with
    | literal value => exact ((relates_pure rfl).bind (hset name)).mirrors
    | run hrun =>
      have hcaptured := mirrors_capture host fuel hrun
      exact (hcaptured.bind fun _ _ heq => relates_pure (congrArg Literal.string heq)).bind
        (hset name)
    | _ => exact hother.bind fun _ _ heq => heq ▸ (relates_pure rfl).bind (hset name)

theorem mirrors_bindVariable (hstep : StepsMirror step inner step' inner') {item item' : Binding}
    (hitem : Binding.Restaged item item') :
    Mirrors (· = ·) (bindVariable step item) (Binding.course inner item)
      (bindVariable step' item') (Binding.course inner' item') := by
  have hset (name : String) (value value' : Value) (hvalue : Value.Restaged value value') :
      Relates (ω := ω) (η := η) Session.Restaged (· = ·)
        (Walk.modify fun session =>
          { session with environment := session.environment.defineVariable name value })
        (Walk.modify fun session =>
          { session with environment := session.environment.defineVariable name value' }) := by
    refine relates_modify ?_
    rintro session _ ⟨env, henv, rfl⟩
    exact ⟨_, Environment.Pairs.defineVariable henv name hvalue, rfl⟩
  cases hitem with
  | mk name hinitializer =>
    have hother := hstep _ _ hinitializer
    cases hinitializer with
    | literal value => exact ((relates_pure (.text _)).bind (hset name)).mirrors
    | run hrun => exact ((relates_pure (.pending hrun)).bind (hset name)).mirrors
    | _ => exact hother.bind fun _ _ heq => heq ▸ (relates_pure (.text _)).bind (hset name)

theorem mirrors_runBlock (hstep : StepsMirror step inner step' inner') {run run' : Run}
    (hrun : Run.Restaged run run') :
    Mirrors (· = ·) (runBlock step run) (runCourse step inner run) (runBlock step' run')
      (runCourse step' inner' run') := by
  have hbody : List.Forall₂ Statement.Restaged run.body run'.body := by
    cases hrun with | mk name stage hbody => exact hbody
  have hpush {session session' : Session ω η} (hsession : Session.Restaged session session') :
      Session.Restaged { session with environment := session.environment.push }
        { session' with environment := session'.environment.push } := by
    obtain ⟨env, henv, rfl⟩ := hsession
    exact ⟨_, Environment.Pairs.push henv, rfl⟩
  have hpop {session session' : Session ω η} (hsession : Session.Restaged session session') :
      Session.Restaged { session with environment := session.environment.pop }
        { session' with environment := session'.environment.pop } := by
    obtain ⟨env, henv, rfl⟩ := hsession
    exact ⟨_, Environment.Pairs.pop henv, rfl⟩
  constructor
  · refine relates_environment_restaged.bind fun env env' henv => ?_
    refine (relates_ofExcept (henv.targetOf hrun).orHalt).bind fun target target' htarget => ?_
    have hstatements := (mirrors_along hstep (List.rel_append hbody htarget)).relates
    exact (Relates.between (fun _ _ => hpush) (fun _ _ => hpop) hstatements).bind_eq
      fun _ => relates_pure rfl
  · intro session session' hsession
    obtain ⟨env, henv, rfl⟩ := id hsession
    have htarget := henv.targetOf hrun
    unfold runCourse
    dsimp only
    generalize session.environment.targetOf run = found at htarget ⊢
    generalize env.targetOf run' = found' at htarget ⊢
    cases htarget with
    | error error => rfl
    | ok htarget =>
      exact (mirrors_along hstep (List.rel_append hbody htarget)).starts_eq (hpush hsession)

/-- A path leads to the same statements. -/
theorem opened_restaged (host : Host ω η) (path : String) {session session' : Session ω η}
    (hsession : Session.Restaged session session') :
    Agree (fun found found' => found.1 = found'.1 ∧ Session.Restaged found.2 found'.2)
      (opened host path session) (opened host path session') := by
  obtain ⟨env, henv, rfl⟩ := hsession
  unfold opened
  dsimp only
  split
  · exact .error _
  split
  · exact .error _
  split
  · exact .error _
  · exact .ok ⟨rfl, env, henv, rfl⟩

theorem mirrors_readIn (hstep : StepsMirror step inner step' inner') (path : String) :
    Mirrors (· = ·) (readIn host step path) (readInStarts host step inner path)
      (readIn host step' path) (readInStarts host step' inner' path) := by
  have hrow (statements : List Statement) :=
    mirrors_along hstep (Statement.restaged_refl_row statements)
  constructor
  · intro session session' hsession
    have hagree := opened_restaged host path hsession
    rcases hopened : opened host path session with error | ⟨statements, inside⟩ <;>
      rcases hopened' : opened host path session' with error' | ⟨statements', inside'⟩ <;>
      rw [hopened, hopened'] at hagree <;> cases hagree
    · rw [readIn_of_opened_error hopened, readIn_of_opened_error hopened']
      exact ⟨.error _, hsession⟩
    next hfound =>
      obtain ⟨rfl, hinside⟩ := hfound
      rw [readIn_of_opened_ok hopened, readIn_of_opened_ok hopened']
      obtain ⟨hvalue, env, henv, hafter⟩ := (hrow statements).relates _ _ hinside
      obtain ⟨-, -, rfl⟩ := hsession
      rw [hafter]
      exact ⟨hvalue.map fun _ => (), env, henv, rfl⟩
  · intro session session' hsession
    have hagree := opened_restaged host path hsession
    unfold readInStarts
    generalize opened host path session = found at hagree ⊢
    generalize opened host path session' = found' at hagree ⊢
    cases hagree with
    | error error => rfl
    | @ok found found' hfound =>
      obtain ⟨statements, inside⟩ := found
      obtain ⟨statements', inside'⟩ := found'
      obtain ⟨rfl, hinside⟩ := hfound
      exact (hrow statements).starts_eq hinside

theorem mirrors_extendBy (hstep : StepsMirror step inner step' inner') (path : Literal) :
    Mirrors (· = ·) (extendBy host step path) (extendStarts host step inner path)
      (extendBy host step' path) (extendStarts host step' inner' path) := by
  unfold extendBy extendStarts
  cases path.text? with
  | none => exact ⟨fun _ _ hsession => ⟨.error _, hsession⟩, fun _ => rfl⟩
  | some relative =>
    constructor
    · rintro session _ ⟨env, henv, rfl⟩
      exact (mirrors_readIn hstep _).relates _ _ ⟨env, henv, rfl⟩
    · rintro session _ ⟨env, henv, rfl⟩
      exact (mirrors_readIn hstep _).starts_eq ⟨env, henv, rfl⟩

/-- The walks over two statements that differ in the order between the stages of targets go side by
side. -/
theorem stepsMirror_execute (host : Host ω η) (fuel : Nat) :
    StepsMirror (execute host fuel) (starts host fuel) (execute host fuel) (starts host fuel) := by
  -- What a statement leads to is walked over with less fuel, so the induction is on the fuel.
  induction fuel with
  | zero => exact fun _ _ _ => ⟨relates_ofExcept (.error _), fun _ => rfl⟩
  | succ fuel ih =>
    have hnone {β : Type} (first other : β) (_ : first = other) :
        Relates (ω := ω) (η := η) Session.Restaged (· = ·) (Pure.pure (none : Option String))
          (Pure.pure none) := relates_pure rfl
    intro statement statement' hstatement
    cases hstatement with
    | config hitems =>
      exact (mirrors_along (fun _ _ hitem => mirrors_configure ih fuel hitem) hitems).bind hnone
    | var hitems =>
      exact (mirrors_along (fun _ _ hitem => mirrors_bindVariable ih hitem) hitems).bind hnone
    | target name hbody =>
      refine Relates.mirrors (Relates.bind (relates_modify ?_) hnone)
      rintro session _ ⟨env, henv, rfl⟩
      have hstored := Statement.restaged_sortByStage hbody
      exact ⟨_, Environment.Pairs.defineTarget henv name hstored, rfl⟩
    | run hrun => exact (mirrors_runBlock ih hrun).bind hnone
    | action script => exact (mirrors_action host fuel script).bind hnone
    | describe lines =>
      refine Relates.mirrors (Relates.bind (relates_each (P := (· = ·)) ?_
        (List.forall₂_same.2 fun _ _ => rfl)) hnone)
      exact fun _ _ hline => hline ▸ relates_enqueue_restaged _
    | extend paths =>
      refine (mirrors_along (P := (· = ·)) ?_ (List.forall₂_same.2 fun _ _ => rfl)).bind hnone
      exact fun _ _ hpath => hpath ▸ mirrors_extendBy ih _
    | literal value => exact (relates_pure rfl).mirrors

end

/-! ### Evaluations -/

/-- The evaluations end with the same result and the same sink, in sessions that are the same but
for the order between the stages of targets. -/
structure Evaluation.Restaged (done other : Evaluation ω η) : Prop where
  result : done.result = other.result
  sink : done.sink = other.sink
  session : Session.Restaged done.session other.session

theorem evaluate_restaged (host : Host ω η) (fuel : Nat) {statements others : List Statement}
    (h : List.Forall₂ Statement.Restaged statements others) {session session' : Session ω η}
    (hsession : Session.Restaged session session') (sink : Sink) :
    Option.Rel Evaluation.Restaged (evaluate host fuel statements session sink)
      (evaluate host fuel others session' sink) := by
  obtain ⟨hvalue, hafter⟩ :=
    (mirrors_along (stepsMirror_execute host fuel) h).relates session session' hsession
  unfold evaluate
  generalize Walk.each (execute host fuel) statements session = walked at hvalue hafter ⊢
  generalize Walk.each (execute host fuel) others session' = walked' at hvalue hafter ⊢
  obtain ⟨result, after⟩ := walked
  obtain ⟨result', after'⟩ := walked'
  obtain ⟨env, henv, rfl⟩ := hafter
  dsimp only at hvalue ⊢
  cases hvalue with
  | ok heq =>
    subst heq
    exact .some ⟨rfl, rfl, env, henv, rfl⟩
  | error halt =>
    cases halt with
    | exhausted => exact .none
    | error error => exact .some ⟨rfl, rfl, env, henv, rfl⟩

end Session

/-! ### The order of a walk -/

/-- The steps for the members of a list are taken one after the other, in the order of the list,
until one of them ends the walk or none is left. -/
inductive Walk.InOrder (step : α → Walk ω η β) :
    List α → Session ω η → Option Halt → Session ω η → Prop where
  | nil (session : Session ω η) : Walk.InOrder step [] session none session
  | halt {a : α} {rest : List α} {session after : Session ω η} {halt : Halt} :
      step a session = (.error halt, after) →
        Walk.InOrder step (a :: rest) session (some halt) after
  | next {a : α} {rest : List α} {session middle after : Session ω η} {value : β}
      {halt : Option Halt} : step a session = (.ok value, middle) →
        Walk.InOrder step rest middle halt after →
          Walk.InOrder step (a :: rest) session halt after

theorem Walk.bind_pure_apply (step : Walk ω η α) (f : α → β) (session : Session ω η) :
    Walk.bind step (fun a => Walk.pure (f a)) session =
      ((step session).1.map f, (step session).2) := by
  rw [Walk.bind]
  rcases step session with ⟨result, after⟩
  cases result <;> rfl

theorem Walk.halt?_map (result : Except Halt α) (f : α → β) :
    halt? (result.map f) = halt? result := by
  cases result <;> rfl

theorem Walk.inOrder_each (step : α → Walk ω η β) (items : List α) (session : Session ω η) :
    Walk.InOrder step items session (halt? (Walk.each step items session).1)
      (Walk.each step items session).2 := by
  induction items generalizing session with
  | nil => exact .nil session
  | cons a rest ih =>
    rw [each]
    rcases hfirst : step a session with ⟨result, middle⟩
    cases result with
    | error halt =>
      rw [bind_error hfirst]
      exact .halt hfirst
    | ok value =>
      rw [bind_ok hfirst, bind_pure_apply, halt?_map]
      exact .next hfirst (ih middle)

/-- A run walks over its body and then over its target, in a scope of their own. -/
theorem Session.execute_run_of_targetOf (host : Host ω η) (fuel : Nat) {run : Run}
    {session : Session ω η} {target : List Statement}
    (h : session.environment.targetOf run = .ok target) :
    let walked := Walk.each (execute host fuel) (run.body ++ target)
      { session with environment := session.environment.push }
    execute host (fuel + 1) (.run run) session =
      (walked.1.map fun _ => none,
        { walked.2 with environment := walked.2.environment.pop }) := by
  intro walked
  have hblock : runBlock (execute host fuel) run session =
      (walked.1.map fun _ => (),
        { walked.2 with environment := walked.2.environment.pop }) := by
    show Walk.bind (Walk.ofExcept (orHalt (session.environment.targetOf run))) _ session = _
    rw [h]
    exact Walk.bind_pure_apply _ _ session
  have hrun : execute host (fuel + 1) (.run run) session =
      ((runBlock (execute host fuel) run session).1.map fun _ => none,
        (runBlock (execute host fuel) run session).2) :=
    Walk.bind_pure_apply (runBlock (execute host fuel) run) (fun _ => none) session
  rw [hrun, hblock]
  cases walked.1 <;> rfl

/-- The statements of a run and of its target are taken in the order in which they are written. -/
theorem Session.inOrder_run (host : Host ω η) (fuel : Nat) {run : Run} {session : Session ω η}
    {target : List Statement} (h : session.environment.targetOf run = .ok target) :
    ∃ after, Walk.InOrder (execute host fuel) (run.body ++ target)
        { session with environment := session.environment.push }
        (Walk.halt? (execute host (fuel + 1) (.run run) session).1) after ∧
      (execute host (fuel + 1) (.run run) session).2 =
        { after with environment := after.environment.pop } := by
  rw [execute_run_of_targetOf host fuel h]
  refine ⟨_, ?_, rfl⟩
  rw [Walk.halt?_map]
  exact Walk.inOrder_each _ _ _

/-! ### What stages do -/

theorem Statement.stage_eq_during_iff {statement : Statement} :
    statement.stage = .during ↔ ∀ run, statement = .run run → run.stage = .during := by
  cases statement with
  | run run => exact ⟨fun h _ heq => Statement.run.inj heq ▸ h, fun h => h run rfl⟩
  | _ => exact ⟨fun _ _ => nofun, fun _ => rfl⟩

/-- A target can be looked up where it was declared. -/
theorem Environment.getTarget_defineTarget {name : String} (hname : name ≠ "") (env : Environment)
    (body : List Statement) : (env.defineTarget name body).getTarget name = .ok body := by
  rw [Environment.defineTarget, if_neg hname]
  exact lookUp_of_innermost (by simp)

/-- The scripts of a run are those of its body, and then those of its target. -/
theorem Environment.scriptsOf_eq_append {env : Environment} {fuel : Nat} {run : Run}
    {scripts : List String} (h : env.scriptsOf (fuel + 1) run = .ok scripts) :
    ∃ target own others, env.targetOf run = .ok target ∧
      run.body.mapM (env.collected fuel) = .ok own ∧
      target.mapM (env.collected fuel) = .ok others ∧ scripts = own.flatten ++ others.flatten := by
  obtain ⟨target, found, htarget, hfound, rfl⟩ := scriptsOf_eq_ok_iff.1 h
  rw [List.mapM_append] at hfound
  cases hown : run.body.mapM (env.collected fuel) with
  | error halt => rw [hown] at hfound; cases hfound
  | ok own =>
    cases hothers : target.mapM (env.collected fuel) with
    | error halt => rw [hown, hothers] at hfound; cases hfound
    | ok others =>
      rw [hown, hothers] at hfound
      cases hfound
      exact ⟨target, own, others, htarget, rfl, hothers, List.flatten_append⟩

namespace Session

open Statement (ofStage)

/-- The stages put the bodies of targets in order, and nothing else is put in another order than
that in which it is written. -/
structure StagesOrderTargets (host : Host ω η) : Prop where
  /-- The runs marked `before` come first and those marked `after` come last. -/
  stored (fuel : Nat) (body : List Statement) (session : Session ω η) {name : String} :
    name ≠ "" → ∃ env,
      execute host (fuel + 1) (.target name body) session =
        (.ok none, { session with environment := env }) ∧
      env.getTarget name =
        .ok (ofStage .before body ++ ofStage .during body ++ ofStage .after body)
  stable (body : List Statement) :
    ofStage .before body ++ ofStage .during body ++ ofStage .after body =
      body.mergeSort fun first second => first.stage.rank ≤ second.stage.rank
  unmarked {body : List Statement} {statement : Statement} :
    statement ∈ ofStage .during body ↔
      statement ∈ body ∧ ∀ run, statement = .run run → run.stage = .during
  interleaved (name : String) {body other : List Statement} :
    (∀ stage, ofStage stage body = ofStage stage other) →
      Statement.Restaged (.target name body) (.target name other)
  /-- The same scripts are started and the same is queued, in the same order. -/
  walked (fuel : Nat) {statements others : List Statement} {session session' : Session ω η} :
    List.Forall₂ Statement.Restaged statements others → Session.Restaged session session' →
      let walk := Walk.each (execute host fuel) statements session
      let walk' := Walk.each (execute host fuel) others session'
      walk.1 = walk'.1 ∧ Session.Restaged walk.2 walk'.2 ∧
        (startsOf host fuel statements session).map Start.invocation =
          (startsOf host fuel others session').map Start.invocation
  evaluated (fuel : Nat) {statements others : List Statement} {session session' : Session ω η}
      (sink : Sink) :
    List.Forall₂ Statement.Restaged statements others → Session.Restaged session session' →
      Option.Rel Evaluation.Restaged (evaluate host fuel statements session sink)
        (evaluate host fuel others session' sink)
  captured (fuel : Nat) {env other : Environment} {run run' : Run} :
    Environment.Restaged env other → Run.Restaged run run' →
      env.scriptsOf fuel run = other.scriptsOf fuel run'
  /-- The scripts of the body come before those of the target. -/
  captured_in_order {fuel : Nat} {env : Environment} {run : Run} {scripts : List String} :
    env.scriptsOf (fuel + 1) run = .ok scripts →
      ∃ target own others, env.targetOf run = .ok target ∧
        run.body.mapM (env.collected fuel) = .ok own ∧
        target.mapM (env.collected fuel) = .ok others ∧ scripts = own.flatten ++ others.flatten
  run_in_order (fuel : Nat) {run : Run} {session : Session ω η} {target : List Statement} :
    session.environment.targetOf run = .ok target →
      ∃ after, Walk.InOrder (execute host fuel) (run.body ++ target)
          { session with environment := session.environment.push }
          (Walk.halt? (execute host (fuel + 1) (.run run) session).1) after ∧
        (execute host (fuel + 1) (.run run) session).2 =
          { after with environment := after.environment.pop }
  file_in_order (fuel : Nat) (statements : List Statement) (session : Session ω η) :
    let walk := Walk.each (execute host fuel) statements session
    Walk.InOrder (execute host fuel) statements session (Walk.halt? walk.1) walk.2

theorem stagesOrderTargets (host : Host ω η) : StagesOrderTargets host where
  stored fuel body session name hname :=
    ⟨_, rfl, Environment.getTarget_defineTarget hname session.environment _⟩
  stable := Statement.sortByStage_eq_mergeSort
  unmarked := by
    intro body statement
    simp [ofStage, Statement.stage_eq_during_iff]
  interleaved name _ _ := Statement.restaged_target name
  walked fuel statements others session session' h hsession := by
    have hmirrors := Walk.mirrors_along (stepsMirror_execute host fuel) h
    obtain ⟨hvalue, hafter⟩ := hmirrors.relates session session' hsession
    exact ⟨hvalue.eq, hafter, hmirrors.starts_eq hsession⟩
  evaluated fuel _ _ _ _ sink h hsession := evaluate_restaged host fuel h hsession sink
  captured fuel _ _ _ _ henv hrun := (henv.scriptsOf fuel hrun).eq
  captured_in_order := Environment.scriptsOf_eq_append
  run_in_order fuel _ _ _ := inOrder_run host fuel
  file_in_order fuel statements session := Walk.inOrder_each (execute host fuel) statements session

/-- A target whose stages are interleaved in two ways, captured for a variable and run by name. -/
theorem stagesOrderTargets_interleaved :
    let host := Host.recorded fun invocation => ⟨⟨utf8 invocation.script, [], []⟩, .code 0⟩
    let first : Statement := .run ⟨none, [.action "a"], .before⟩
    let last : Statement := .run ⟨none, [.action "c"], .after⟩
    let body : List Statement := [last, .action "b", first]
    let other : List Statement := [first, last, .action "b"]
    let rest : List Statement :=
      [.var [⟨"x", .run ⟨some "t", [], .during⟩⟩], .run ⟨some "t", [.action "o"], .during⟩]
    let session := start host "runny.rny" []
    (∀ stage, ofStage stage body = ofStage stage other) ∧
      (startsOf host 5 (.target "t" body :: rest) session).map Start.invocation =
        (startsOf host 5 (.target "t" other :: rest) session).map Start.invocation ∧
      (startsOf host 5 (.target "t" other :: rest) session).map (·.invocation.script) =
        ["a", "b", "c", "o", "a", "b", "c", "a", "a", "b", "c", "b", "a", "b", "c", "c"] := by
  intro host first last body other rest session
  have hstages (stage : Stage) : ofStage stage body = ofStage stage other := by
    cases stage <;> rfl
  have hrow : List.Forall₂ Statement.Restaged (.target "t" body :: rest)
      (.target "t" other :: rest) :=
    .cons ((stagesOrderTargets host).interleaved "t" hstages) (Statement.restaged_refl_row rest)
  refine ⟨hstages, ?_, by decide +kernel⟩
  exact ((stagesOrderTargets host).walked 5 hrow (Session.Restaged.refl session)).2.2

end Session

end TaskRunner
