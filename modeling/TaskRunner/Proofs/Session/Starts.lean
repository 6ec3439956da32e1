import Mathlib.Data.List.Nodup
import TaskRunner.Proofs.Scan.Symbols
import TaskRunner.Proofs.Session.Queue
import TaskRunner.Proofs.Text.Quotes

/-! The scripts that a walk starts, each with the environment at that time: those behind the
variables that an action sees, that of the action itself, and those behind the configuration.  A
walk starts these and no others, and each of them is given every visible name whose innermost
binding is a text with that text, without the double quotes at its ends. -/

namespace TaskRunner

variable {ω η α β : Type}

/-- A script that is started: the environment at that time, and what is asked for. -/
structure Start where
  environment : Environment
  invocation : Invocation

/-- From one world to the other those scripts are started, in that order; other than that, output is
taken and processes are waited for and given up. -/
inductive Host.Starts (host : Host ω η) : List Invocation → ω → ω → Prop where
  | none (world : ω) : host.Starts [] world world
  | start {invocation : Invocation} {rest : List Invocation} {world after : ω}
      (h : host.Starts rest (host.start invocation world).2 after) :
      host.Starts (invocation :: rest) world after
  | collect {process : η} {rest : List Invocation} {world after : ω}
      (h : host.Starts rest (host.collect process world).2 after) : host.Starts rest world after
  | wait {process : η} {rest : List Invocation} {world after : ω}
      (h : host.Starts rest (host.wait process world).2 after) : host.Starts rest world after
  | abandon {process : η} {rest : List Invocation} {world after : ω}
      (h : host.Starts rest (host.abandon process world) after) : host.Starts rest world after

theorem Host.Starts.append {host : Host ω η} {invocations others : List Invocation}
    {world middle after : ω} (h : host.Starts invocations world middle)
    (hmore : host.Starts others middle after) :
    host.Starts (invocations ++ others) world after := by
  induction h with
  | none world => exact hmore
  | start _ ih => exact .start (ih hmore)
  | collect _ ih => exact .collect (ih hmore)
  | wait _ ih => exact .wait (ih hmore)
  | abandon _ ih => exact .abandon (ih hmore)

theorem Host.Starts.finish {host : Host ω η} {process : η} {rest : List Invocation}
    {world after : ω} (h : host.Starts rest (host.finish process world).2 after) :
    host.Starts rest world after :=
  .collect (.wait h)

/-- The process is given every name whose innermost binding is a text with that text, without the
double quotes at its ends, and with no other value. -/
def Start.IsFaithful (start : Start) : Prop :=
  ∀ name text, start.environment.getVariable name = .ok (.text text) →
    ∀ value, (name, value) ∈ start.invocation.exports ↔ value = unquote text

namespace Session

/-! ### The scripts of a walk -/

/-- The scripts that are started to capture the output of a run. -/
def captureStarts (host : Host ω η) (fuel : Nat) (run : Run) (session : Session ω η) :
    List Start :=
  let exports := session.environment.texts
  match session.environment.scriptsOf fuel run with
  | .error _ => []
  | .ok scripts =>
    Walk.along (fun script => runScript host script exports)
      (fun script session => [⟨session.environment, ⟨session.shell, script, exports⟩⟩]) scripts
      session

/-- The scripts that are started to resolve a variable. -/
def resolveStarts (host : Host ω η) (fuel : Nat) (entry : String × Value)
    (session : Session ω η) : List Start :=
  match entry.2 with
  | .text _ => []
  | .pending run => captureStarts host fuel run session

/-- The scripts that an action starts: those behind the variables, and its own if all variables can
be resolved. -/
def actionStarts (host : Host ω η) (fuel : Nat) (script : String) (session : Session ω η) :
    List Start :=
  if trimScript script = "" then []
  else
    let entries := session.environment.visible.entries
    Walk.along (resolve host fuel) (resolveStarts host fuel) entries session ++
      match Walk.each (resolve host fuel) entries session with
      | (.error _, _) => []
      | (.ok exports, after) => [⟨after.environment, ⟨after.shell, trimScript script, exports⟩⟩]

/-- The scripts that are started for a binding of the configuration. -/
def configureStarts (host : Host ω η) (fuel : Nat)
    (inner : Statement → Session ω η → List Start) (item : Binding) (session : Session ω η) :
    List Start :=
  match item.initializer with
  | .literal _ => []
  | .run run => captureStarts host fuel run session
  | other => inner other session

/-- The scripts that are started by the statements of a file that is read in. -/
def readInStarts (host : Host ω η) (step : Statement → Walk ω η (Option String))
    (inner : Statement → Session ω η → List Start) (path : String) (session : Session ω η) :
    List Start :=
  match opened host path session with
  | .error _ => []
  | .ok (statements, inside) => Walk.along step inner statements inside

/-- The scripts that are started by one path of an extension. -/
def extendStarts (host : Host ω η) (step : Statement → Walk ω η (Option String))
    (inner : Statement → Session ω η → List Start) (path : Literal) (session : Session ω η) :
    List Start :=
  match path.text? with
  | none => []
  | some relative =>
    readInStarts host step inner (Path.join (Path.parent session.origin) relative) session

/-- The scripts that the walk over a statement starts, in that order. -/
def starts (host : Host ω η) : Nat → Statement → Session ω η → List Start
  | 0, _, _ => []
  | fuel + 1, statement, session =>
    let step := execute host fuel
    let inner := starts host fuel
    match statement with
    | .config items =>
      Walk.along (configure host fuel step) (configureStarts host fuel inner) items session
    | .var items => Walk.along (bindVariable step) (Binding.course inner) items session
    | .run run => runCourse step inner run session
    | .action script => actionStarts host fuel script session
    | .extend paths => Walk.along (extendBy host step) (extendStarts host step inner) paths session
    | _ => []

/-- The scripts that the walk over the statements of a file starts. -/
def startsOf (host : Host ω η) (fuel : Nat) (statements : List Statement)
    (session : Session ω η) : List Start :=
  Walk.along (execute host fuel) (starts host fuel) statements session

end Session

/-! ### Steps and what they start -/

/-- From one session to the other those scripts are started and no others, and each of them is given
what it should be. -/
structure Session.Report (host : Host ω η) (starts : List Start) (session after : Session ω η) :
    Prop where
  started : host.Starts (starts.map Start.invocation) session.world after.world
  faithful : ∀ start ∈ starts, start.IsFaithful

namespace Session

variable {host : Host ω η} {session middle after : Session ω η} {first more : List Start}

theorem Report.nothing (h : after.world = session.world) : Report host [] session after := by
  refine ⟨?_, fun _ hstart => nomatch hstart⟩
  rw [h]
  exact .none _

theorem Report.append (h : Report host first session middle)
    (hmore : Report host more middle after) : Report host (first ++ more) session after := by
  refine ⟨?_, List.forall_mem_append.2 ⟨h.faithful, hmore.faithful⟩⟩
  rw [List.map_append]
  exact h.started.append hmore.started

/-- Nothing but the world matters to a report. -/
theorem Report.of_world {session' after' : Session ω η} (h : Report host first session after)
    (hsession : session'.world = session.world) (hafter : after'.world = after.world) :
    Report host first session' after' := by
  refine ⟨?_, h.faithful⟩
  rw [hsession, hafter]
  exact h.started

end Session

namespace Walk

open Session (Report)

/-- The step starts those scripts and no others, and all of them are given what they should be. -/
def Reports (host : Host ω η) (step : Walk ω η α) (starts : Session ω η → List Start) : Prop :=
  ∀ session, Report host (starts session) session (step session).2

variable {host : Host ω η}

theorem reports_pure (value : α) : Reports host (Pure.pure value) fun _ => [] :=
  fun _ => .nothing rfl

theorem reports_modify {change : Session ω η → Session ω η}
    (h : ∀ session, (change session).world = session.world) :
    Reports host (modify change) fun _ => [] :=
  fun session => .nothing (h session)

/-- A step after which nothing more is started. -/
theorem Reports.bind {step : Walk ω η α} {next : α → Walk ω η β}
    {starts : Session ω η → List Start} (h : Reports host step starts)
    (hnext : ∀ value, Reports host (next value) fun _ => []) :
    Reports host (step >>= next) starts := by
  intro session
  have hfirst := h session
  show Report host (starts session) session (Walk.bind step next session).2
  rcases hstep : step session with ⟨result, after⟩
  rw [hstep] at hfirst
  cases result with
  | error halt =>
    rw [bind_error hstep]
    exact hfirst
  | ok value =>
    rw [bind_ok hstep, ← List.append_nil (starts session)]
    exact hfirst.append (hnext value after)

theorem reports_along {step : α → Walk ω η β} {starts : α → Session ω η → List Start}
    (h : ∀ item, Reports host (step item) (starts item)) (items : List α) :
    Reports host (each step items) (along step starts items) := by
  induction items with
  | nil => exact reports_pure []
  | cons item rest ih =>
    intro session
    have hfirst := h item session
    rw [each, along]
    rcases hstep : step item session with ⟨result, after⟩
    rw [hstep] at hfirst
    cases result with
    | error halt =>
      rw [bind_error hstep, List.append_nil]
      exact hfirst
    | ok value =>
      rw [bind_ok hstep]
      exact hfirst.append (ih.bind (fun more => reports_pure (value :: more)) after)

end Walk

/-! ### What processes are given -/

namespace Environment

/-- The texts that can be seen are those of the innermost bindings. -/
theorem mem_texts_iff {env : Environment} {name value : String} :
    (name, value) ∈ env.texts ↔
      ∃ text, env.getVariable name = .ok (.text text) ∧ value = unquote text := by
  have hview := env.isView_visible
  constructor
  · intro hmem
    obtain ⟨⟨other, found⟩, hentry, hfound⟩ := List.mem_filterMap.1 hmem
    cases found with
    | text text =>
      cases hfound
      exact ⟨text, hview.innermost.1 hentry, rfl⟩
    | pending run => cases hfound
  · rintro ⟨text, htext, rfl⟩
    exact List.mem_filterMap.2 ⟨_, hview.innermost.2 htext, rfl⟩

end Environment

/-- What is captured is given the texts that can be seen. -/
theorem Start.isFaithful_texts (env : Environment) (shell script : String) :
    Start.IsFaithful ⟨env, ⟨shell, script, env.texts⟩⟩ := by
  intro name text hname value
  rw [Environment.mem_texts_iff]
  constructor
  · rintro ⟨other, hother, rfl⟩
    rw [hname] at hother
    cases hother
    rfl
  · intro hvalue
    exact ⟨text, hname, hvalue⟩

section

variable {host : Host ω η} {env : Environment} {shell : String}
  {literals exports : List (String × String)} {starts : List Invocation} {world after : ω}

/-- A text is exported without the double quotes at its ends. -/
theorem Resolves.mem_of_text {bindings : List (String × Value)}
    (h : Resolves host env shell literals bindings world starts exports after)
    {name text : String} (hmem : (name, .text text) ∈ bindings) :
    (name, unquote text) ∈ exports := by
  induction h with
  | nil => cases hmem
  | text hvalue _ ih =>
    rcases List.mem_cons.1 hmem with heq | hmem
    · cases heq
      rw [unquotes_iff.1 hvalue]
      exact List.mem_cons_self
    · exact List.mem_cons_of_mem _ (ih hmem)
  | pending _ _ _ _ ih =>
    rcases List.mem_cons.1 hmem with heq | hmem
    · cases heq
    · exact List.mem_cons_of_mem _ (ih hmem)

/-- What the variables of an environment are resolved to is faithful to them. -/
theorem Resolves.isFaithful
    (h : Resolves host env shell literals env.visible.entries world starts exports after)
    (script : String) : Start.IsFaithful ⟨env, ⟨shell, script, exports⟩⟩ := by
  intro name text hname value
  have hmem := h.mem_of_text (env.isView_visible.innermost.2 hname)
  constructor
  · -- No name is bound twice, so none is exported twice.
    intro hvalue
    have hnodup : (exports.map Prod.fst).Nodup := by
      rw [h.names]
      refine List.pairwise_map.2 (env.visible.sorted.imp fun {a b} hlt heq => ?_)
      rw [heq] at hlt
      exact String.lt_irrefl _ hlt
    exact congrArg Prod.snd (List.inj_on_of_nodup_map hnodup hvalue hmem rfl)
  · rintro rfl
    exact hmem

end

namespace Session

open Walk

section

variable {host : Host ω η} {fuel : Nat}

/-! ### What a walk starts -/

/-- A script that is run to its end is started once, and nothing but the world changes. -/
theorem snd_runScript (host : Host ω η) (script : String) (exports : List (String × String))
    (session : Session ω η) :
    ∃ world, (runScript host script exports session).2 = { session with world } ∧
      host.Starts [⟨session.shell, script, exports⟩] session.world world := by
  show ∃ world, (Walk.bind (startScript host script exports) (finish host) session).2 = _ ∧ _
  rcases hstart : host.start ⟨session.shell, script, exports⟩ session.world with ⟨started, world⟩
  have hworld : (host.start ⟨session.shell, script, exports⟩ session.world).2 = world := by
    rw [hstart]
  cases started with
  | error fault =>
    refine ⟨world, ?_, .start ?_⟩
    · simp [Walk.bind, startScript, hstart]
    · rw [hworld]
      exact .none _
  | ok process =>
    have hfinish : host.Starts [] world (host.finish process world).2 := .finish (.none _)
    refine ⟨(host.finish process world).2, ?_, .start ?_⟩
    · simp [Walk.bind, startScript, hstart, finish]
    · rw [hworld]
      exact hfinish

theorem report_scripts (host : Host ω η) {env : Environment} (scripts : List String)
    {session : Session ω η} (henv : session.environment = env) :
    Report host
      (along (fun script => runScript host script env.texts)
        (fun script session => [⟨session.environment, ⟨session.shell, script, env.texts⟩⟩]) scripts
        session)
      session (each (fun script => runScript host script env.texts) scripts session).2 := by
  induction scripts generalizing session with
  | nil => exact .nothing rfl
  | cons script rest ih =>
    obtain ⟨world, hafter, hstarts⟩ := snd_runScript host script env.texts session
    rw [each, along]
    rcases hrun : runScript host script env.texts session with ⟨result, after⟩
    rw [hrun] at hafter
    obtain rfl : after = { session with world } := hafter
    have hfirst : Report host [⟨session.environment, ⟨session.shell, script, env.texts⟩⟩] session
        { session with world } := by
      refine ⟨hstarts, fun start hstart => ?_⟩
      rw [List.mem_singleton.1 hstart, henv]
      exact Start.isFaithful_texts env _ script
    cases result with
    | error halt =>
      rw [Walk.bind_error hrun]
      exact hfirst
    | ok outcome =>
      rw [Walk.bind_ok hrun]
      refine hfirst.append ?_
      rw [show (Walk.bind (each (fun script => runScript host script env.texts) rest)
        (fun more => Walk.pure (outcome :: more)) { session with world }).2 = _ from
          snd_bind_pure _ _ _]
      exact ih henv

theorem reports_capture (host : Host ω η) (fuel : Nat) (run : Run) :
    Reports host (capture host fuel run) (captureStarts host fuel run) := by
  intro session
  rw [captureStarts]
  cases hscripts : session.environment.scriptsOf fuel run with
  | error halt =>
    rw [capture_of_scriptsOf_error hscripts]
    exact .nothing rfl
  | ok scripts =>
    have hfound : Walk.ofExcept (session.environment.scriptsOf fuel run) session =
        (.ok scripts, session) := by rw [hscripts]; rfl
    have hcapture : (capture host fuel run session).2 =
        (each (fun script => runScript host script session.environment.texts) scripts
          session).2 := by
      show (Walk.bind (Walk.ofExcept (session.environment.scriptsOf fuel run)) _ session).2 = _
      rw [Walk.bind_ok hfound]
      exact snd_bind_pure _ _ session
    rw [hcapture]
    exact report_scripts host scripts rfl

theorem reports_resolve (host : Host ω η) (fuel : Nat) (entry : String × Value) :
    Reports host (resolve host fuel entry) (resolveStarts host fuel entry) := by
  unfold resolve resolveStarts
  cases entry.2 with
  | text text => exact reports_pure _
  | pending run => exact (reports_capture host fuel run).bind fun _ => reports_pure _

theorem world_launch (host : Host ω η) (script : String) (exports : List (String × String))
    (session : Session ω η) :
    (launch host script exports session).2.world =
      (host.start ⟨session.shell, script, exports⟩ session.world).2 := by
  rw [launch]
  rcases host.start ⟨session.shell, script, exports⟩ session.world with ⟨started, world⟩
  cases started <;> rfl

theorem reports_action (host : Host ω η) (fuel : Nat) (script : String) :
    Reports host (action host fuel script) (actionStarts host fuel script) := by
  intro session
  by_cases hscript : trimScript script = ""
  · rw [action_of_blank hscript, actionStarts, if_pos hscript]
    exact .nothing rfl
  rw [actionStarts, if_neg hscript]
  have hresolved := reports_along (reports_resolve host fuel) session.environment.visible.entries
    session
  have hresolution := resolution_each host fuel session.environment.visible.entries session
  dsimp only
  generalize heach : Walk.each (resolve host fuel) session.environment.visible.entries session =
    ended at hresolution hresolved ⊢
  cases hresolution with
  | @resolved _ exports world hresolves =>
    rw [action_of_each_ok hscript heach]
    refine hresolved.append ⟨.start ?_, fun start hstart => ?_⟩
    · rw [world_launch]
      exact .none _
    · rw [List.mem_singleton.1 hstart]
      exact hresolves.isFaithful _
  | unresolved =>
    rw [action_of_each_error hscript heach, List.append_nil]
    exact hresolved
  | exhausted =>
    rw [action_of_each_error hscript heach, List.append_nil]
    exact hresolved

variable {step : Statement → Walk ω η (Option String)}
  {inner : Statement → Session ω η → List Start}

theorem reports_configure (hstep : ∀ statement, Reports host (step statement) (inner statement))
    (item : Binding) :
    Reports host (configure host fuel step item) (configureStarts host fuel inner item) := by
  have hset (value : Literal) : Reports host (Walk.modify fun session : Session ω η =>
      { session with config := session.config.insert item.name value }) fun _ => [] :=
    reports_modify fun _ => rfl
  unfold configure configureStarts
  cases item.initializer with
  | literal value => exact (reports_pure value).bind hset
  | run run => exact ((reports_capture host fuel run).bind fun _ => reports_pure _).bind hset
  | _ => exact (hstep _).bind fun _ => (reports_pure _).bind hset

theorem reports_bindVariable (hstep : ∀ statement, Reports host (step statement) (inner statement))
    (item : Binding) : Reports host (bindVariable step item) (Binding.course inner item) := by
  have hset (value : Value) : Reports host (Walk.modify fun session : Session ω η =>
      { session with environment := session.environment.defineVariable item.name value })
      fun _ => [] :=
    reports_modify fun _ => rfl
  unfold bindVariable Binding.course
  cases item.initializer with
  | literal value => exact (reports_pure _).bind hset
  | run run => exact (reports_pure _).bind hset
  | _ => exact (hstep _).bind fun _ => (reports_pure _).bind hset

theorem reports_runBlock (hstep : ∀ statement, Reports host (step statement) (inner statement))
    (run : Run) : Reports host (runBlock step run) (runCourse step inner run) := by
  intro session
  rw [runBlock, runCourse]
  show Report host _ session
    (Walk.bind (Walk.ofExcept (orHalt (session.environment.targetOf run))) _ session).2
  cases session.environment.targetOf run with
  | error error => exact .nothing rfl
  | ok target =>
    have hscope : Reports host (Walk.between
        (fun session => { session with environment := session.environment.push })
        (fun session => { session with environment := session.environment.pop })
        (each step (run.body ++ target))) fun session =>
          Walk.along step inner (run.body ++ target)
            { session with environment := session.environment.push } :=
      fun session => (reports_along hstep _ _).of_world rfl rfl
    exact hscope.bind (fun _ => reports_pure ()) session

theorem reports_readIn (hstep : ∀ statement, Reports host (step statement) (inner statement))
    (path : String) : Reports host (readIn host step path) (readInStarts host step inner path) := by
  intro session
  rw [readInStarts]
  cases hopened : opened host path session with
  | error error =>
    rw [readIn_of_opened_error hopened]
    exact .nothing rfl
  | ok found =>
    obtain ⟨statements, inside⟩ := found
    rw [readIn_of_opened_ok hopened]
    obtain ⟨-, -, rfl⟩ := of_opened_ok hopened
    exact (reports_along hstep statements _).of_world rfl rfl

theorem reports_extendBy (hstep : ∀ statement, Reports host (step statement) (inner statement))
    (path : Literal) :
    Reports host (extendBy host step path) (extendStarts host step inner path) := by
  unfold extendBy extendStarts
  cases path.text? with
  | none => exact fun _ => .nothing rfl
  | some relative => exact fun session => reports_readIn hstep _ session

/-- The walk over a statement starts those scripts and no others. -/
theorem reports_execute (host : Host ω η) (fuel : Nat) (statement : Statement) :
    Reports host (execute host fuel statement) (starts host fuel statement) := by
  -- What a statement leads to is walked over with less fuel, so the induction is on the fuel.
  induction fuel generalizing statement with
  | zero => exact fun _ => .nothing rfl
  | succ fuel ih =>
    have hnone (_ : List Unit) : Reports host (Pure.pure (none : Option String)) fun _ => [] :=
      reports_pure none
    cases statement with
    | config items => exact (reports_along (reports_configure ih) items).bind hnone
    | var items => exact (reports_along (reports_bindVariable ih) items).bind hnone
    | target name body =>
      have hset : Reports host (Walk.modify fun session : Session ω η =>
          { session with
            environment := session.environment.defineTarget name (Statement.sortByStage body) })
          fun _ => [] :=
        reports_modify fun _ => rfl
      exact hset.bind fun _ => reports_pure none
    | run run => exact (reports_runBlock ih run).bind fun _ => reports_pure none
    | action script => exact (reports_action host fuel script).bind fun _ => reports_pure none
    | describe lines =>
      intro session
      refine .nothing ?_
      show (Walk.bind (Walk.each _ lines) _ session).2.world = session.world
      rw [Walk.bind_ok (each_enqueue lines session)]
      rfl
    | extend paths => exact (reports_along (reports_extendBy ih) paths).bind hnone
    | literal value => exact reports_pure _

/-! ### Evaluations -/

theorem starts_abandonAll (host : Host ω η) (queue : List (Entry η)) (world : ω) :
    host.Starts [] world (abandonAll host queue world) := by
  induction queue generalizing world with
  | nil => exact .none world
  | cons entry rest ih =>
    cases entry with
    | text text => exact ih world
    | process command process => exact .abandon (ih _)

theorem starts_present (host : Host ω η) (sink : Sink) (entry : Entry η) (world : ω) :
    host.Starts [] world (entry.present host sink world).2.2 := by
  cases entry with
  | text text => exact .none world
  | process command process =>
    rw [Entry.present]
    dsimp only
    rcases sink.writeAll (host.collect process world).1.chunks with ⟨error | ⟨⟩, taken⟩
    · exact .collect (.abandon (.none _))
    · exact .collect (.wait (.none _))

/-- While the queue is written, nothing is started. -/
theorem starts_drain (host : Host ω η) (queue : List (Entry η)) (world : ω) (sink : Sink) :
    host.Starts [] world (drain host sink queue world).2.2 := by
  induction queue generalizing world sink with
  | nil => exact .none world
  | cons entry rest ih =>
    have hpresent := starts_present host sink entry world
    rw [drain]
    rcases hrun : entry.present host sink world with ⟨error | ⟨⟩, taken, after⟩ <;>
      rw [hrun] at hpresent
    · exact hpresent.append (starts_abandonAll host rest after)
    · exact hpresent.append (ih after taken)

/-- What an evaluation starts, and what it gives to the processes.  The scripts that are started are
those of the walk, in that order.  While the innermost binding of a name is a text, each of them is
given the name with the text without the double quotes at its ends.  So the text arrives without the
pairs of double quotes around it just if there is no double quote left at one end, and as it is just
if it neither begins nor ends with a double quote. -/
theorem evaluate_gives_texts (host : Host ω η) (fuel : Nat) (statements : List Statement)
    (session : Session ω η) :
    let started := startsOf host fuel statements session
    host.Starts (started.map Start.invocation) session.world
        (each (execute host fuel) statements session).2.world ∧
      (∀ sink done, evaluate host fuel statements session sink = some done →
        host.Starts (started.map Start.invocation) session.world done.session.world) ∧
      ∀ start ∈ started, ∀ name text,
        start.environment.getVariable name = .ok (.text text) →
          (∀ value, (name, value) ∈ start.invocation.exports ↔ value = unquote text) ∧
          ((name, String.ofList (withoutPairs text.toList)) ∈ start.invocation.exports ↔
            IsBare (withoutPairs text.toList)) ∧
          ((name, text) ∈ start.invocation.exports ↔ IsBare text.toList) := by
  intro started
  have hreport := reports_along (reports_execute host fuel) statements session
  refine ⟨hreport.started, fun sink done hdone => ?_, fun start hstart name text hname => ?_⟩
  · rw [session_of_evaluate hdone, ← List.append_nil (started.map Start.invocation)]
    exact hreport.started.append (starts_drain host _ _ sink)
  · have hgiven := hreport.faithful start hstart name text hname
    refine ⟨hgiven, ?_, ?_⟩
    · rw [hgiven, unquote_eq, String.ofList_inj, eq_comm, withoutQuotes_eq_withoutPairs_iff]
    · rw [hgiven, ← withoutQuotes_eq_self_iff, unquote_eq, eq_comm, ← String.toList_inj,
        String.toList_ofList]

/-- A text between two pairs of double quotes, given to a script behind a variable and to an
action. -/
theorem evaluate_gives_texts_quoted :
    let source := "var \x7b x `\"\"a\"\"` y \x7b run \x7b echo \x7d \x7d \x7d\nrun \x7b true \x7d"
    let host := Host.recorded fun _ => ⟨⟨utf8 "b", [], []⟩, .code 0⟩
    let statements : List Statement :=
      [.var [⟨"x", .literal (.string "\"\"a\"\"")⟩, ⟨"y", .run ⟨none, [.action "echo"], .during⟩⟩],
        .run ⟨none, [.action "true"], .during⟩]
    let session := start host "runny.rny" []
    parseSource source = .ok statements ∧
      (startsOf host 4 statements session).map Start.invocation =
        [⟨"sh", "echo", [("x", "a")]⟩, ⟨"sh", "true", [("x", "a"), ("y", "b")]⟩] ∧
      ∃ first second, startsOf host 4 statements session = [first, second] ∧
        first.environment.getVariable "x" = .ok (.text "\"\"a\"\"") ∧
        second.environment.getVariable "x" = .ok (.text "\"\"a\"\"") ∧
        (∀ value, ("x", value) ∈ first.invocation.exports ↔ value = unquote "\"\"a\"\"") ∧
        ∀ value, ("x", value) ∈ second.invocation.exports ↔ value = unquote "\"\"a\"\"" := by
  intro source host statements session
  have hparse : parseSource source = .ok statements :=
    parseSource_eq_ok_iff.2 ⟨[.var [.binding "x" (.literal (.string "\"\"a\"\"")),
      .binding "y" (.run .during (.block [.script "echo"]))],
      .run .during (.block [.script "true"])],
      by decide +kernel, by decide, rfl⟩
  have hinvocations : (startsOf host 4 statements session).map Start.invocation =
      [⟨"sh", "echo", [("x", "a")]⟩, ⟨"sh", "true", [("x", "a"), ("y", "b")]⟩] := by decide +kernel
  obtain ⟨first, second, hstarts, hfirst, hsecond⟩ : ∃ first second,
      startsOf host 4 statements session = [first, second] ∧
        first.environment.getVariable "x" = .ok (.text "\"\"a\"\"") ∧
        second.environment.getVariable "x" = .ok (.text "\"\"a\"\"") := ⟨_, _, rfl, rfl, rfl⟩
  obtain ⟨-, -, hgiven⟩ := evaluate_gives_texts host 4 statements session
  rw [hstarts] at hgiven
  exact ⟨hparse, hinvocations, first, second, hstarts, hfirst, hsecond,
    (hgiven first (by simp) "x" _ hfirst).1, (hgiven second (by simp) "x" _ hsecond).1⟩

/-- A text that ends with a double quote and does not begin with one loses it on the way. -/
theorem evaluate_drops_single_quote :
    let source := "var \x7b x `say \"hi\"` \x7d\nrun \x7b true \x7d"
    let host := Host.recorded fun _ => ⟨⟨[], [], []⟩, .code 0⟩
    let statements : List Statement :=
      [.var [⟨"x", .literal (.string "say \"hi\"")⟩], .run ⟨none, [.action "true"], .during⟩]
    let session := start host "runny.rny" []
    parseSource source = .ok statements ∧
      ∃ started ∈ startsOf host 4 statements session,
        started.environment.getVariable "x" = .ok (.text "say \"hi\"") ∧
        started.invocation.exports = [("x", "say \"hi")] := by
  intro source host statements session
  refine ⟨parseSource_eq_ok_iff.2 ⟨[.var [.binding "x" (.literal (.string "say \"hi\""))],
    .run .during (.block [.script "true"])], by decide +kernel, by decide, rfl⟩,
    ⟨_, List.mem_cons_self, rfl, by decide +kernel⟩⟩

end

end Session

end TaskRunner
