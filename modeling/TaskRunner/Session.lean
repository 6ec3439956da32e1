import TaskRunner.Environment
import TaskRunner.Output
import TaskRunner.Path
import TaskRunner.Statement.Layout

/-! Sessions: the evaluation of statements.  A walk over the statements starts the scripts of the
actions as it meets them and queues what there is to see; the queue is written when the walk is
over.  How deep a walk may go is bounded by its fuel, because a target may run itself. -/

namespace TaskRunner

/-- The state of an evaluation.  `chain` lists the files that are being read, the outermost
first. -/
structure Session (ω η : Type) where
  origin : String
  chain : List String
  environment : Environment
  config : Table Literal
  queue : List (Entry η)
  world : ω

/-- Why a walk ended early: by an error, or for want of fuel. -/
inductive Halt where
  | error (error : RunError)
  | exhausted
deriving DecidableEq, Repr

/-- A step that changes a session and yields a value or ends the walk. -/
def Walk (ω η α : Type) : Type :=
  Session ω η → Except Halt α × Session ω η

namespace Walk

variable {ω η α β : Type}

/-- The step that yields a value and changes nothing. -/
def pure (value : α) : Walk ω η α :=
  fun session => (.ok value, session)

/-- A step followed by another. -/
def bind (step : Walk ω η α) (next : α → Walk ω η β) : Walk ω η β :=
  fun session =>
    match step session with
    | (.ok value, session) => next value session
    | (.error halt, session) => (.error halt, session)

instance : Monad (Walk ω η) where
  pure := pure
  bind := bind

/-- The step that ends the walk. -/
def fail (error : RunError) : Walk ω η α :=
  fun session => (.error (.error error), session)

/-- The step that yields what was found, or ends the walk. -/
def ofExcept (found : Except Halt α) : Walk ω η α :=
  fun session => (found, session)

/-- The step that yields a part of the session. -/
def get (part : Session ω η → α) : Walk ω η α :=
  fun session => (.ok (part session), session)

/-- The step that changes the session. -/
def modify (change : Session ω η → Session ω η) : Walk ω η Unit :=
  fun session => (.ok (), change session)

/-- A step between two changes of the session.  The second change is made however the step ends. -/
def between (first last : Session ω η → Session ω η) (step : Walk ω η α) : Walk ω η α :=
  fun session =>
    match step (first session) with
    | (result, session) => (result, last session)

/-- The steps for the members of a list, one after the other. -/
def each (step : α → Walk ω η β) : List α → Walk ω η (List β)
  | [] => pure []
  | a :: rest => bind (step a) fun b => bind (each step rest) fun more => pure (b :: more)

@[simp] theorem bind_ok {step : Walk ω η α} {next : α → Walk ω η β} {session session' : Session ω η}
    {value : α} (h : step session = (.ok value, session')) :
    bind step next session = next value session' := by
  simp [bind, h]

@[simp] theorem bind_error {step : Walk ω η α} {next : α → Walk ω η β}
    {session session' : Session ω η}
    {halt : Halt} (h : step session = (.error halt, session')) :
    bind step next session = (.error halt, session') := by
  simp [bind, h]

end Walk

/-- The shell of a session that configures none. -/
def defaultShell : String := "sh"

/-- Text without the double quotes at its ends. -/
def unquote (text : String) : String :=
  String.ofList (dropEndWhile (· == '"') (text.toList.dropWhile (· == '"')))

/-- Captured bytes as the value of a variable: text without the line ends at its end. -/
def capturedText (bytes : Bytes) : String :=
  String.ofList (dropEndWhile (fun c => c == '\n' || c == '\r') (decodeLossy bytes))

/-- A script without the white space at its ends. -/
def trimScript (script : String) : String :=
  String.ofList (trim script.toList)

/-- What the queue shows of a script before its output. -/
def echo (script : String) : String :=
  String.ofList (dedent script.toList) ++ "\n"

/-- What the queue shows of a line of a description. -/
def descriptionLine (line : String) : String :=
  "> " ++ line ++ "\n"

/-- A found value, or the error as the end of a walk. -/
def orHalt {α : Type} : Except RunError α → Except Halt α
  | .ok value => .ok value
  | .error error => .error (.error error)

/-- The statements of the target that a run names. -/
def Environment.targetOf (env : Environment) (run : Run) : Except RunError (List Statement) :=
  match run.name with
  | none => .ok []
  | some name => env.getTarget name

/-- The scripts of a run, those of its body before those of its target. -/
def Environment.scriptsOf (env : Environment) : Nat → Run → Except Halt (List String)
  | 0, _ => .error .exhausted
  | fuel + 1, run => do
    let target ← orHalt (env.targetOf run)
    let found ← (run.body ++ target).mapM fun statement =>
      match statement with
      | .action script =>
        .ok (if trimScript script = "" then [] else [trimScript script])
      | .run nested => env.scriptsOf fuel nested
      | _ => .ok []
    return found.flatten

/-- The visible variables whose value is a text, with that text. -/
def Environment.texts (env : Environment) : List (String × String) :=
  env.visible.entries.filterMap fun entry =>
    match entry.2 with
    | .text text => some (entry.1, unquote text)
    | .pending _ => none

namespace Session

variable {ω η : Type}

/-- The session that begins with a file.  The file need not exist. -/
def start (host : Host ω η) (origin : String) (world : ω) : Session ω η :=
  ⟨origin, [(host.canonical? origin world).getD origin], .initial, .empty, [], world⟩

/-- The shell that runs the scripts. -/
def shell (session : Session ω η) : String :=
  match (session.config.get? "shell").bind Literal.text? with
  | some shell => if shell = "" then defaultShell else shell
  | none => defaultShell

/-- Queues an entry. -/
def enqueue (entry : Entry η) : Walk ω η Unit :=
  .modify fun session => { session with queue := session.queue ++ [entry] }

/-- Starts a script. -/
def startScript (host : Host ω η) (script : String) (exports : List (String × String)) :
    Walk ω η η :=
  fun session =>
    match host.start ⟨session.shell, script, exports⟩ session.world with
    | (.ok process, world) => (.ok process, { session with world })
    | (.error fault, world) =>
      (.error (.error (.notStarted session.shell fault)), { session with world })

/-- Waits for a process to end. -/
def finish (host : Host ω η) (process : η) : Walk ω η Outcome :=
  fun session =>
    let finished := host.finish process session.world
    (.ok finished.1, { session with world := finished.2 })

/-- Runs a script to its end. -/
def runScript (host : Host ω η) (script : String) (exports : List (String × String)) :
    Walk ω η Outcome := do
  let process ← startScript host script exports
  finish host process

/-- The output of the scripts of a run. -/
def capture (host : Host ω η) (fuel : Nat) (run : Run) : Walk ω η String := do
  let env ← Walk.get environment
  let scripts ← Walk.ofExcept (env.scriptsOf fuel run)
  let outcomes ← Walk.each (fun script => runScript host script env.texts) scripts
  return capturedText (outcomes.flatMap fun outcome => outcome.stdout ++ outcome.stderr)

/-- The text of a variable. -/
def resolve (host : Host ω η) (fuel : Nat) (entry : String × Value) : Walk ω η (String × String) :=
  match entry.2 with
  | .text text => return (entry.1, unquote text)
  | .pending run => do
    let text ← capture host fuel run
    return (entry.1, text)

/-- An action: shows its script, and runs it with the visible variables. -/
def action (host : Host ω η) (fuel : Nat) (script : String) : Walk ω η Unit := do
  let script := trimScript script
  if script = "" then return ()
  let env ← Walk.get environment
  let exports ← Walk.each (resolve host fuel) env.visible.entries
  enqueue (.text (echo script))
  let process ← startScript host script exports
  enqueue (.process script process)

/-- One binding of a configuration. -/
def configure (host : Host ω η) (fuel : Nat) (step : Statement → Walk ω η (Option String))
    (item : Binding) : Walk ω η Unit := do
  let value ← match item.initializer with
    | .literal value => pure value
    | .run run => Literal.string <$> capture host fuel run
    | other => do
      let text ← step other
      pure (.string (text.getD ""))
  Walk.modify fun session => { session with config := session.config.insert item.name value }

/-- One binding of a variable. -/
def bindVariable (step : Statement → Walk ω η (Option String)) (item : Binding) :
    Walk ω η Unit := do
  let value ← match item.initializer with
    | .literal value => pure (Value.text value.value)
    | .run run => pure (.pending run)
    | other => do
      let text ← step other
      pure (.text (text.getD ""))
  Walk.modify fun session =>
    { session with environment := session.environment.defineVariable item.name value }

/-- A run: its body and then its target, in a scope of their own. -/
def runBlock (step : Statement → Walk ω η (Option String)) (run : Run) : Walk ω η Unit := do
  let env ← Walk.get environment
  let target ← Walk.ofExcept (orHalt (env.targetOf run))
  let _ ← Walk.between
    (fun session => { session with environment := session.environment.push })
    (fun session => { session with environment := session.environment.pop })
    (Walk.each step (run.body ++ target))
  return ()

/-- The statements of another file, read and walked in the current scope. -/
def readIn (host : Host ω η) (step : Statement → Walk ω η (Option String)) (path : String) :
    Walk ω η Unit :=
  fun session =>
    let key := (host.canonical? path session.world).getD path
    if session.chain.any (Path.same key) then (.error (.error (.circularExtends path)), session)
    else
      match host.readText path session.world with
      | .error fault => (.error (.error (.unreadable path fault)), session)
      | .ok source =>
        match parseSource source with
        | .error error => (.error (.error (.inFile path (.source error))), session)
        | .ok statements =>
          let inside := { session with origin := path, chain := session.chain ++ [key] }
          let walked := Walk.each step statements inside
          (walked.1.map fun _ => (),
            { walked.2 with origin := session.origin, chain := walked.2.chain.dropLast })

/-- One path of an extension, which leads from the directory of the file that names it. -/
def extendBy (host : Host ω η) (step : Statement → Walk ω η (Option String)) (path : Literal) :
    Walk ω η Unit :=
  match path.text? with
  | none => Walk.fail (.invalidPath (String.ofList path.written))
  | some relative => do
    let origin ← Walk.get origin
    readIn host step (Path.join (Path.parent origin) relative)

/-- A statement.  Only a literal has a value. -/
def execute (host : Host ω η) : Nat → Statement → Walk ω η (Option String)
  | 0, _ => Walk.ofExcept (.error .exhausted)
  | fuel + 1, statement =>
    let step := execute host fuel
    match statement with
    | .config items => do
      let _ ← Walk.each (configure host fuel step) items
      return none
    | .var items => do
      let _ ← Walk.each (bindVariable step) items
      return none
    | .target name body => do
      Walk.modify fun session =>
        { session with
          environment := session.environment.defineTarget name (Statement.sortByStage body) }
      return none
    | .run run => do
      runBlock step run
      return none
    | .action script => do
      action host fuel script
      return none
    | .describe lines => do
      let _ ← Walk.each (fun line => enqueue (.text (descriptionLine line))) lines
      return none
    | .extend paths => do
      let _ ← Walk.each (extendBy host step) paths
      return none
    | .literal value => return some value.value

/-- The results of an evaluation: one for each statement, the session, and the sink. -/
structure Evaluation (ω η : Type) where
  result : Except RunError (List (Option String))
  session : Session ω η
  sink : Sink

/-- Walks over the statements and writes what was queued.  An error of the walk comes before one of
the writing.  Without enough fuel there is no evaluation. -/
def evaluate (host : Host ω η) (fuel : Nat) (statements : List Statement) (session : Session ω η)
    (sink : Sink) : Option (Evaluation ω η) :=
  let walked := Walk.each (execute host fuel) statements session
  let (written, sink, world) := drain host sink walked.2.queue walked.2.world
  let after := { walked.2 with queue := [], world }
  match walked.1 with
  | .error .exhausted => none
  | .error (.error error) => some ⟨.error error, after, sink⟩
  | .ok results => some ⟨written.map fun _ => results, after, sink⟩

end Session

end TaskRunner
