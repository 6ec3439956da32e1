import TaskRunner.Shell.Command.Table
import TaskRunner.Shell.Menu
import TaskRunner.Shell.Parse
import TaskRunner.Shell.Redirect
import TaskRunner.Regex.Parse
import TaskRunner.Regex.Search

/-! Carrying out commands. -/

namespace TaskRunner.Shell

open Exec

/-- The circumstances of a command.  The status of one that is tested does not end the script, and a
process exits after one that is its last. -/
structure Course where
  tested : Bool
  exits : Bool
deriving DecidableEq, Repr

namespace Course

/-- Nothing depends on the status, and more commands may follow. -/
def plain : Course := ⟨false, false⟩

/-- The status is tested. -/
def testing : Course := ⟨true, false⟩

/-- The same circumstances, with more commands to follow. -/
def before (course : Course) : Course := { course with exits := false }

end Course

/-! ### Assignments and words -/

/-- The word looks like an assignment. -/
def isAssignment (word : Word) : Bool :=
  match splitAssignment? word with
  | some (name, _) => isName name
  | none => false

/-- The assignment gives a variable the members of an array. -/
def isMembers : Assignment → Bool
  | .to _ _ _ (.members _) => true
  | _ => false

/-- What a command turns out to be when its words are expanded: the texts, those that are shown when
the command is traced, the name of the command among the commands of the shell, whether it is one
that the course of the shell depends on, whether functions count, and the directories that a program
is searched for in, if they are not the usual ones. -/
structure Called where
  shown : List Text
  texts : List Text
  special : Bool
  functions : Bool
  directories : Option (List Text)

/-- The options of `command` in front of words: whether they only choose the search path, whether
that is the usual one, and what follows them. -/
def commandOptions : Nat → List Text → Option (Bool × List Text)
  | 0, _ => none
  | fuel + 1, words =>
    match words with
    | [] => none
    | ['-', '-'] :: rest => if rest.isEmpty then none else some (false, rest)
    | ('-' :: c :: cs) :: rest =>
      if (c :: cs).all (· == 'p') then
        (commandOptions fuel rest).map fun found => (true, found.2)
      else none
    | words => some (false, words)

/-- The command that words name, behind `command`. -/
def calledAs (dialect : Dialect) (texts : List Text) : Called :=
  go (texts.length + 1) ⟨texts, texts, false, true, none⟩ true
where
  /-- The command that words name, with a bound on how often `command` stands in front. -/
  go : Nat → Called → Bool → Called
    | 0, called, _ => called
    | fuel + 1, called, first =>
      let name := toOrdinary (called.texts.headD [])
      let called :=
        if first then { called with special := isSpecialCommand dialect name } else called
      if name = "command" then
        match commandOptions (called.texts.length + 1) called.texts.tail with
        | some (usual, texts) =>
          go fuel { called with
            texts
            functions := false
            directories :=
              if usual then some (directoriesOf usualPath) else called.directories } false
        | none => called
      else if name = "builtin" ∧ dialect = .rich ∧
          isOwnCommand .rich (toOrdinary (called.texts.tail.headD [])) then
        go fuel { called with texts := called.texts.tail, functions := false } false
      else called

/-- Puts a value behind the one that a variable has. -/
def appended (state : State) (name : String) (index : Option Text) (value : Text) : Exec Text := do
  let before : Parameter ← match index with
    | none => pure (state.parameter name)
    | some index => state.member name (.one index)
  match before with
  | .text before => return before ++ value
  | _ => return value

/-! ### Tracing -/

/-- The lines of a trace. -/
def traceLines (dialect : Dialect) (mark : Text) (assignments : List Text) (texts : List Text) :
    Text :=
  match dialect with
  | .plain => mark ++ List.intercalate [' '] (assignments ++ texts) ++ ['\n']
  | .rich =>
    let shownAssignment (text : Text) : Text :=
      let name := text.takeWhile (· != '=')
      name ++ '=' :: (match text.drop (name.length + 1) with
        | [] => []
        | value => tracedWord value)
    (assignments.flatMap fun text => mark ++ shownAssignment text ++ ['\n']) ++
      if texts.isEmpty then [] else mark ++ List.intercalate [' '] (texts.map tracedWord) ++ ['\n']

/-- The text between double quotes that a value stands for, as a word. -/
def valueWord (setting : Setting) (value : Text) : Except SyntaxFault Word :=
  let room := roomFor value
  let grammar : Grammar :=
    ⟨setting, substituted setting maxDepth, quotedScript setting maxDepth, room⟩
  (((readWord .document).run grammar).run' (.start value 1))

/-! ### Scripts -/

/-- The setting in which scripts are read now. -/
def currentSetting : Exec Setting := do
  let state ← get
  match state.dialect with
  | .plain => return ⟨.plain, state.aliases, false⟩
  | .rich =>
    return ⟨.rich, if state.settings.contains "expand_aliases" then state.aliases else [],
      state.settings.contains "extglob"⟩

/-- The complaint about a script that cannot be read, whose first line has a number. -/
def failSyntax {α : Type} (text : Text) (first : Nat) (fault : SyntaxFault) : Exec α := do
  let state ← get
  match state.dialect with
  | .plain =>
    modify fun state => { state with line := fault.line }
    failWith 2 fault.message
  | .rich =>
    let name := state.place?.getD state.name
    let input : Text := if state.input = name then [] else state.input ++ ": "
    let label : Text := name ++ ": " ++ input ++ "line " ++ decimal fault.line ++ ": "
    for message in fault.message.toList.splitOn '\n' do
      writeError (label ++ message ++ ['\n'])
    if fault.shown then
      let line := (text.splitOn '\n').getD (fault.line - first) []
      writeError (label ++ '\x60' :: line ++ "'\n")
    setStatus fault.status
    throw .failed

/-- The warning about documents whose end is missing. -/
def warnLacking (lacking : List (Nat × Nat × Text)) : Exec Unit := do
  for (first, last, delimiter) in lacking do
    let state ← get
    writeError (state.place?.getD state.name ++ ": line " ++ decimal last ++
      ": warning: here-document at line " ++ decimal first ++
      " delimited by end-of-file (wanted \x60" ++ delimiter ++ "')\n")

/-- Runs the commands of a script line by line.  Its first line has a number. -/
def runLines (run : Course → Command → Exec Unit) (course : Course) (first : Nat) (text : Text) :
    Exec Unit := do
  let step (cursor : Cursor) : Exec (Cursor ⊕ Unit) := do
    match readLine (← currentSetting) cursor, (← get).dialect with
    | .error fault, _ => failSyntax text first fault
    | .ok none, _ => return .inr ()
    | .ok (some (command, cursor)), .plain =>
      run course command
      return .inl cursor
    | .ok (some (command, cursor)), .rich =>
      warnLacking cursor.lacking
      match ← outcomeOf (run course command) with
      | .ok () => return .inl { cursor with lacking := [] }
      | .error .failed => return .inl { cursor with lacking := [] }
      | .error interrupt => throw interrupt
  let state ← get
  set { state with shift := 0 }
  ensuring (repeatFrom step (fun _ => pure ()) Act.manyTurns
      (.start (scriptText state.dialect text) first))
    (modify fun after => { after with shift := state.shift })

/-- Carries out the scripts of the signals that came in. -/
def runTraps (script : Course → Nat → Text → Exec Unit) : Exec Unit := do
  let state ← get
  if state.noted.isEmpty then return
  let before := state.beforeTrap
  let status := before.getD state.status
  set { state with beforeTrap := some status }
  let signals := (state.noted.mergeSort (· ≤ ·)).eraseDups
  for signal in signals do
    modify fun state => { state with noted := state.noted.filter (· != signal) }
    match (← get).traps.lookup signal with
    | none => pure ()
    | some action =>
      match ← outcomeOf (script .plain 1 action) with
      | .ok () => setStatus status
      | .error interrupt =>
        match interrupt with
        | .leaveFunction true => pure ()
        | .exit => pure ()
        | .failed => pure ()
        | _ => setStatus status
        if interrupt ≠ .exit ∧ interrupt ≠ .failed then
          modify fun state => { state with beforeTrap := before }
        throw interrupt
  modify fun state => { state with beforeTrap := before }

/-- Ends what a process does: its last script is carried out, and what has been written is passed
on. -/
def finishing (script : Course → Nat → Text → Exec Unit) (body : Exec Unit) : Exec Unit := do
  let _ ← outcomeOf body
  let state ← get
  match state.traps.lookup 0 with
  | none => pure ()
  | some action =>
    set { state with
      traps := state.traps.filter fun entry => entry.1 != 0
      beforeTrap := some state.status }
    match ← outcomeOf (script .plain 1 action) with
    | .error .exit => pure ()
    | .error .failed => pure ()
    | _ => setStatus state.status
  let _ ← flush

/-- Whether something is to be done about a signal or at the end. -/
def State.hasTraps (state : State) : Bool :=
  state.traps.any fun entry => entry.2 ≠ []

/-! ### Commands of the shell -/

/-- Carries out a command of the shell. -/
def runOwn (called : Called) (own : Own) : Exec Unit := do
  let state ← get
  let owner := state.owner
  let name := called.texts.headD []
  set { state with owner := some name }
  let outcome ← outcomeOf (own called.texts.tail)
  let refusal ← flush
  match outcome with
  | .ok status =>
    match refusal with
    | none => setStatus status
    | some refusal =>
      match state.dialect with
      | .plain => complain (name ++ ": I/O error")
      | .rich => complain ("write error: " ++ refusal.message : String)
      setStatus (status ||| 1)
    modify fun state => { state with owner }
  | .error .failed =>
    modify fun state => { state with owner }
    if called.special then throw .failed
  | .error interrupt =>
    modify fun state => { state with owner }
    throw interrupt

/-- Puts a script from a file in place of what is being read, with arguments of its own if there are
any. -/
def readFile (script : Course → Nat → Text → Exec Unit) : Own := fun arguments => do
  match ← withoutOptions arguments with
  | [] =>
    if (← get).dialect = .rich then failUsage "filename argument required" else return 0
  | name :: others =>
    let state ← get
    let rich := state.dialect == .rich
    let path ←
      if name.contains '/' then pure name
      else
        match ← findFile name state.directories with
        | some path => pure path
        | none => if rich then pure name else fail (name ++ ": not found")
    match ← ask (.openFile path .input 0) with
    | .error refusal =>
      if rich then
        modify fun state => { state with owner := none }
        failWith 1 (path ++ ": " ++ refusal.message)
      else fail ("cannot open " ++ path ++ ": " ++ openingReason false refusal)
    | .ok descriptor =>
      let (text, _) ← act (Act.readAll descriptor)
      let _ ← ask (.close descriptor)
      if ¬ rich then modify fun state => { state with owner := some path }
      else
        let frame : Frame := ⟨"source", path, state.line⟩
        modify fun state =>
          { state with
            owner := none
            input := path
            arguments := if others.isEmpty then state.arguments else others }.withCalls
              (frame :: state.calls)
      setStatus 0
      let outcome ← outcomeOf (script .plain 1 text)
      if rich then
        modify fun after =>
          { after with
            input := state.input
            line := state.line
            arguments := if others.isEmpty then after.arguments else state.arguments }.withCalls
              state.calls
      match outcome with
      | .ok () => return (← get).status
      | .error (.leaveFunction _) => return (← get).status
      | .error interrupt => throw interrupt
where
  /-- The first regular file with a name in some directories. -/
  findFile (name : Text) : List Text → Exec (Option Text)
    | [] => return none
    | directory :: rest => do
      match ← ask (.inspect (pathIn directory name) true) with
      | .ok info =>
        if info.kind = .regular then return some (pathIn directory name) else findFile name rest
      | .error _ => findFile name rest

/-- Carries out its arguments as a script. -/
def runArguments (script : Course → Nat → Text → Exec Unit) (course : Course) : Own :=
    fun arguments => do
  let text := List.intercalate [' '] arguments
  let course : Course := ⟨course.tested, false⟩
  setStatus 0
  let state ← get
  match state.dialect with
  | .plain => script course 1 text
  | .rich =>
    set { state with owner := none, input := "eval" }
    ensuring (script course state.line text)
      (modify fun after => { after with line := state.line, input := state.input })
  return (← get).status

/-- The complaint of `exec` about a program that cannot be started, in the richer shell. -/
def complainReplacing (name : Text) (refusal : Refusal) : Exec Unit := do
  let state ← get
  if ¬ name.contains '/' then complain (name ++ ": not found")
  else
    let path := joinedPath state.directory name
    let standing ← standingOf path
    set { state with owner := none }
    complain (startingComplaint .rich path standing refusal)
    set state
    if refusal = .denied ∧ standing = .directory then
      complain (name ++ ": cannot execute: Is a directory")

/-- Puts a program in place of the shell. -/
def replaceSelf (directories : Option (List Text)) : Own := fun arguments => do
  let rich := (← get).dialect == .rich
  let (options, words) ← leadingOptions (if rich then "cla:" else "") arguments
  if words.isEmpty then return 0
  else
    let state ← get
    if (options.lookup 'c').isSome then
      let store := state.store.map fun (name, found) => (name, { found with exported := false })
      set { state with store }
    let directories := directories.getD state.directories
    match state.dialect with
    | .plain => setStatus (← replaceShell words directories)
    | .rich =>
      let refusal ← attempt words directories
      complainReplacing (words.headD []) refusal
      setStatus (startingStatus refusal)
    throw .exit

/-- Says what commands would be, or does nothing. -/
def describeCommands : Own := fun arguments => do
  let (letters, names) ← leadingLetters "pvV" arguments
  let directories := if letters.contains 'p' then some (directoriesOf usualPath) else none
  let verbose := letters.contains 'V'
  if letters.contains 'v' ∨ verbose then
    let mut status := 0
    let state ← get
    for name in if state.dialect = .plain then names.take 1 else names do
      status ← describeCommand (!verbose) directories name
    return status
  else return 0

/-- Says where the function that is being carried out was called, or one further out. -/
def sayCaller : Own := fun arguments => do
  let state ← get
  let outer (n : Nat) : Option Frame := state.calls[n]?
  match arguments with
  | [] =>
    match outer 0, outer 1 with
    | none, _ => return 1
    | some frame, next =>
      let origin : Text := (next.map Frame.origin).getD
        (if state.origin = "environment" then "NULL" else state.origin)
      say (decimal frame.line ++ ' ' :: origin ++ ['\n'])
      return 0
  | argument :: _ =>
    let n := digitsValue argument
    match outer n, outer (n + 1) with
    | some frame, some next =>
      say (decimal frame.line ++ ' ' :: ofString next.name ++ ' ' :: next.origin ++ ['\n'])
      return 0
    | some frame, none =>
      if state.origin = "environment" then return 1
      else
        say (decimal frame.line ++ " main " ++ state.origin ++ ['\n'])
        return 0
    | none, _ => return 1

/-- Complains that the shell has no command of a name. -/
def missBuiltin : Own := fun arguments => do
  match ← withoutOptions arguments with
  | [] => return 0
  | name :: _ => failWith 1 (name ++ ": not a shell builtin")

/-- A command of the shell by its name. -/
def runnable? (script : Course → Nat → Text → Exec Unit) (course : Course) (dialect : Dialect)
    (called : Called) : Option Own :=
  match toOrdinary (called.texts.headD []) with
  | "eval" => some (runArguments script course)
  | "." => some (readFile script)
  | "exec" => some (replaceSelf called.directories)
  | "command" => some describeCommands
  | name =>
    match dialect, name with
    | .rich, "source" => some (readFile script)
    | .rich, "caller" => some sayCaller
    | .rich, "builtin" => some missBuiltin
    | dialect, name => own? dialect name

/-! ### Steps of commands -/

/-- What comes of a step in the name of a command.  A failure is nothing there. -/
def ownedOutcome {α : Type} (name : Text) (step : Exec α) : Exec (Option α) := do
  let owner := (← get).owner
  modify fun state => { state with owner := some name }
  let outcome ← outcomeOf step
  modify fun state => { state with owner }
  match outcome with
  | .ok value => return some value
  | .error .failed => return none
  | .error interrupt => throw interrupt

/-- What is done after a command that can end the script: it does if it failed and nobody tests
that. -/
def checkStatus (script : Course → Nat → Text → Exec Unit) (course : Course) : Exec Unit := do
  let state ← get
  if state.status ≠ 0 ∧ ¬ course.tested then
    if state.dialect = .rich then
      match state.traps.lookup 1001 with
      | some action =>
        let status := state.status
        script .testing 1 action
        setStatus status
      | none => pure ()
    if state.options.contains 'e' then throw .exit

/-- What is done after a command: signals are heard of. -/
def settleSignals (script : Course → Nat → Text → Exec Unit) : Exec Unit := do
  poll
  runTraps script

/-- How a turn of a loop ended. -/
inductive Turn where
  | done
  | next
  | left
deriving DecidableEq, Repr

/-- A part of a turn of a loop. -/
def turn (step : Exec Unit) : Exec Turn := do
  match ← outcomeOf step with
  | .ok () => return .done
  | .error (.leaveLoop count) => if count ≤ 1 then return .left else throw (.leaveLoop (count - 1))
  | .error (.nextTurn count) => if count ≤ 1 then return .next else throw (.nextTurn (count - 1))
  | .error interrupt => throw interrupt

/-- A loop: inside of it, loops can be left. -/
def inLoop (loop : Exec Unit) : Exec Unit := do
  modify fun state => { state with loops := state.loops + 1 }
  ensuring loop (modify fun state => { state with loops := state.loops - 1 })

/-- Repeats a body as long as a condition says so.  The status is that of the body's last turn. -/
def repeatWhile (condition : Exec Bool) (body : Exec Unit) : Exec Unit := do
  let step (status : Nat) : Exec (Nat ⊕ Nat) := do
    let mut goesOn := false
    match ← outcomeOf condition with
    | .ok holds => goesOn := holds
    | .error interrupt =>
      match ← turn (throw interrupt) with
      | .left => return .inr status
      | _ => return .inl status
    if ¬ goesOn then return .inr status
    else
      match ← turn body with
      | .left => return .inr (← get).status
      | _ => return .inl (← get).status
  setStatus (← repeatFrom step pure Act.manyTurns 0)

/-- The name is one that a variable can have.  It is not, there is a complaint. -/
def validName (name : String) : Exec Bool := do
  if isName name.toList then return true
  else
    complain ("\x60" ++ name ++ "': not a valid identifier" : String)
    setStatus 1
    return false

/-- Carries out a body for each of some texts, behind a trace of the loop. -/
def forTexts (name : String) (trace body : Exec Unit) (status : Nat) : List Text → Exec Unit
  | [] => setStatus status
  | text :: rest => do
    trace
    let state ← get
    if state.dialect = .rich ∧ state.isFixed name then
      complain (name ++ ": readonly variable" : String)
      setStatus 1
    else
      assignVariable name text
      match ← turn body with
      | .left => return
      | _ => forTexts name trace body (← get).status rest

/-- Closes the descriptors of streams that were opened for a command. -/
def closeStreams (before : List Nat) : Exec Unit := do
  let streams := (← get).streams
  for descriptor in streams.take (streams.length - before.length) do
    let _ ← ask (.close descriptor)
  modify fun state => { state with streams := before }

/-- Notes the statuses of the processes of a pipeline, and yields that of the whole. -/
def noteStatuses (statuses : List Nat) : Exec Nat := do
  let state ← get
  let last := statuses.getLastD 0
  match state.dialect with
  | .plain => return last
  | .rich =>
    set { state with statuses }
    if state.settings.contains "pipefail" then
      return (statuses.filter (· != 0)).getLastD 0
    else return last

/-- Opens the pipe of a stream, and makes its shell end a descriptor with a great number. -/
def openStream (reads : Bool) : Exec (Nat × Nat) := do
  match ← ask .pipe with
  | .error _ => throw .failed
  | .ok (input, output) =>
    let (mine, other) := if reads then (input, output) else (output, input)
    let target := 63 - (← get).streams.length
    let _ ← ask (.copy mine target)
    let _ ← ask (.close mine)
    modify fun state => { state with streams := target :: state.streams }
    return (target, other)

/-- Counts the lines of a command from the line that the richer shell is in. -/
def countFrom (command : Command) : Exec Unit :=
  modify fun state =>
    match state.dialect with
    | .plain => state
    | .rich => { state with shift := state.line - command.firstLine }

/-- Makes a descriptor stand for what another one stands for, and closes that one. -/
def moveDescriptor (descriptor target : Nat) : Exec Unit := do
  if descriptor ≠ target then
    let _ ← ask (.copy descriptor target)
    let _ ← ask (.close descriptor)

mutual

/-- The output of a command. -/
def captured : Nat → Command → Exec Text
  | 0, _ => throw .stopped
  | fuel + 1, command => do
    match command with
    | .nothing => return []
    | .simple _ [] [] [.read 0 path] =>
      if (← get).dialect = .rich then fileText fuel path else throughPipe fuel command
    | command => throughPipe fuel command

/-- The text of a file. -/
def fileText : Nat → Word → Exec Text
  | 0, _ => throw .stopped
  | fuel + 1, path => do
    let source ← expandTarget (captured fuel) (streamed fuel) path .input false
    let descriptor := ((← openSource ⟨0, source⟩).1).getD 0
    let (text, _) ← act (Act.readAll descriptor)
    let _ ← ask (.close descriptor)
    return text

/-- The output of a command that is carried out by another process. -/
def throughPipe : Nat → Command → Exec Text
  | 0, _ => throw .stopped
  | fuel + 1, command => do
    match ← ask .pipe with
    | .error _ => fail "Pipe call failed"
    | .ok (input, output) =>
      let child ← startChild false false do
        let _ ← ask (.close input)
        moveDescriptor output 1
        if (← get).dialect = .rich then
          modify fun state => { state with options := state.options.filter (· != 'e') }
        countFrom command
        finishing (runScript fuel) (run fuel ⟨false, true⟩ command)
      let _ ← ask (.close output)
      let (text, _) ← act (Act.readAll input)
      let _ ← ask (.close input)
      let statuses ← runJob [child]
      modify fun state => { state with substituted := statuses.getLastD 0 }
      return text

/-- The name of a file through which a command is read from or written to. -/
def streamed : Nat → Bool → Command → Exec Text
  | 0, _, _ => throw .stopped
  | fuel + 1, reads, command => do
    let (mine, other) ← openStream reads
    let _ ← startChild false false do
      let _ ← ask (.close mine)
      moveDescriptor other (if reads then 1 else 0)
      countFrom command
      finishing (runScript fuel) (run fuel ⟨false, true⟩ command)
    let _ ← ask (.close other)
    return "/dev/fd/" ++ decimal mine

/-- Runs a script. -/
def runScript : Nat → Course → Nat → Text → Exec Unit
  | 0, _, _, _ => throw .stopped
  | fuel + 1, course, first, text => runLines (run fuel) course first text

/-- The word of a trace mark, expanded. -/
def traceMark : Nat → Exec Text
  | 0 => throw .stopped
  | fuel + 1 => do
    let state ← get
    let value := (state.valueOf? "PS4").getD []
    if ¬ (value.contains '$' ∨ value.contains '\x60' ∨ value.contains '\\') then return value
    else
      match valueWord (← currentSetting) value with
      | .error _ => return value
      | .ok word =>
        set { state with tracing := true }
        let text ← ensuring (expandText (captured fuel) (streamed fuel) word)
          (modify fun state => { state with tracing := false })
        return text

/-- Writes a trace if traces are asked for. -/
def trace : Nat → Nat → List Text → List Text → Exec Unit
  | 0, _, _, _ => throw .stopped
  | fuel + 1, descriptor, assignments, texts => do
    let state ← get
    if state.options.contains 'x' ∧ ¬ state.tracing then
      let mark ← traceMark fuel
      let _ ← act (Act.writeAll descriptor (traceLines state.dialect mark assignments texts))

/-- Makes an assignment, and yields it as it is traced. -/
def assignOne : Nat → Bool → Assignment → Exec Text
  | 0, _, _ => throw .stopped
  | fuel + 1, exported, .to name index appends value => do
    let capture := captured fuel
    let stream := streamed fuel
    match value with
    | .word word =>
      let index ← match index with
        | none => pure none
        | some index => do pure (some (← expandText capture stream index))
      let value ← expandAssigned capture stream word
      let state ← get
      let reckoned := (state.store.lookup name).any Variable.reckoned
      let value ←
        if reckoned then do
          let text : Text ← if appends then do
            pure ((state.valueOf? name).getD ['0'] ++ '+' :: value) else pure value
          pure (toString (← reckonNumber text)).toList
        else if appends then appended state name index value
        else pure value
      match index with
      | none => assignVariable name value
      | some index => assignIndexed name index value
      if exported then modify fun state => state.export name
      return ofString name ++ '=' :: value
    | .members words =>
      let state ← get
      let isTable := match (state.store.lookup name).bind Variable.value with
        | some (.table _) => true
        | _ => false
      let before : List (Nat × Text) := match (state.store.lookup name).bind Variable.value with
        | some (.members members) => members
        | some (.text text) => [(0, text)]
        | _ => []
      if state.isFixed name then fail (name ++ ": readonly variable" : String)
      modify fun state => state.changeVariable name fun found =>
        { found with
          value := some (
            if isTable then
              (match found.value with
                | some (.table entries) => .table (if appends then entries else [])
                | _ => .table [])
            else .members (if appends then before else [])) }
      let first := if appends then ((before.getLast?.map Prod.fst).map (· + 1)).getD 0 else 0
      assignMembers fuel name isTable first words
      return ofString name ++ "=()"

/-- Sets the members of an array one after the other. -/
def assignMembers : Nat → String → Bool → Nat → List Word → Exec Unit
  | 0, _, _, _, _ => throw .stopped
  | _ + 1, _, _, _, [] => return
  | fuel + 1, name, isTable, next, word :: rest => do
    let capture := captured fuel
    let stream := streamed fuel
    match word with
    | .text false ('[' :: front) :: pieces =>
      match splitIndex? (.text false front :: pieces) with
      | some (index, behind) =>
        match splitAssignment? behind with
        | some ([], value) =>
          let index ← expandText capture stream index
          assignIndexed name index (← expandAssigned capture stream value)
          let next ← if isTable then pure next else do
            pure ((← reckonNumber index).toNat + 1)
          assignMembers fuel name isTable next rest
        | _ => assignPlain fuel name isTable next word rest
      | none => assignPlain fuel name isTable next word rest
    | word => assignPlain fuel name isTable next word rest

/-- Sets the next members of an array to what a word stands for. -/
def assignPlain : Nat → String → Bool → Nat → Word → List Word → Exec Unit
  | 0, _, _, _, _, _ => throw .stopped
  | fuel + 1, name, isTable, next, word, rest => do
    let texts ← expandWord (captured fuel) (streamed fuel) word
    for (text, n) in texts.zipIdx do
      modify fun state => state.assignMember name (next + n) text
    assignMembers fuel name isTable (next + texts.length) rest

/-- The words of a command, expanded. -/
def expandCalled : Nat → List Text → List Word → Exec (List Text)
  | 0, _, _ => throw .stopped
  | _ + 1, done, [] => return done
  | fuel + 1, done, word :: rest => do
    let words := if 'B' ∈ (← get).options then alternatives word else [word]
    let texts ← words.mapM (expandArgument fuel done)
    expandCalled fuel (done ++ texts.flatten) rest

/-- The texts that a word stands for behind others.  What a declaration assigns falls into no
fields. -/
def expandArgument : Nat → List Text → Word → Exec (List Text)
  | 0, _, _ => throw .stopped
  | fuel + 1, done, word => do
    let capture := captured fuel
    let stream := streamed fuel
    if ¬ done.isEmpty ∧ isAssignment word then
      let name := toOrdinary ((calledAs (← get).dialect done).texts.headD [])
      if declaringCommands.contains name then return [← expandAssigned capture stream word]
      else expandSingle capture stream word
    else expandSingle capture stream word

/-- Calls a function. -/
def callFunction : Nat → Course → Function → List Text → Exec Unit
  | 0, _, _, _ => throw .stopped
  | fuel + 1, course, function, texts => do
    let before ← get
    set ({ before with
      arguments := texts.tail
      place := ⟨1, none⟩
      shift := 0
      loops := 0 }.withCalls
        (⟨toOrdinary (texts.headD []), function.origin, before.line⟩ :: before.calls))
    let outcome ← outcomeOf (run fuel course.before function.body)
    modify fun state =>
      { state with
        arguments := before.arguments
        shift := before.shift
        place := before.place
        loops := before.loops }.withCalls before.calls
    match outcome with
    | .ok () => return
    | .error (.leaveFunction _) => return
    | .error interrupt => throw interrupt

/-- Carries out what a simple command names, after its redirections and assignments. -/
def runCalled : Nat → Course → Called → Exec Unit
  | 0, _, _ => throw .stopped
  | fuel + 1, course, called => do
    let state ← get
    let word := called.texts.headD []
    let name := toOrdinary word
    let special := isSpecialCommand state.dialect name
    match if called.functions ∧ ¬ special then state.functions.lookup name else none with
    | some function => callFunction fuel course function called.texts
    | none =>
      match runnable? (runScript fuel) course state.dialect called with
      | some own => runOwn called own
      | none => runProgram fuel course called

/-- Starts a program and waits for it. -/
def runProgram : Nat → Course → Called → Exec Unit
  | 0, _, _ => throw .stopped
  | _ + 1, course, called => do
    let word := called.texts.headD []
    let state ← get
    let directories := called.directories.getD state.directories
    let found : Except Refusal Nat ←
      if word.contains '/' then pure (.ok 0)
      else if word.isEmpty ∧ state.dialect = .rich then pure (.error .noEntry)
      else if called.directories.isSome then findFrom word none 0 .noEntry directories
      else findProgram word
    match found with
    | .error refusal =>
      complain (startingComplaint state.dialect word .missing refusal)
      setStatus 127
    | .ok index =>
      let start : Exec Nat := replaceShell called.texts (directories.drop index)
      if course.exits ∧ ¬ state.hasTraps then
        let status ← start
        quit status
      else
        let child ← fork do
          let status ← start
          quit status
        setStatus (← noteStatuses (← runJob [child]))

/-- Carries out a simple command. -/
def runSimple : Nat → Course → Nat → List Assignment → List Word → List Redirection → Exec Unit
  | 0, _, _, _, _, _ => throw .stopped
  | fuel + 1, course, line, assignments, words, redirections => do
    enterLine line
    modify fun state => { state with substituted := 0 }
    let capture := captured fuel
    let stream := streamed fuel
    let streams := (← get).streams
    let texts ← expandCalled fuel [] words
    let dialect := (← get).dialect
    let called := calledAs dialect texts
    let name := toOrdinary (called.texts.headD [])
    let isExec := name == "exec"
    let declares := dialect == .rich && assignments.all isMembers && declaringCommands.contains name
    let hidden := !texts.isEmpty && !called.special
    let (later, assignments) := assignments.partition fun assignment =>
      hidden && isMembers assignment
    let prepared ← prepare capture stream redirections
    let (kept, redirected) ← redirect [] prepared
    let depth := (← get).locals.length
    let body : Exec Unit := do
      if ¬ redirected then
        setStatus (if dialect = .plain then 2 else 1)
        if called.special then throw .failed
      else
        if hidden ∧ ¬ declares then modify fun state => { state with locals := [] :: state.locals }
        let shown ← assignAll fuel hidden (isExec && 1 < called.texts.length) assignments
        if (← get).options.contains 'x' then
          trace fuel (((kept.lookup 2).join).getD 2) shown called.shown
        if texts.isEmpty then setStatus (← get).substituted
        else runCalled fuel course called
        if ¬ later.isEmpty then
          let _ ← assignAll fuel false false later
    let outcome ← outcomeOf body
    if (← get).locals.length ≠ depth then leaveFrame
    if isExec ∧ redirected then forget kept else restore kept
    closeStreams streams
    match outcome with
    | .ok () => return
    | .error interrupt => throw interrupt

/-- Makes assignments one after the other.  Hidden ones are taken back later. -/
def assignAll : Nat → Bool → Bool → List Assignment → Exec (List Text)
  | 0, _, _, _ => throw .stopped
  | _ + 1, _, _, [] => return []
  | fuel + 1, hidden, exported, assignment :: rest => do
    match assignment with
    | .to name _ _ _ =>
      let state ← get
      if hidden ∧ state.dialect = .rich ∧ state.isFixed name then
        complain (name ++ ": readonly variable" : String)
        assignAll fuel hidden exported rest
      else
        if hidden then keepVariable name
        let shown ← assignOne fuel (hidden || exported) assignment
        return shown :: (← assignAll fuel hidden exported rest)

/-- Starts the processes of a pipeline, each of which reads what the one before it writes. -/
def startPipeline : Nat → Course → Bool → Bool → Option Nat → List Command → Exec (List Nat)
  | 0, _, _, _, _, _ => throw .stopped
  | _ + 1, _, _, _, _, [] => return []
  | fuel + 1, course, background, first, input, command :: rest => do
    noteProgram command
    let ends ←
      if rest.isEmpty then pure none
      else
        match ← ask .pipe with
        | .ok ends => pure (some ends)
        | .error _ => fail "Pipe call failed"
    let child ← startChild background first do
      match ends with
      | some (mine, _) =>
        let _ ← ask (.close mine)
      | none => pure ()
      match input with
      | some input => moveDescriptor input 0
      | none => pure ()
      match ends with
      | some (_, output) => moveDescriptor output 1
      | none => pure ()
      finishing (runScript fuel) (run fuel ⟨course.tested, true⟩ command)
    match input with
    | some input =>
      let _ ← ask (.close input)
    | none => pure ()
    match ends with
    | some (_, output) =>
      let _ ← ask (.close output)
    | none => pure ()
    let others ← startPipeline fuel course background false (ends.map Prod.fst) rest
    return child :: others
where
  /-- Takes note of the program that a command starts. -/
  noteProgram (command : Command) : Exec Unit := do
    match command with
    | .simple _ _ ([.text false name] :: _) _ =>
      let word := toOrdinary name
      let state ← get
      if isName name ∧ state.dialect = .plain ∧ ¬ isOwnCommand .plain word ∧
          (state.functions.lookup word).isNone then
        let _ ← findProgram name
    | _ => return

/-- Carries out a command in a process of its own. -/
def runApart : Nat → Course → Bool → Nat → Command → List Redirection → Exec Unit
  | 0, _, _, _, _, _ => throw .stopped
  | fuel + 1, course, background, line, body, redirections => do
    if line ≠ 0 then enterLine line
    let streams := (← get).streams
    let prepared ← prepare (captured fuel) (streamed fuel) redirections
    let inside (course : Course) : Exec Unit := do
      match ← redirect [] prepared with
      | (_, true) => run fuel course body
      | (_, false) =>
        setStatus (if (← get).dialect = .plain then 2 else 1)
        throw .failed
    if ¬ background ∧ course.exits ∧ ¬ (← get).hasTraps then inside course
    else
      let tested := course.tested && !background
      let child ← startChild background true
        (finishing (runScript fuel) (inside ⟨tested, true⟩))
      if background then
        let _ ← addJob [child]
        modify fun state => { state with lastJob := some child, status := 0 }
      else setStatus (← noteStatuses (← runJob [child]))
      closeStreams streams

/-- The status of a condition of the richer language: zero if it holds, one if not, and two if an
expression in it is no regular expression. -/
def decide : Nat → Test → Exec Nat
  | 0, _ => throw .stopped
  | fuel + 1, test => do
    let capture := captured fuel
    let stream := streamed fuel
    match test with
    | .not test => return if (← decide fuel test) = 0 then 1 else 0
    | .both first second =>
      let status ← decide fuel first
      if status = 0 then decide fuel second else return status
    | .either first second =>
      let status ← decide fuel first
      if status = 0 then return 0 else decide fuel second
    | .words [word] => return statusOf (!(← expandText capture stream word).isEmpty)
    | .words (sign :: operand :: _) =>
      let operand ← expandText capture stream operand
      match bareText? sign with
      | some "-v" => return statusOf ((← get).parameterAt operand).isSome
      | some "-o" =>
        let state ← get
        return statusOf (state.dialect.options.any fun entry =>
          entry.1 == toOrdinary operand && state.hasOption entry)
      | some sign => return statusOf (← act (testOne (ofString sign) operand))
      | none => return 1
    | .words [] => return 1
    | .compare first sign second =>
      let first ← expandText capture stream first
      if sign = "=" ∨ sign = "==" ∨ sign = "!=" then
        let folds := (← get).settings.contains "nocasematch"
        let pattern ← expandPattern capture stream wordDepth true folds second
        let first := if folds then first.map Char.toLower else first
        return statusOf (pattern.fits first != (sign == "!="))
      else if sign = "=~" then
        let cells ← expandPieces capture stream wordDepth false false second
        match Regex.ofText ⟨true, true⟩ (Cell.expression cells) with
        | .error _ => return 2
        | .ok regex =>
          let folds := (← get).settings.contains "nocasematch"
          return statusOf (← findIn first.toArray (regex.matcher folds false))
      else
        let second ← expandText capture stream second
        if sign = "<" then
          return statusOf (Decidable.decide (String.ofList first < String.ofList second))
        else if sign = ">" then
          return statusOf (Decidable.decide (String.ofList second < String.ofList first))
        else
          match compareNumbers sign with
          | some compare =>
            match ← ownedOutcome "[[" (do
              let first ← reckonNumber first
              return (first, ← reckonNumber second)) with
            | some (first, second) => return statusOf (compare first second)
            | none => return 1
          | none => return statusOf (← act (compareFiles .rich sign first second))
where
  /-- The status that says whether something holds. -/
  statusOf (holds : Bool) : Nat := if holds then 0 else 1
  /-- Whether an expression fits a text somewhere.  What it fits is kept in an array. -/
  findIn (subject : Array Char) (matcher : Regex.Matcher) : Exec Bool := do
    match matcher.find? subject 0 with
    | none =>
      keep []
      return false
    | some hit =>
      keep ((List.range (matcher.groups + 1)).map fun n => (n, hit.text subject n))
      return true
  /-- Keeps the texts of groups. -/
  keep (members : List (Nat × Text)) : Exec Unit :=
    modify fun state => state.changeVariable "BASH_REMATCH" fun found =>
      { found with value := some (.members members) }

/-- The number that an expression of the richer language comes to. -/
def reckonWord : Nat → Word → Exec Int
  | 0, _ => throw .stopped
  | fuel + 1, word => do
    let text ← expandText (captured fuel) (streamed fuel) word
    traceRich fuel ("(( " ++ text ++ " ))")
    match ← ownedOutcome "((" (reckonNumber text) with
    | some n => return n
    | none => throw .failed

/-- Carries out the clause of a choice that fits, and those that follow it if it says so.  What the
clause before them asks for is given once one has been carried out. -/
def runClauses : Nat → Course → Text → Option Sequel → List (List Word × Command × Sequel) →
    Exec Unit
  | 0, _, _, _, _ => throw .stopped
  | _ + 1, _, _, asked, [] => if asked.isNone then setStatus 0 else return
  | fuel + 1, course, subject, asked, (patterns, body, sequel) :: rest => do
    let taken ← if asked = some .nextBody then pure true else anyFits fuel subject patterns
    if taken then
      match body, sequel with
      | .nothing, _ => setStatus 0
      | body, .nothing => run fuel course body
      | body, _ => run fuel course.before body
      if sequel = .nothing then return
      else runClauses fuel course subject (some sequel) rest
    else runClauses fuel course subject asked rest

/-- Whether one of some patterns fits. -/
def anyFits : Nat → Text → List Word → Exec Bool
  | 0, _, _ => throw .stopped
  | _ + 1, _, [] => return false
  | fuel + 1, subject, pattern :: rest => do
    let settings := (← get).settings
    let folds := settings.contains "nocasematch"
    let pattern ← expandPattern (captured fuel) (streamed fuel) wordDepth
      (settings.contains "extglob") folds pattern
    if pattern.fits (if folds then subject.map Char.toLower else subject) then return true
    else anyFits fuel subject rest

/-- Carries out a command. -/
def run : Nat → Course → Command → Exec Unit
  | 0, _, _ => throw .stopped
  | fuel + 1, course, command => do
    if (← get).options.contains 'n' then return
    else
      let capture := captured fuel
      let stream := streamed fuel
      /- What is done after a command whose status counts. -/
      let checked (step : Exec Unit) : Exec Unit := do
        match ← outcomeOf step with
        | .ok () =>
          match command with
          | .pipeline _ _ => pure ()
          | _ => modify fun state => { state with statuses := [state.status] }
          checkStatus (runScript fuel) course
          settleSignals (runScript fuel)
        | .error interrupt =>
          match interrupt with
          | .leaveLoop _ => checkStatus (runScript fuel) course
          | .nextTurn _ => checkStatus (runScript fuel) course
          | .leaveFunction _ => checkStatus (runScript fuel) course
          | _ => pure ()
          throw interrupt
      match command with
      | .nothing => return
      | .simple line assignments words redirections =>
        checked (runSimple fuel course line assignments words redirections)
      | .negation command =>
        run fuel .testing command
        setStatus (if (← get).status = 0 then 1 else 0)
      | .pipeline background commands =>
        checked do
          let processes ← startPipeline fuel course background true none commands
          if background then
            let _ ← addJob processes
            modify fun state => { state with lastJob := processes.getLast?, status := 0 }
          else setStatus (← noteStatuses (← runJob processes))
      | .both first second =>
        run fuel .testing first
        if (← get).status = 0 then run fuel course second
      | .either first second =>
        run fuel .testing first
        if (← get).status ≠ 0 then run fuel course second
      | .sequence first second =>
        run fuel course.before first
        run fuel course second
      | .redirected line command redirections =>
        if line ≠ 0 then enterLine line
        let streams := (← get).streams
        let prepared ← prepare capture stream redirections
        let (kept, redirected) ← redirect [] prepared
        ensuring
          (if redirected then run fuel course.before command
            else do
              setStatus (if (← get).dialect = .plain then 2 else 1)
              checkStatus (runScript fuel) course)
          (do
            restore kept
            closeStreams streams)
      | .subshell line body redirections =>
        checked (runApart fuel course false line body redirections)
      | .background line body redirections =>
        checked (runApart fuel course true line body redirections)
      | .conditional condition body otherwise =>
        run fuel .testing condition
        if (← get).status = 0 then run fuel course body
        else
          match otherwise with
          | .nothing => setStatus 0
          | otherwise => run fuel course otherwise
      | .loop whileFails condition body =>
        inLoop (repeatWhile
          (do
            run fuel .testing condition
            return ((← get).status == 0) != whileFails)
          (run fuel course.before body))
      | .forEach line head name words body =>
        enterLine line
        if ← validName name then
          let texts ← textsFor fuel words
          inLoop (forTexts name (traceRich fuel ("for " ++ head))
            (run fuel course.before body) 0 texts)
      | .select line name words body =>
        enterLine line
        if ← validName name then
          let texts ← textsFor fuel words
          inLoop (selectTexts fuel name (run fuel course.before body) texts)
      | .unread complaint =>
        let state ← get
        let name := state.place?.getD state.name
        for line in complaint.splitOn '\n' do
          writeError (name ++ ": command substitution: " ++ line ++ ['\n'])
        setStatus 2
      | .timed brief command =>
        run fuel course.before command
        writeError (if brief then "real 0.00\nuser 0.00\nsys 0.00\n"
          else "\nreal\t0m0.000s\nuser\t0m0.000s\nsys\t0m0.000s\n")
      | .count line first condition step body =>
        enterLine line
        let _ ← reckonIf fuel first
        inLoop (repeatWhile
          (do
            return condition.isEmpty || (← reckonWord fuel condition) != 0)
          (do
            match ← turn (run fuel course.before body) with
            | .left => throw (.leaveLoop 1)
            | _ =>
              let _ ← reckonIf fuel step))
      | .choice line head subject clauses =>
        enterLine line
        traceRich fuel ("case " ++ head)
        let subject ← expandText capture stream subject
        runClauses fuel course subject none clauses
      | .function line name body =>
        modify fun state =>
          let function : Function := ⟨state.place?.getD state.origin, line, body⟩
          { state with
            functions := (name, function) :: state.functions.filter fun entry => entry.1 != name
            status := 0 }
      | .test line test =>
        checked do
          enterLine line
          setStatus (← decide fuel test)
      | .reckon line expression =>
        checked do
          enterLine line
          let text ← expandText capture stream expression
          traceRich fuel ("(( " ++ text ++ " ))")
          match ← ownedOutcome "((" (reckonNumber text) with
          | some n => setStatus (if n = 0 then 1 else 0)
          | none => setStatus 1

/-- The texts that a loop goes through. -/
def textsFor : Nat → Option (List Word) → Exec (List Text)
  | 0, _ => throw .stopped
  | fuel + 1, words =>
    match words with
    | some words => expandWords (captured fuel) (streamed fuel) words
    | none => do return (← get).arguments

/-- Writes a trace of the richer shell if traces are asked for. -/
def traceRich : Nat → Text → Exec Unit
  | 0, _ => throw .stopped
  | fuel + 1, text => do
    let state ← get
    if state.dialect = .rich ∧ state.options.contains 'x' ∧ ¬ state.tracing then
      let mark ← traceMark fuel
      writeError (mark ++ text ++ ['\n'])

/-- Lets the reader of a menu choose texts, and carries out a body for each choice. -/
def selectTexts : Nat → String → Exec Unit → List Text → Exec Unit
  | 0, _, _, _ => throw .stopped
  | _ + 1, name, body, texts => do
    let prompt := ((← get).valueOf? "PS3").getD ['#', '?', ' ']
    /- A turn shows the menu if it is asked for. -/
    let step (shows : Bool) : Exec (Bool ⊕ Unit) := do
      if shows then writeError (menu texts)
      writeError prompt
      let (row, ended) ← readRow 0 false
      let reply := row.map Prod.fst
      assignVariable "REPLY" reply
      if ¬ ended ∧ reply.isEmpty then
        writeError ['\n']
        setStatus 1
        return .inr ()
      else if reply.isEmpty then return .inl true
      else
        let chosen : Option Text := match countValue reply with
          | some (n + 1) => texts[n]?
          | _ => none
        assignVariable name (chosen.getD [])
        match ← turn body with
        | .left => return .inr ()
        | _ => return .inl ((← get).valueOf? "REPLY" == some [])
    if texts.isEmpty then setStatus 0
    else repeatFrom step (fun _ => pure ()) Act.manyTurns true

/-- The number that an expression comes to, unless there is none. -/
def reckonIf : Nat → Word → Exec Int
  | 0, _ => throw .stopped
  | fuel + 1, word => if word.isEmpty then return 0 else reckonWord fuel word

end

/-- How deep commands may be nested in one another. -/
def commandDepth : Nat := 100000000

/-- Runs a script as the only thing that a process does. -/
def runWhole (text : Text) : Exec Unit :=
  finishing (runScript commandDepth) (runScript commandDepth .plain 1 text)

end TaskRunner.Shell
