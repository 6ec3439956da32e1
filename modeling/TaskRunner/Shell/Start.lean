import TaskRunner.Shell.Execute

/-! Shells as programs: what they do with their arguments and with the environment they are given.
-/

namespace TaskRunner.Shell

open Exec

/-! ### The first state -/

/-- The variables that a shell begins with. -/
def firstVariables (dialect : Dialect) (parent : Nat) : List (String × Text) :=
  let known (entries : List (String × String)) : List (String × Text) :=
    entries.map fun (name, value) => (name, ofString value)
  let common : List (String × Text) :=
    known [("OPTIND", "1"), ("PS4", "+ ")] ++ [("PPID", decimal parent)]
  let path : String × Text := ("PATH", usualPath)
  let separators : String × Text := ("IFS", [' ', '\t', '\n'])
  match dialect with
  | .plain => common ++ known [("PS2", "> "), ("PS1", "# ")] ++ [path, separators]
  | .rich =>
    common ++ [path, separators] ++ known
      [("OPTERR", "1"), ("BASH", "/usr/bin/bash"), ("BASH_VERSION", "5.2.21(1)-release"),
        ("EUID", "0"), ("UID", "0"), ("HOSTTYPE", "x86_64"), ("MACHTYPE", "x86_64-pc-linux-gnu"),
        ("OSTYPE", "linux-gnu"), ("TERM", "dumb"), ("SHELL", "/bin/bash")]

/-- The arrays that a shell begins with. -/
def firstArrays (dialect : Dialect) : List (String × Variable) :=
  match dialect with
  | .plain => []
  | .rich =>
    let version : List Text := ["5", "2", "21", "1", "release", "x86_64-pc-linux-gnu"]
    [("BASH_VERSINFO", ⟨some (State.listed version), false, true, false⟩)]

/-- The variables whose first values an environment does not change. -/
def keptVariables : List String := ["IFS", "OPTIND", "PPID", "EUID", "UID", "BASH_VERSION"]

/-- The state with a variable from an environment. -/
def State.importEntry (state : State) (entry : Text) : State :=
  let name := entry.takeWhile (· != '=')
  match isName name, entry.drop name.length with
  | true, _ :: value =>
    let key := String.ofList name
    let state := if keptVariables.contains key then state else state.assign key value
    state.export key
  | _, _ => state

/-- The settings of the richer shell that are on from the beginning. -/
def firstSettings : List String :=
  ["checkwinsize", "cmdhist", "complete_fullquote", "extquote", "force_fignore",
    "globasciiranges", "globskipdots", "hostcomplete", "interactive_comments",
    "interactive-comments", "patsub_replacement", "progcomp", "promptvars", "sourcepath"]

/-- The state in which a shell begins. -/
def State.first (dialect : Dialect) (name : Text) (environment : List Text)
    (number parent : Nat) : State :=
  let empty : State :=
    { dialect
      name
      arguments := []
      store := ((firstVariables dialect parent).map fun entry =>
        (entry.1, ⟨some (.text entry.2), false, false, false⟩)) ++ firstArrays dialect
      locals := []
      functions := []
      calls := []
      origin := "environment"
      input := name
      stack := []
      aliases := []
      options := if dialect = .rich then ['h', 'B'] else []
      settings := if dialect = .rich then firstSettings else []
      traps := []
      noted := []
      beforeTrap := none
      status := 0
      statuses := []
      substituted := 0
      line := 0
      shift := 0
      owner := none
      loops := 0
      jobs := []
      lastJob := none
      number
      process := number
      subshells := 0
      began := 0
      seed := number
      parent
      place := ⟨1, none⟩
      directory := []
      output := []
      found := []
      tracing := false
      streams := [] }
  environment.foldl State.importEntry empty

/-- Finds out where the shell is. -/
def findPlace : Exec Unit := do
  let state ← get
  let trusted ← match state.valueOf? "PWD" with
    | some path =>
      if path.head? ≠ some '/' then pure none
      else
        match ← ask (.inspect path true), ← ask (.inspect ['.'] true) with
        | .ok a, .ok b => pure (if a.number = b.number then some path else none)
        | _, _ => pure none
    | none => pure none
  let path ← match trusted with
    | some path => pure path
    | none => physicalDirectory
  modify fun state => { (state.assign "PWD" path).export "PWD" with directory := path }
  if state.dialect = .rich then
    let level := match state.valueOf? "SHLVL" with
      | some text => digitsValue text + 1
      | none => 1
    modify fun state => (state.assign "SHLVL" (decimal level)).export "SHLVL"

/-! ### Arguments -/

/-- Sets the options of a shell by the letters of an argument, and yields whether a script is to
follow, and the arguments left. -/
def startLetters (on : Bool) (sign : Char) (script : Bool) :
    Text → List Text → Exec (Bool × List Text)
  | [], rest => return (script, rest)
  | letter :: letters, rest => do
    if letter = 'c' then startLetters on sign true letters rest
    else if letter = 'l' then startLetters on sign script letters rest
    else if letter = 'o' then
      match rest with
      | [] => sayOptions on
      | name :: _ => setNamed on name
      startLetters on sign script letters rest.tail
    else if letter = 'O' ∧ (← get).dialect = .rich then
      match rest with
      | [] => pure ()
      | name :: _ =>
        modify fun state =>
          { state with settings := withMember on (toOrdinary name) state.settings }
      startLetters on sign script letters rest.tail
    else if letter = 's' ∨ letter = 'i' then
      modify fun state => { state with options := withMember on letter state.options }
      startLetters on sign script letters rest
    else
      setLetter on sign letter
      startLetters on sign script letters rest

/-- Sets the options of a shell, and yields whether a script is to follow, and the arguments left.
-/
def startOptions : Nat → Bool → List Text → Exec (Bool × List Text)
  | 0, script, arguments => return (script, arguments)
  | _ + 1, script, [] => return (script, [])
  | fuel + 1, script, argument :: rest => do
    match argument with
    | ['-'] => return (script, rest)
    | ['-', '-'] => return (script, rest)
    | '-' :: '-' :: _ =>
      match (← get).dialect with
      | .plain => failOption '-' '-'
      | .rich => startOptions fuel script rest
    | '-' :: letters =>
      let (script, rest) ← startLetters true '-' script letters rest
      startOptions fuel script rest
    | '+' :: letters =>
      let (script, rest) ← startLetters false '+' script letters rest
      startOptions fuel script rest
    | _ => return (script, argument :: rest)

/-- The complaint about a script that cannot be opened. -/
def failScript {α : Type} (path : Text) (refusal : Refusal) : Exec α := do
  let state ← get
  match state.dialect with
  | .plain => fail ("cannot open " ++ path ++ ": " ++ openingReason false refusal)
  | .rich =>
    writeError (state.name ++ ": " ++ path ++ ": " ++ refusal.message ++ "\n")
    setStatus (if refusal = .noEntry then 127 else 126)
    throw .failed

/-- The text of a script in a file. -/
def scriptIn (path : Text) : Exec Text := do
  match ← ask (.openFile path .input 0) with
  | .error refusal => failScript path refusal
  | .ok descriptor =>
    let (text, _) ← act (Act.readAll descriptor)
    let _ ← ask (.close descriptor)
    return text

/-- Finds the script that a shell is to run, and sets its arguments. -/
def findScript (arguments : List Text) : Exec Text := do
  let (script, operands) ← startOptions (arguments.length + 1) false arguments
  let rich := (← get).dialect == .rich
  if rich then
    modify fun state =>
      { state with options := withMember (script && !operands.isEmpty) 'c' state.options }
  match operands with
  | [] =>
    if script then
      if rich then
        writeError ((← get).name ++ ": -c: option requires an argument\n")
        setStatus 2
        throw .failed
      else fail "-c requires an argument"
    modify fun state =>
      { state with options := withMember true 's' state.options, origin := "main" }
    return (← act (Act.readAll 0)).1
  | first :: others =>
    if script then
      modify fun state =>
        { state with
          name := others.headD state.name
          arguments := others.tail
          input := "-c" }
      return first
    else if (← get).options.contains 's' then
      modify fun state => { state with arguments := operands, origin := "main" }
      return (← act (Act.readAll 0)).1
    else
      let text ← scriptIn first
      modify fun state =>
        { state with
          name := first, arguments := others, input := first, origin := first }.withCalls []
      return text

/-- The program that a shell is. -/
def shell (dialect : Dialect) (call : Call) : Task :=
  .ask .numbers fun reply =>
    let (number, parent) := match reply with
      | .ok numbers => numbers
      | .error _ => (0, 0)
    let steps : Exec Unit := do
      findPlace
      if dialect = .rich then
        match ← ask .clock with
        | .ok began => modify fun state => { state with began }
        | .error _ => pure ()
      match ← outcomeOf (findScript call.arguments) with
      | .ok text =>
        modify fun state => { state with line := 1 }
        runWhole text
      | .error _ => return
    steps (State.first dialect call.name call.environment number parent)
      fun _ state => .exit state.status

end TaskRunner.Shell
