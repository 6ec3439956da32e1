import TaskRunner.Kernel.Task
import TaskRunner.Shell.Syntax
import TaskRunner.Signal

/-! The state of a running shell, and the steps that it takes.  A step asks the kernel, changes the
state, and leaves a value or an interrupt. -/

namespace TaskRunner.Shell

/-- What a variable stands for: a text, or the members of an array under numbers or under texts. -/
inductive Value where
  | text (text : Text)
  | members (members : List (Nat × Text))
  | table (entries : List (Text × Text))
deriving DecidableEq, Repr

/-- A variable.  Exported ones are passed on to programs, fixed ones keep their value, and reckoned
ones hold what an expression comes to. -/
structure Variable where
  value : Option Value
  exported : Bool
  fixed : Bool
  reckoned : Bool
deriving DecidableEq, Repr

/-- A job: the processes that carry out a command, each with the way it ended.  A job that was
waited for is forgotten when a new one begins. -/
structure Job where
  slot : Nat
  processes : List (Nat × Option ExitStatus)
  waited : Bool
deriving DecidableEq, Repr

/-- How far `getopts` has come: the number of the next argument, and how many letters of the one
before it have been looked at if some are left. -/
structure OptionPlace where
  next : Nat
  offset : Option Nat
deriving DecidableEq, Repr

/-- A function: where its definition stands and in which line, and what it does. -/
structure Function where
  origin : Text
  line : Nat
  body : Command

/-- A function or file that is being carried out: its name, where its text stands, and the line
where it was called. -/
structure Frame where
  name : String
  origin : Text
  line : Nat
deriving DecidableEq, Repr

/-- A program that was found: its name, the number of the directory along the search path where it
is, and whether the shell has moved to another directory since. -/
structure Found where
  name : Text
  index : Nat
  stale : Bool
deriving DecidableEq, Repr

/-- The state of a shell.  `locals` holds what the local variables of the functions that are being
carried out were before, the innermost first.  `noted` are the signals whose traps have not been
carried out yet, and `beforeTrap` is the status at the time when a trap began.  `substituted` is the
status of the last substituted command, and `owner` the command of the shell that is being carried
out.  `number` is that of the first process of the shell, and `output` what the command that is
being carried out has written so far, the last part first.  The descriptors in `streams` are open
for the command that is being carried out.  `calls` are the functions and files that are being
carried out, the innermost first; `origin` is where the text outside of them stands, and `input` is
what is being read. `stack` holds directories to go back to. The lines of the commands that are
being carried out are counted from `shift` lines further on in the richer shell. `process` is the
number of the process itself, which is one of `subshells` that were split off one from another;
`began` is when the shell did, and `seed` what its next random number comes from. -/
structure State where
  dialect : Dialect
  name : Text
  arguments : List Text
  store : List (String × Variable)
  locals : List (List (String × Option Variable))
  functions : List (String × Function)
  calls : List Frame
  origin : Text
  input : Text
  stack : List Text
  aliases : List (String × Text)
  options : List Char
  settings : List String
  traps : List (Nat × Text)
  noted : List Nat
  beforeTrap : Option Nat
  status : Nat
  statuses : List Nat
  substituted : Nat
  line : Nat
  shift : Int
  owner : Option Text
  loops : Nat
  jobs : List Job
  lastJob : Option Nat
  number : Nat
  process : Nat
  subshells : Nat
  began : Nat
  seed : Nat
  parent : Nat
  place : OptionPlace
  directory : Text
  output : List Text
  found : List Found
  tracing : Bool
  streams : List Nat

/-- Why a shell leaves a command before its end.  A function may be left with a status that is named
or with that of the last command. -/
inductive Interrupt where
  | exit
  | failed
  | stopped
  | leaveLoop (count : Nat)
  | nextTurn (count : Nat)
  | leaveFunction (named : Bool)
deriving DecidableEq, Repr

/-- A step of a shell: from the state, and what to do with the outcome and the state after it, to
what the process does. -/
def Exec (α : Type) : Type :=
  State → (Except Interrupt α → State → Task) → Task

namespace Exec

variable {α β : Type}

/-- The step that yields a value at once. -/
@[inline] protected def pure (value : α) : Exec α :=
  fun state next => next (.ok value) state

/-- A step followed by another, unless it leaves an interrupt. -/
@[inline] protected def bind (first : Exec α) (second : α → Exec β) : Exec β :=
  fun state next => first state fun outcome state =>
    match outcome with
    | .ok value => second value state next
    | .error interrupt => next (.error interrupt) state

instance : Monad Exec where
  pure := Exec.pure
  bind := Exec.bind

instance : MonadStateOf State Exec where
  get := fun state next => next (.ok state) state
  set state := fun _ next => next (.ok ()) state
  modifyGet change := fun state next =>
    match change state with
    | (value, state) => next (.ok value) state

instance : MonadExceptOf Interrupt Exec where
  throw interrupt := fun state next => next (.error interrupt) state
  tryCatch step handle := fun state next => step state fun outcome state =>
    match outcome with
    | .ok value => next (.ok value) state
    | .error interrupt => handle interrupt state next

/-- The outcome of a step, be it a value or an interrupt. -/
def outcomeOf (step : Exec α) : Exec (Except Interrupt α) :=
  fun state next => step state fun outcome state => next (.ok outcome) state

/-- An action that leaves the state alone. -/
@[inline] def act (action : Act α) : Exec α :=
  fun state next => action fun value => next (.ok value) state

/-- Asks the kernel. -/
@[inline] def ask (request : Request) : Exec (Except Refusal request.Reply) :=
  fun state next => .ask request fun reply => next (.ok reply) state

/-- Starts a process that takes other steps from here on, and yields its number. -/
def fork (child : Exec Unit) : Exec Nat :=
  fun state next =>
    .fork (child state fun _ state => .exit state.status) fun number => next (.ok number) state

/-- Ends the process at once. -/
def quit (status : Nat) : Exec α :=
  fun _ _ => .exit status

/-- Goes on after a step whatever became of it. -/
def ensuring (step : Exec α) (last : Exec Unit) : Exec α := do
  let outcome ← outcomeOf step
  last
  match outcome with
  | .ok value => return value
  | .error interrupt => throw interrupt

/-- Repeats a step that says how to go on, with a bound on the number of turns. -/
def repeatFrom (step : α → Exec (α ⊕ β)) (last : α → Exec β) : Nat → α → Exec β
  | 0, seed => last seed
  | turns + 1, seed => do
    match ← step seed with
    | .inl seed => repeatFrom step last turns seed
    | .inr value => return value

end Exec

open Exec

/-! ### Variables -/

namespace State

/-- The text of a value: an array stands for its member zero. -/
def textOf : Value → Option Text
  | .text text => some text
  | .members members => members.lookup 0
  | .table entries => entries.lookup ['0']

/-- A list of texts as the members of an array. -/
def listed (texts : List Text) : Value :=
  .members ((List.range texts.length).zip texts)

/-- The value of a variable that the richer shell keeps itself. -/
def keptValue? (state : State) (name : String) : Option Value :=
  match state.dialect with
  | .plain => none
  | .rich =>
    match name with
    | "PIPESTATUS" => some (listed (state.statuses.map fun status => (toString status).toList))
    | "DIRSTACK" => some (listed (state.directory :: state.stack))
    | "BASH_SUBSHELL" => some (.text (toString state.subshells).toList)
    | "BASHPID" => some (.text (toString state.process).toList)
    | _ => none

/-- The value of a variable, be it a text or an array. -/
def valueAt (state : State) (name : String) : Option Value :=
  state.keptValue? name <|> (state.store.lookup name).bind Variable.value

/-- The value of a variable. -/
def valueOf? (state : State) (name : String) : Option Text :=
  (state.valueAt name).bind textOf

/-- A variable without a value. -/
def blank : Variable := ⟨none, false, false, false⟩

/-- A list of entries with one of them changed, or with a new one at the end. -/
def changeEntry (name : String) (change : Variable → Variable) :
    List (String × Variable) → List (String × Variable)
  | [] => [(name, change blank)]
  | entry :: rest =>
    if entry.1 = name then (name, change entry.2) :: rest
    else entry :: changeEntry name change rest

/-- The programs that stay found after a variable was changed: none if it was the search path. -/
def foundAfter (state : State) (name : String) : List Found :=
  if name = "PATH" then [] else state.found

/-- The state with a variable changed. -/
def changeVariable (state : State) (name : String) (change : Variable → Variable) : State :=
  { state with store := changeEntry name change state.store, found := state.foundAfter name }

/-- The state with a variable in place of what had its name, or without it. -/
def putVariable (state : State) (name : String) (found : Option Variable) : State :=
  match found with
  | some found => state.changeVariable name fun _ => found
  | none =>
    { state with
      store := state.store.filter fun entry => entry.1 != name
      found := state.foundAfter name }

/-- The state with a variable set.  An array gets a new member zero. -/
def assign (state : State) (name : String) (value : Text) : State :=
  state.changeVariable name fun found =>
    let value : Value := match found.value with
      | some (.members members) => .members ((0, value) :: members.filter fun entry => entry.1 != 0)
      | some (.table entries) =>
        .table (entries.filter (fun entry => entry.1 != ['0']) ++ [(['0'], value)])
      | _ => .text value
    { found with value := some value, exported := found.exported || 'a' ∈ state.options }

/-- The state while functions and files are carried out, the innermost first.  The richer shell has
variables that tell of them. -/
def withCalls (state : State) (calls : List Frame) : State :=
  let state := { state with calls }
  match state.dialect with
  | .plain => state
  | .rich =>
    let bottom : List Frame :=
      if state.origin = "environment" then [] else [⟨"main", state.origin, 0⟩]
    let frames := calls ++ bottom
    let put (state : State) (name : String) (texts : List Text) : State :=
      state.putVariable name (some { blank with value := some (listed texts) })
    let named := if calls.isEmpty then state.putVariable "FUNCNAME" none
      else put state "FUNCNAME" (frames.map fun frame => ofString frame.name)
    let sourced := put named "BASH_SOURCE" (frames.map Frame.origin)
    put sourced "BASH_LINENO" (frames.map fun frame => (toString frame.line).toList)

/-- Where the text stands that is being carried out. -/
def place? (state : State) : Option Text :=
  state.calls.head?.map Frame.origin

/-- The state with a variable exported. -/
def «export» (state : State) (name : String) : State :=
  state.changeVariable name fun found => { found with exported := true }

/-- The state with a variable fixed. -/
def fix (state : State) (name : String) : State :=
  state.changeVariable name fun found => { found with fixed := true }

/-- The variable keeps its value. -/
def isFixed (state : State) (name : String) : Bool :=
  (state.store.lookup name).any Variable.fixed

/-- How many shelves variables are kept on. -/
def shelves : Nat := 39

/-- The shelf that what has a name is kept on. -/
def shelf (count : Nat) (name : Text) : Nat :=
  let codes := name.map Char.toNat
  (codes.headD 0 * 16 + codes.foldl (· + ·) 0) % 32768 % count

/-- The shelf that the richer shell keeps a variable on. -/
def richShelf (name : Text) : Nat :=
  let step (n : Nat) (c : Char) : Nat := (n * 16777619 % 4294967296) ^^^ c.toNat
  name.foldl step 2166136261 % 1024

/-- The variables passed on to programs, shelf by shelf. -/
def exports (state : State) : List (String × Text) :=
  let found := state.store.filterMap fun entry =>
    if entry.2.exported then
      match entry.2.value with
      | some (.text text) => some (entry.1, text)
      | _ => none
    else none
  match state.dialect with
  | .plain => found.mergeSort fun a b => shelf shelves a.1.toList ≤ shelf shelves b.1.toList
  | .rich => found.mergeSort fun a b => richShelf a.1.toList ≤ richShelf b.1.toList

/-- The environment that programs get. -/
def environment (state : State) : List Text :=
  state.exports.map fun entry => ofString entry.1 ++ '=' :: entry.2

/-- The characters that separate fields. -/
def separators (state : State) : Text :=
  (state.valueOf? "IFS").getD [' ', '\t', '\n']

/-- What stands before a complaint: the name of the shell, the line, and the command of the shell
that is being carried out. -/
def label (state : State) : Text :=
  let owner : Text := match state.owner with
    | some name => name ++ ": "
    | none => []
  match state.dialect with
  | .plain => state.name ++ ": " ++ toString state.line ++ ": " ++ owner
  | .rich => state.place?.getD state.name ++ ": line " ++ toString state.line ++ ": " ++ owner

end State

/-! ### Writing and complaining -/

/-- Writes a text to the standard error. -/
def writeError (text : Text) : Exec Unit := do
  let _ ← act (Act.writeAll 2 text)

/-- Adds a text to what the command that is being carried out writes. -/
def say (text : Text) : Exec Unit :=
  modify fun state => { state with output := text :: state.output }

/-- Goes to the line of a command. -/
def enterLine (line : Nat) : Exec Unit :=
  modify fun state => { state with line := (line + state.shift).toNat }

/-- Sets the status of the last command. -/
def setStatus (status : Nat) : Exec Unit :=
  modify fun state => { state with status }

/-- Writes what the command that is being carried out has written so far, and says why that is not
possible if it is not. -/
def flush : Exec (Option Refusal) := do
  let state ← get
  if state.output.isEmpty then return none
  set { state with output := [] }
  match ← act (Act.writeAll 1 state.output.reverse.flatten) with
  | .ok () => return none
  | .error refusal => return some refusal

/-- Writes the lines that are complete of what the command that is being carried out has written so
far. -/
def flushLines : Exec Unit := do
  let state ← get
  if ¬ state.output.isEmpty then
    let text := state.output.reverse.flatten
    let rest := (text.reverse.takeWhile (· != '\n')).reverse
    set { state with output := if rest.isEmpty then [] else [rest] }
    let lines := text.take (text.length - rest.length)
    if ¬ lines.isEmpty then
      let _ ← act (Act.writeAll 1 lines)

/-- Writes a complaint to the standard error, under the name of the shell. -/
def complain (message : Text) : Exec Unit := do
  if (← get).dialect = .rich then flushLines
  writeError ((← get).label ++ message ++ ['\n'])

/-- Gives up a command with a complaint. -/
def fail {α : Type} (message : Text) : Exec α := do
  complain message
  let _ ← flush
  setStatus (if (← get).dialect = .plain then 2 else 1)
  throw .failed

/-- Gives up a command with a complaint and a status. -/
def failWith {α : Type} (status : Nat) (message : Text) : Exec α := do
  complain message
  let _ ← flush
  setStatus status
  throw .failed

/-- Sets a variable, unless it is fixed. -/
def assignVariable (name : String) (value : Text) : Exec Unit := do
  let state ← get
  if state.isFixed name then
    if state.dialect = .plain then fail (name ++ ": is read only" : String)
    else
      set { state with owner := none }
      complain (name ++ ": readonly variable" : String)
      modify fun after => { after with owner := state.owner, status := 1 }
      throw .failed
  if state.dialect = .rich ∧ name = "FUNCNAME" then return
  set (state.assign name value)
  if name = "RANDOM" then modify fun state => { state with seed := digitsValue value }
  if name = "OPTIND" then
    modify fun state => { state with place := ⟨max 1 ((String.ofList value).toNat?.getD 1), none⟩ }

end TaskRunner.Shell
