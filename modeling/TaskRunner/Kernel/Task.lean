import TaskRunner.Kernel.Disk

/-! Tasks: what a process does.  A task ends with a status, or asks the kernel for something and
goes on as the answer decides, or splits in two.  An action is a task with a hole at its end, so
that actions are put one after the other by filling the hole. -/

namespace TaskRunner

/-- How a file is to be opened. -/
structure OpenMode where
  reads : Bool
  writes : Bool
  creates : Bool
  empties : Bool
  appends : Bool
  exclusive : Bool
deriving DecidableEq, Repr

namespace OpenMode

/-- A file that is there is read from its beginning. -/
def input : OpenMode := ⟨true, false, false, false, false, false⟩

/-- A file is made or emptied, and then written. -/
def output : OpenMode := ⟨false, true, true, true, false, false⟩

/-- A file is made if need be, and written at its end. -/
def addition : OpenMode := ⟨false, true, true, false, true, false⟩

/-- A file is made if need be, and read and written. -/
def both : OpenMode := ⟨true, true, true, false, false, false⟩

/-- A file that is not there yet is made and written. -/
def fresh : OpenMode := ⟨false, true, true, false, false, true⟩

end OpenMode

/-- What a node is to those who look at it. -/
inductive FileKind where
  | directory
  | regular
  | link
  | fifo
  | device
deriving DecidableEq, Repr

/-- What is known of a node. -/
structure FileInfo where
  number : Nat
  kind : FileKind
  permissions : Nat
  size : Nat
  modified : Nat
  names : Nat
deriving DecidableEq, Repr

/-- What a process does about a signal. -/
inductive Response where
  | usual
  | ignores
  | notes
deriving DecidableEq, Repr

/-- What a task can ask the kernel for. -/
inductive Request where
  | pause
  | sleep (span : Nat)
  | clock
  | numbers
  | read (descriptor count : Nat)
  | readLine (descriptor : Nat)
  | write (descriptor : Nat) (text : Text)
  | openFile (path : Text) (mode : OpenMode) (permissions : Nat)
  | openText (text : Text)
  | close (descriptor : Nat)
  | copy (descriptor target : Nat)
  | copyAbove (descriptor least : Nat)
  | pipe
  | seek (descriptor offset : Nat)
  | offset (descriptor : Nat)
  | inspect (path : Text) (follow : Bool)
  | inspectOpen (descriptor : Nat)
  | list (path : Text)
  | makeDirectory (path : Text) (permissions : Nat)
  | makeFifo (path : Text) (permissions : Nat)
  | makeLink (target path : Text)
  | makeName (old new : Text)
  | readLink (path : Text)
  | removeFile (path : Text)
  | removeDirectory (path : Text)
  | rename (old new : Text)
  | setPermissions (path : Text) (permissions : Nat)
  | setTime (path : Text) (time : Option Nat)
  | setDirectory (path : Text)
  | directory
  | setMask (mask : Nat)
  | mask
  | execute (path : Text) (arguments environment : List Text)
  | await (child : Option Nat) (blocks : Bool)
  | signal (target signal : Nat)
  | respond (signal : Nat) (response : Response)
  | responseTo (signal : Nat)

/-- What the kernel answers with. -/
@[reducible] def Request.Reply : Request → Type
  | pause => List Nat
  | clock => Nat
  | numbers => Nat × Nat
  | read _ _ => Text
  | readLine _ => Text
  | write _ _ => Nat
  | openFile _ _ _ => Nat
  | openText _ => Nat
  | copyAbove _ _ => Nat
  | pipe => Nat × Nat
  | offset _ => Nat
  | inspect _ _ => FileInfo
  | inspectOpen _ => FileInfo
  | list _ => List Text
  | readLink _ => Text
  | directory => Text
  | mask => Nat
  | await _ _ => Nat × ExitStatus
  | responseTo _ => Response
  | _ => Unit

/-- What a process does. -/
inductive Task where
  | exit (status : Nat)
  | ask (request : Request) (next : Except Refusal request.Reply → Task)
  | fork (child : Task) (next : Nat → Task)

/-- A task with a hole at its end, which is filled with what to do with a value. -/
def Act (α : Type) : Type :=
  (α → Task) → Task

namespace Act

variable {α β : Type}

/-- The action that yields a value at once. -/
@[inline] protected def pure (value : α) : Act α :=
  fun next => next value

/-- An action followed by another. -/
@[inline] protected def bind (first : Act α) (second : α → Act β) : Act β :=
  fun next => first fun value => second value next

instance : Monad Act where
  pure := Act.pure
  bind := Act.bind

/-- Asks the kernel. -/
@[inline] def ask (request : Request) : Act (Except Refusal request.Reply) :=
  fun next => .ask request next

/-- Ends the process. -/
def exit (status : Nat) : Act α :=
  fun _ => .exit status

/-- Starts a process that does something else, and yields its number. -/
def fork (child : Task) : Act Nat :=
  fun next => .fork child next

/-- Repeats an action that says how to go on, with a bound on the number of turns. -/
def repeatFrom (step : α → Act (α ⊕ β)) (last : α → Act β) : Nat → α → Act β
  | 0, state => last state
  | turns + 1, state => do
    match ← step state with
    | .inl state => repeatFrom step last turns state
    | .inr value => return value

/-- More turns than any process takes. -/
def manyTurns : Nat := 1000000000000

/-- Writes a whole text, as far as the kernel takes it.  A signal does not keep it from that. -/
def writeAll (descriptor : Nat) (text : Text) : Act (Except Refusal Unit) :=
  let step (text : Text) : Act (Text ⊕ Except Refusal Unit) := do
    if text = [] then return .inr (.ok ())
    match ← ask (.write descriptor text) with
    | .ok count => return .inl (text.drop count)
    | .error .interrupted => return .inl text
    | .error refusal => return .inr (.error refusal)
  repeatFrom step (fun _ => Act.pure (.ok ())) manyTurns text

/-- How much is read at once. -/
def blockSize : Nat := 65536

/-- Reads all that is left, and says how the reading ended.  A signal does not end it. -/
def readAll (descriptor : Nat) : Act (Text × Except Refusal Unit) :=
  let step (blocks : List Text) : Act (List Text ⊕ (Text × Except Refusal Unit)) := do
    match ← ask (.read descriptor blockSize) with
    | .ok [] => return .inr (blocks.reverse.flatten, .ok ())
    | .ok block => return .inl (block :: blocks)
    | .error .interrupted => return .inl blocks
    | .error refusal => return .inr (blocks.reverse.flatten, .error refusal)
  repeatFrom step (fun blocks => pure (blocks.reverse.flatten, .ok ())) manyTurns []

/-- Reads a line with its line feed.  The last one may lack it, and at the end there is none. -/
def readLine (descriptor : Nat) : Act (Text × Except Refusal Unit) :=
  let step (parts : List Text) : Act (List Text ⊕ (Text × Except Refusal Unit)) := do
    match ← ask (.readLine descriptor) with
    | .ok [] => return .inr (parts.reverse.flatten, .ok ())
    | .ok part =>
      if part.getLast? = some '\n' then return .inr ((part :: parts).reverse.flatten, .ok ())
      else return .inl (part :: parts)
    | .error refusal => return .inr (parts.reverse.flatten, .error refusal)
  repeatFrom step (fun parts => pure (parts.reverse.flatten, .ok ())) manyTurns []

end Act

/-- What a program is called with: its own name, the other arguments, and the environment, whose
entries are names and values with an equals sign between. -/
structure Call where
  name : Text
  arguments : List Text
  environment : List Text

/-- The programs that can be started, by name. -/
abbrev Programs := String → Call → Task

end TaskRunner
