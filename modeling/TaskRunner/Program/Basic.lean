import TaskRunner.Kernel.Task
import TaskRunner.Text.Label
import TaskRunner.Text.Layout

/-! Programs under way.  What a program writes is gathered and written in blocks; what it complains
about goes out at once, after what was gathered before. -/

namespace TaskRunner

/-- What a program has to keep in mind: its name, the gathered output with the last part first, the
size of that, why output was refused, and the status that it is going to end with. -/
structure Desk where
  name : Text
  output : List Text
  size : Nat
  refused : Option Refusal
  status : Nat

/-- A step of a program. -/
def Tool (α : Type) : Type :=
  Desk → (α → Desk → Task) → Task

namespace Tool

variable {α β : Type}

/-- The step that yields a value at once. -/
@[inline] protected def pure (value : α) : Tool α :=
  fun desk next => next value desk

/-- A step followed by another. -/
@[inline] protected def bind (first : Tool α) (second : α → Tool β) : Tool β :=
  fun desk next => first desk fun value desk => second value desk next

instance : Monad Tool where
  pure := Tool.pure
  bind := Tool.bind

instance : MonadStateOf Desk Tool where
  get := fun desk next => next desk desk
  set desk := fun _ next => next () desk
  modifyGet change := fun desk next =>
    match change desk with
    | (value, desk) => next value desk

/-- An action that leaves the output alone. -/
@[inline] def act (action : Act α) : Tool α :=
  fun desk next => action fun value => next value desk

/-- Asks the kernel. -/
@[inline] def ask (request : Request) : Tool (Except Refusal request.Reply) :=
  fun desk next => .ask request fun reply => next reply desk

/-- Repeats a step that says how to go on, with a bound on the number of turns. -/
def repeatFrom (step : α → Tool (α ⊕ β)) (last : α → Tool β) : Nat → α → Tool β
  | 0, seed => last seed
  | turns + 1, seed => do
    match ← step seed with
    | .inl seed => repeatFrom step last turns seed
    | .inr value => return value

/-- Repeats a step that says how to go on. -/
def loop (step : α → Tool (α ⊕ β)) (last : α → Tool β) (seed : α) : Tool β :=
  repeatFrom step last Act.manyTurns seed

/-- Does something for each member of a list. -/
def each (action : α → Tool Unit) : List α → Tool Unit
  | [] => pure ()
  | a :: rest => Tool.bind (action a) fun _ => each action rest

/-- Carries a state through the members of a list. -/
def fold {σ : Type} (step : σ → α → Tool σ) : σ → List α → Tool σ
  | state, [] => pure state
  | state, a :: rest => Tool.bind (step state a) fun state => fold step state rest

/-- How much output is gathered. -/
def outputBlock : Nat := 4096

/-- Writes what was gathered. -/
def flush : Tool Unit := do
  let desk ← get
  if desk.output.isEmpty then return
  set { desk with output := [], size := 0 }
  match ← act (Act.writeAll 1 desk.output.reverse.flatten) with
  | .ok () => return
  | .error refusal => modify fun desk => { desk with refused := some refusal }

/-- Writes a text to the standard output, sooner or later. -/
def say (text : Text) : Tool Unit := do
  modify fun desk => { desk with output := text :: desk.output, size := desk.size + text.length }
  if outputBlock ≤ (← get).size then flush

/-- Writes a line to the standard output, sooner or later. -/
def sayLine (text : Text) : Tool Unit :=
  say (text ++ ['\n'])

/-- Writes a text to the standard error. -/
def writeError (text : Text) : Tool Unit := do
  let _ ← act (Act.writeAll 2 text)

/-- Complains, under the name of the program. -/
def warn (message : Text) : Tool Unit := do
  flush
  writeError ((← get).name ++ ':' :: ' ' :: message ++ ['\n'])

/-- Sets the status that the program ends with. -/
def setStatus (status : Nat) : Tool Unit :=
  modify fun desk => { desk with status }

/-- Complains, and sets the status that the program ends with. -/
def complain (status : Nat) (message : Text) : Tool Unit := do
  warn message
  setStatus status

/-- Ends the program.  If output was refused, that counts as a failure. -/
def finish (failure : Nat) : Tool α := do
  flush
  let desk ← get
  match desk.refused with
  | none => act (Act.exit desk.status)
  | some refusal =>
    writeError (desk.name ++ ": write error: " ++ refusal.message ++ "\n")
    act (Act.exit failure)

/-- Ends the program with a complaint. -/
def fail (status : Nat) (message : Text) : Tool α := do
  warn message
  setStatus status
  finish status

/-- Ends the program with a complaint about how it was called. -/
def misuse (status : Nat) (message : Text) : Tool α := do
  warn message
  let name := (← get).name
  writeError ("Try '" ++ name ++ " --help' for more information.\n")
  setStatus status
  finish status

/-- The task of a program: the status is the one of a failure to write. -/
def task (failure : Nat) (call : Call) (tool : Tool Unit) : Task :=
  tool ⟨call.name, [], 0, none, 0⟩ fun _ desk =>
    (finish failure : Tool Unit) desk fun _ _ => .exit 0

end Tool

end TaskRunner
