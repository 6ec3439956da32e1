import TaskRunner.Kernel.Pipe
import TaskRunner.Kernel.Task
import TaskRunner.Signal

/-! Processes, and the files that they have open. -/

namespace TaskRunner

/-- What an open file leads to. -/
inductive Target where
  | node (n : Nat)
  | pipe (n : Nat)
deriving DecidableEq, Repr

/-- An open file, with the number of descriptors that share it.  Of a pipe it is the end for
reading, the end for writing, or both. -/
structure OpenFile where
  target : Target
  offset : Nat
  reads : Bool
  writes : Bool
  appends : Bool
  holders : Nat
deriving DecidableEq, Repr

/-- A descriptor: its number, the open file it stands for, and whether it is closed when another
program is started. -/
structure Descriptor where
  number : Nat
  file : Nat
  transient : Bool
deriving DecidableEq, Repr

/-- What a process waits for. -/
inductive Channel where
  | readable (pipe : Nat)
  | writable (pipe : Nat)
  | readerOf (pipe openings : Nat)
  | writerOf (pipe openings : Nat)
  | children
deriving DecidableEq, Repr

/-- Whether a process goes on, waits, sleeps to a time, or has ended. -/
inductive ProcessState where
  | ready
  | waiting (channel : Channel)
  | sleeping
  | ended (status : ExitStatus)
deriving DecidableEq, Repr

/-- A process.  Its clock tells up to what time it has run, or when its sleep is over.  It is halted
while a signal keeps it from going on.  `interrupted` says that a signal came in while it waited,
and `opening` holds the descriptor of a pipe whose other end it waits for. -/
structure Process where
  number : Nat
  parent : Nat
  task : Task
  clock : Nat
  state : ProcessState
  halted : Bool
  interrupted : Bool
  opening : Option Nat
  descriptors : List Descriptor
  directory : Nat
  mask : Nat
  responses : List (Nat × Response)
  noted : List Nat

namespace Process

/-- How often, in millionths of a second, the time that changes are stamped with goes on. -/
def stampSpan : Nat := 4000

/-- The time that a change is stamped with. -/
def stamp (process : Process) : Nat :=
  process.clock / stampSpan * stampSpan

/-- The descriptor with a number. -/
def descriptor? (process : Process) (number : Nat) : Option Descriptor :=
  process.descriptors.find? fun descriptor => descriptor.number == number

/-- The process with a descriptor in place of the one that had its number. -/
def withDescriptor (process : Process) (descriptor : Descriptor) : Process :=
  { process with
    descriptors := descriptor ::
      process.descriptors.filter fun other => other.number != descriptor.number }

/-- The process without a descriptor. -/
def without (process : Process) (number : Nat) : Process :=
  { process with
    descriptors := process.descriptors.filter fun descriptor => descriptor.number != number }

/-- The lowest number, from `least` on, that no descriptor has. -/
def freeNumber (process : Process) (least : Nat) : Nat :=
  let taken := process.descriptors.map Descriptor.number
  ((List.range (taken.length + 1)).map (· + least)).find? (fun n => !taken.contains n) |>.getD least

/-- What the process does about a signal. -/
def response (process : Process) (signal : Nat) : Response :=
  if signal = Signal.kill ∨ signal = Signal.halt then .usual
  else (process.responses.lookup signal).getD .usual

/-- The process can go on when its time comes. -/
def canRun (process : Process) : Bool :=
  !process.halted && match process.state with
    | .ready => true
    | .sleeping => true
    | _ => false

/-- The process has ended. -/
def hasEnded (process : Process) : Bool :=
  match process.state with
  | .ended _ => true
  | _ => false

end Process

end TaskRunner
