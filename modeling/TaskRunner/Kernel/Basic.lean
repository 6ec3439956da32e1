import TaskRunner.Kernel.Process

/-! The kernel: a disk, the open files, the pipes and the processes.  This module holds what the
processes share and how a process ends. -/

namespace TaskRunner

/-- A kernel.  The processes stand in the order of their numbers; `next` is the number of the next
one. -/
structure Kernel where
  disk : Disk
  files : Array OpenFile
  pipes : Array Pipe
  processes : List Process
  next : Nat

/-- What comes of a request: an answer, an answer and signals to be sent, a wait, a sleep, or
another task in place of the one that asked. -/
inductive Result (α : Type) where
  | reply (answer : Except Refusal α)
  | sends (signal : Nat) (targets : List Nat) (answer : Except Refusal α)
  | waits (channel : Channel)
  | sleeps
  | becomes (task : Task)

namespace Kernel

/-- The number of the process that stands for whoever started the others. -/
def runner : Nat := 1

/-- The kernel with a disk and nothing else. -/
def ofDisk (disk : Disk) : Kernel := ⟨disk, #[], #[], [], 4242⟩

/-- The process with a number. -/
def process? (kernel : Kernel) (number : Nat) : Option Process :=
  kernel.processes.find? fun process => process.number == number

/-- The kernel with a process in place of the one that had its number. -/
def put (kernel : Kernel) (process : Process) : Kernel :=
  { kernel with
    processes := kernel.processes.map fun other =>
      if other.number = process.number then process else other }

/-- The kernel without a process. -/
def drop (kernel : Kernel) (number : Nat) : Kernel :=
  { kernel with processes := kernel.processes.filter fun process => process.number != number }

/-- The kernel with a pipe changed. -/
def modifyPipe (kernel : Kernel) (pipe : Nat) (change : Pipe → Pipe) : Kernel :=
  { kernel with pipes := kernel.pipes.modify pipe change }

/-- The kernel with an open file changed. -/
def modifyFile (kernel : Kernel) (file : Nat) (change : OpenFile → OpenFile) : Kernel :=
  { kernel with files := kernel.files.modify file change }

/-- The process, which goes on at a time. -/
def wakeAt (time : Nat) (process : Process) : Process :=
  { process with state := .ready, clock := max process.clock time }

/-- The kernel after what some processes wait for has come about. -/
def wake (kernel : Kernel) (time : Nat) (meant : Channel → Bool) : Kernel :=
  { kernel with
    processes := kernel.processes.map fun process =>
      match process.state with
      | .waiting channel => if meant channel then wakeAt time process else process
      | _ => process }

/-- The kernel after something was written to a pipe, or nobody can write to it any more. -/
def wakeReaders (kernel : Kernel) (time pipe : Nat) : Kernel :=
  kernel.wake time (· == .readable pipe)

/-- The kernel after something was read from a pipe, or nobody can read from it any more. -/
def wakeWriters (kernel : Kernel) (time pipe : Nat) : Kernel :=
  kernel.wake time (· == .writable pipe)

/-- The kernel after a descriptor of an open file was closed. -/
def release (kernel : Kernel) (time file : Nat) : Kernel :=
  match kernel.files[file]? with
  | none => kernel
  | some found =>
    let kernel := kernel.modifyFile file fun file => { file with holders := file.holders - 1 }
    match found.target with
    | .node _ => kernel
    | .pipe pipe =>
      if 1 < found.holders then kernel
      else
        let kernel := kernel.modifyPipe pipe fun pipe => pipe.close found.reads found.writes
        match kernel.pipes[pipe]? with
        | none => kernel
        | some after =>
          let kernel := if after.readers = 0 then kernel.wakeWriters time pipe else kernel
          if after.writers = 0 then kernel.wakeReaders time pipe else kernel

/-- The kernel after a process began to share an open file. -/
def share (kernel : Kernel) (file : Nat) : Kernel :=
  kernel.modifyFile file fun file => { file with holders := file.holders + 1 }

/-- The kernel with one more open file, and its number. -/
def addFile (kernel : Kernel) (target : Target) (mode : OpenMode) : Kernel × Nat :=
  ({ kernel with
      files := kernel.files.push ⟨target, 0, mode.reads, mode.writes, mode.appends, 1⟩ },
    kernel.files.size)

/-- The kernel with one more pipe, and its number. -/
def addPipe (kernel : Kernel) (pipe : Pipe) : Kernel × Nat :=
  ({ kernel with pipes := kernel.pipes.push pipe }, kernel.pipes.size)

/-- The process with a descriptor for an open file, and the number of the descriptor. -/
def attach (process : Process) (file : Nat) : Process × Nat :=
  let number := process.freeNumber 0
  (process.withDescriptor ⟨number, file, false⟩, number)

/-- Sends a signal to a process that has not ended and that the signal does not end. -/
def notify (kernel : Kernel) (time signal : Nat) (process : Process) : Kernel :=
  match process.response signal with
  | .notes =>
    let noted := if signal ∈ process.noted then process.noted else process.noted ++ [signal]
    let process := { process with noted }
    match process.state with
    | .ready => kernel.put process
    | .ended _ => kernel
    | .waiting channel =>
      if channel = .children ∧ signal = Signal.childEnded then kernel.put process
      else kernel.put (wakeAt time { process with interrupted := true })
    | .sleeping => kernel.put { process with state := .ready, interrupted := true, clock := time }
  | _ => kernel

/-- The kernel after a process ended: what it had open is closed, its children are nobody's, and its
parent hears of it. -/
def finish (kernel : Kernel) (time : Nat) (process : Process) (status : ExitStatus) : Kernel :=
  let kernel := process.descriptors.foldl
    (fun kernel descriptor => kernel.release time descriptor.file) kernel
  let orphaned := kernel.processes.filterMap fun other =>
    if other.parent ≠ process.number then some other
    else if other.hasEnded then none
    else some { other with parent := 0 }
  let kernel := { kernel with processes := orphaned }
  if process.parent = 0 then kernel.drop process.number
  else
    let kernel := kernel.put
      { process with state := .ended status, clock := time, descriptors := [], task := .exit 0 }
    match kernel.process? process.parent with
    | none => kernel
    | some parent =>
      let kernel := kernel.notify time Signal.childEnded parent
      match kernel.process? process.parent with
      | none => kernel
      | some parent =>
        if parent.state = .waiting .children then kernel.put (wakeAt time parent) else kernel

/-- Sends a signal to a process. -/
def send (kernel : Kernel) (time signal target : Nat) : Kernel :=
  match kernel.process? target with
  | none => kernel
  | some process =>
    if process.hasEnded then kernel
    else
      let process := if signal = Signal.resume then { process with halted := false } else process
      let kernel := kernel.put process
      match process.response signal, Signal.effect signal with
      | .usual, .ends => kernel.finish time process (.signal signal)
      | .usual, .halts => kernel.put { process with halted := true }
      | _, _ => kernel.notify time signal process

end Kernel

end TaskRunner
