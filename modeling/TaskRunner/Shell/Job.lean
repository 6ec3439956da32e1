import TaskRunner.Shell.State

/-! The processes of a shell: starting them, waiting for them, and hearing of signals. -/

namespace TaskRunner.Shell

open Exec

namespace Job

/-- The job with the way noted in which a process ended. -/
def note (job : Job) (process : Nat) (status : ExitStatus) : Job :=
  { job with
    processes := job.processes.map fun entry =>
      if entry.1 = process then (process, some status) else entry }

/-- All processes of the job have ended. -/
def isDone (job : Job) : Bool :=
  job.processes.all fun entry => entry.2.isSome

/-- The process belongs to the job. -/
def has (job : Job) (process : Nat) : Bool :=
  job.processes.any fun entry => entry.1 == process

end Job

/-- The status that the end of a process amounts to. -/
def statusNumber : ExitStatus → Nat
  | .code n => n
  | .signal n => 128 + n

/-- The statuses of the processes of a job. -/
def Job.statuses (job : Job) : List Nat :=
  job.processes.map fun entry => (entry.2.map statusNumber).getD 0

/-- The status of a job: that of its last process. -/
def Job.status (job : Job) : Nat :=
  job.statuses.getLastD 0

/-- The first slot, from one on, that is free or holds a job that was waited for. -/
def freeSlot (jobs : List Job) : Nat :=
  let isFree (slot : Nat) : Bool :=
    jobs.all fun job => job.slot != slot || (job.waited && job.isDone)
  ((List.range (jobs.length + 1)).map (· + 1)).find? isFree |>.getD 1

/-! ### Signals -/

/-- Takes note of the signals that came in. -/
def poll : Exec Unit := do
  match ← ask .pause with
  | .ok [] => return
  | .ok signals => modify fun state => { state with noted := state.noted ++ signals }
  | .error _ => return

/-- The signals that a process has when it is started in the background are ignored by it. -/
def backgroundSignals : List Nat := [2, 3]

/-- Forgets the scripts for signals, as a process does that was split off. -/
def clearTraps : Exec Unit := do
  let state ← get
  for (signal, action) in state.traps do
    if action ≠ [] ∧ signal ≠ 0 then
      let _ ← ask (.respond signal .usual)
  set { state with traps := state.traps.filter fun entry => entry.2.isEmpty, noted := [] }

/-! ### Starting -/

/-- Makes the standard input empty. -/
def readNothing : Exec Unit := do
  let _ ← ask (.close 0)
  let _ ← ask (.openFile "/dev/null" .input 0)

/-- Starts a process that goes on as a part of the shell.  One in the background ignores what is
typed at a terminal, and the first one of its job reads nothing. -/
def startChild (background first : Bool) (body : Exec Unit) : Exec Nat :=
  fork do
    clearTraps
    modify fun state => { state with jobs := [], output := [], subshells := state.subshells + 1 }
    if (← get).dialect = .rich then
      match ← ask .numbers with
      | .ok (process, _) => modify fun state => { state with process }
      | .error _ => pure ()
    if background then
      for signal in backgroundSignals do
        let _ ← ask (.respond signal .ignores)
      if first then readNothing
    body

/-- Adds a job, and yields its slot. -/
def addJob (processes : List Nat) : Exec Nat := do
  let state ← get
  let slot := freeSlot state.jobs
  let job : Job := ⟨slot, processes.map fun process => (process, none), false⟩
  set { state with jobs := job :: state.jobs.filter fun job => job.slot != slot }
  return slot

/-! ### Waiting -/

/-- Notes the way in which a process ended. -/
def noteEnd (process : Nat) (status : ExitStatus) : Exec Unit :=
  modify fun state => { state with jobs := state.jobs.map fun job => job.note process status }

/-- Tells of a process that a signal ended, unless that was to be expected. -/
def announce (status : ExitStatus) : Exec Unit := do
  match status with
  | .signal signal =>
    if signal ≠ Signal.interrupt ∧ signal ≠ Signal.brokenPipe ∧ (← get).dialect = .plain then
      writeError (Signal.description signal ++ "\n" : String)
  | .code _ => return

/-- The job in a slot. -/
def jobAt? (slot : Nat) : Exec (Option Job) := do
  return (← get).jobs.find? fun job => job.slot == slot

/-- Notes what the kernel says of processes that have ended already. -/
def collect : Exec Unit := do
  let step (_ : Unit) : Exec (Unit ⊕ Unit) := do
    match ← ask (.await none false) with
    | .ok (process, status) =>
      noteEnd process status
      return .inl ()
    | .error _ => return .inr ()
  repeatFrom step pure Act.manyTurns ()

/-- Notes the end of a process that belongs to a job or to another one. -/
def noteFor (slot process : Nat) (status : ExitStatus) : Exec Unit := do
  let job ← jobAt? slot
  noteEnd process status
  if job.any (·.has process) then announce status

/-- Waits until all processes of a job have ended.  A signal does not keep it from that. -/
def awaitJob (slot : Nat) : Exec Unit := do
  let step (_ : Unit) : Exec (Unit ⊕ Unit) := do
    match ← jobAt? slot with
    | none => return .inr ()
    | some job =>
      if job.isDone then return .inr ()
      else
        match ← ask (.await none true) with
        | .ok (process, status) =>
          noteFor slot process status
          return .inl ()
        | .error .interrupted =>
          poll
          return .inl ()
        | .error _ => return .inr ()
  repeatFrom step pure Act.manyTurns ()
  collect

/-- Waits for the processes of a command, and yields their statuses. -/
def runJob (processes : List Nat) : Exec (List Nat) := do
  let slot ← addJob processes
  awaitJob slot
  let job ← jobAt? slot
  modify fun state => { state with jobs := state.jobs.filter fun job => job.slot != slot }
  return (job.map Job.statuses).getD []

end TaskRunner.Shell
