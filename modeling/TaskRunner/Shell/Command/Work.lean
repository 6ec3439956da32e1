import TaskRunner.Shell.Command.Option
import TaskRunner.Shell.Job

/-! The commands of the shell about its processes and about signals. -/

namespace TaskRunner.Shell

open Exec

/-! ### Jobs -/

/-- The job that a text names: by its number, or as the newest or the one before.  There is a
complaint with some status if there is none. -/
def knownJob (status : Nat) (argument : Text) : Exec Job := do
  let state ← get
  let missing {α : Type} : Exec α :=
    match state.dialect with
    | .plain => fail ("No such job: " ++ argument)
    | .rich => failWith status (argument ++ ": no such job")
  let found (job : Option Job) (complaint : String) : Exec Job :=
    match job with
    | some job => return job
    | none => if state.dialect = .plain then fail complaint else missing
  match argument with
  | ['%'] => found state.jobs.head? "No current job"
  | ['%', '+'] => found state.jobs.head? "No current job"
  | ['%', '%'] => found state.jobs.head? "No current job"
  | ['%', '-'] => found (state.jobs[1]?) "No previous job"
  | '%' :: digits =>
    let found :=
      if digits.all Char.isDigit then state.jobs.find? (·.slot == digitsValue digits) else none
    match found with
    | some job => return job
    | none => missing
  | _ => missing

/-- The job that an argument names. -/
def namedJob (argument : Text) : Exec Job := knownJob 1 argument

/-- What is said of the way in which a process ended. -/
def endText : ExitStatus → Text
  | .code 0 => "Done"
  | .code n => "Done(" ++ decimal n ++ [')']
  | .signal n => Signal.description n

/-- Shows a job.  One that is done is forgotten then. -/
def sayJob (mode : Char) (job : Job) : Exec Unit := do
  let state ← get
  let first := (job.processes.head?.map Prod.fst).getD 0
  if mode = 'p' then say (decimal first ++ ['\n'])
  else
    let sign :=
      if (state.jobs.head?.map Job.slot) = some job.slot then '+'
      else if (state.jobs[1]?.map Job.slot) = some job.slot then '-'
      else ' '
    let front := '[' :: decimal job.slot ++ "] " ++ [sign, ' ']
    let last := job.processes.getLast?.bind Prod.snd
    let about := match job.isDone, last with
      | true, some status => endText status
      | _, _ => "Running"
    let number : Text := if mode = 'l' then decimal first ++ [' '] else []
    let line := front ++ number ++ about
    say (line ++ List.replicate (max 1 (33 - line.length)) ' ')
    for process in job.processes.tail do
      if mode = 'l' then
        let line := List.replicate front.length ' ' ++ decimal process.1
        say (" |\n" ++ line ++ List.replicate (max 1 (33 - line.length)) ' ')
      else say " | "
    say "\n"
    if job.isDone then
      modify fun state => { state with jobs := state.jobs.filter (·.slot != job.slot) }

/-- Shows jobs. -/
def sayJobs : Own := fun arguments => do
  let (letters, names) ← leadingLetters "lp" arguments
  let mode := letters.getLastD ' '
  if names.isEmpty then
    collect
    for job in (← get).jobs do
      sayJob mode job
  else
    for name in names do
      sayJob mode (← namedJob name)
  return 0

/-- Puts a job in front or behind, which a shell without a terminal cannot do. -/
def moveJob : Own := fun arguments => do
  let names ← withoutOptions arguments
  let state ← get
  if state.dialect = .rich then failWith 1 "no job control"
  match names with
  | [] =>
    let job ← namedJob "%"
    fail ("job %" ++ decimal job.slot ++ " not created under job control")
  | name :: _ =>
    let _ ← namedJob name
    fail ("job " ++ name ++ " not created under job control")

/-- The last of the signals that were noted, as a status. -/
def State.interruption (state : State) : Nat :=
  128 + state.noted.getLastD 0

/-- Waits until something holds of the jobs, and says whether no signal came in before. -/
def awaitUntil (holds : List Job → Bool) (meant : Option Nat) : Exec Bool := do
  let step (_ : Unit) : Exec (Unit ⊕ Bool) := do
    poll
    if ¬ (← get).noted.isEmpty then return .inr false
    else if holds (← get).jobs then return .inr true
    else
      match ← ask (.await none true) with
      | .ok (process, status) =>
        match meant with
        | some slot => noteFor slot process status
        | none => noteEnd process status
        return .inl ()
      | .error .interrupted => return .inl ()
      | .error _ => return .inr true
  repeatFrom step (fun _ => pure true) Act.manyTurns ()

/-- Waits for a job, and yields its status and whether no signal came in before. -/
def awaitNamed (job : Job) : Exec (Nat × Bool) := do
  let slot := job.slot
  let done (jobs : List Job) : Bool := jobs.all fun job => job.slot != slot || job.isDone
  if ¬ (← awaitUntil done (some slot)) then return ((← get).interruption, false)
  modify fun state =>
    { state with
      jobs := state.jobs.map fun job =>
        if job.slot = slot then { job with waited := true } else job }
  return (((← jobAt? slot).map Job.status).getD 0, true)

/-- Waits for jobs one after the other, and yields the last status. -/
def awaitEach (status : Nat) : List Text → Exec Nat
  | [] => return status
  | name :: rest => do
    let job ← match name with
      | '%' :: _ => do pure (some (← knownJob 127 name))
      | name => do
        if (← get).dialect = .rich ∧ ¬ name.all Char.isDigit then
          failWith 1 ("\x60" ++ name ++ "': not a pid or valid job spec")
        let process ← countArgument name
        pure ((← get).jobs.find? fun job => (job.processes.getLast?.map Prod.fst) == some process)
    match job with
    | none =>
      if (← get).dialect = .rich then
        complain ("pid " ++ name ++ " is not a child of this shell")
        awaitEach 127 rest
      else awaitEach status rest
    | some job =>
      let (status, undisturbed) ← awaitNamed job
      if undisturbed then awaitEach status rest else return status

/-- Waits for jobs, or for all of them. -/
def awaitJobs : Own := fun arguments => do
  let rich := (← get).dialect == .rich
  let (letters, names) ← leadingLetters (if rich then "fn" else "") arguments
  if letters.contains 'n' then
    let running := (← get).jobs.filter fun job => !job.isDone
    let some_ (jobs : List Job) : Bool :=
      running.any fun before => jobs.any fun job => job.slot == before.slot && job.isDone
    if running.isEmpty then return 127
    let _ ← awaitUntil some_ none
    let ended := (← get).jobs.find? fun job =>
      job.isDone && running.any fun before => before.slot == job.slot
    match ended with
    | some job => return (← awaitNamed job).1
    | none => return 127
  else if names.isEmpty then
    if ← awaitUntil (fun jobs => jobs.all Job.isDone) none then
      modify fun state =>
        { state with jobs := state.jobs.map fun job => { job with waited := true } }
      return 0
    else
      modify fun state =>
        { state with jobs := state.jobs.map fun job => { job with waited := job.isDone } }
      return (← get).interruption
  else awaitEach 127 names

/-! ### Signals -/

/-- The name of a signal. -/
def signalName (dialect : Dialect) (signal : Nat) : String :=
  if signal = 0 then "EXIT"
  else
    match Signal.name? signal with
    | some name => if signal = 16 ∧ dialect = .plain then "16" else name
    | none =>
      let first := Signal.firstUnnamed
      if signal < first then toString signal
      else if signal = first then "RTMIN"
      else if signal ≤ first + 15 then "RTMIN+" ++ toString (signal - first)
      else if signal = Signal.last then "RTMAX"
      else "RTMAX-" ++ toString (Signal.last - signal)

/-- A signal as the richer shell shows it. -/
def shownSignal (dialect : Dialect) (signal : Nat) : String :=
  match dialect with
  | .plain => signalName dialect signal
  | .rich => if signal = 0 then "EXIT" else "SIG" ++ signalName dialect signal

/-- The signal given by number or name, from some signal on. -/
def signal? (dialect : Dialect) (least : Nat) (text : Text) : Option Nat :=
  if text ≠ [] ∧ text.all Char.isDigit then
    if digitsValue text ≤ Signal.last then some (digitsValue text) else none
  else
    let upper := String.ofList (text.map Char.toUpper)
    let signals := (List.range (Signal.last + 1)).filter (least ≤ ·)
    signals.find? fun signal =>
      upper == signalName dialect signal ||
        (dialect == .rich && upper == "SIG" ++ signalName dialect signal)

/-- All signals with their numbers, five in a line. -/
def signalTable : Text :=
  let entry (n : Nat) : Text :=
    padLeft 2 (decimal n) ++ ") " ++ ofString (shownSignal .rich n) ++
      (if n % 5 = 0 ∨ n = Signal.last then ['\n'] else ['\t'])
  let signals := (List.range Signal.last).map (· + 1)
  (signals.filter fun n => n != 32 && n != 33).zipIdx.flatMap fun (n, place) =>
    let text := entry n
    text.dropLast ++ (if place % 5 = 4 ∨ n = Signal.last then ['\n'] else ['\t'])

/-- Names the signal with a number, or the one that ended a process with a status, or all of them.
-/
def nameSignals (arguments : List Text) : Exec Nat := do
  let dialect := (← get).dialect
  match arguments with
  | [] =>
    match dialect with
    | .plain =>
      say "0\n"
      for signal in (List.range Signal.last).map (· + 1) do
        say (signalName dialect signal ++ "\n" : String)
    | .rich => say signalTable
    return 0
  | argument :: _ =>
    if dialect = .rich ∧ ¬ argument.all Char.isDigit then
      match signal? dialect 0 argument with
      | some signal =>
        say (decimal signal ++ ['\n'])
        return 0
      | none => failWith 1 (argument ++ ": invalid signal specification")
    else
      let n ← countArgument argument
      let n := if 128 < n then n - 128 else n
      if 0 < n ∧ n ≤ Signal.last then
        say (signalName dialect n ++ "\n" : String)
        return 0
      else
        match dialect with
        | .plain => fail ("invalid signal number or exit status: " ++ argument)
        | .rich => failWith 1 (argument ++ ": invalid signal specification")

/-- The complaint about a call of `kill` that makes no sense. -/
def failKill {α : Type} : Exec α := do
  match (← get).dialect with
  | .plain =>
    fail ("Usage: kill [-s sigspec | -signum | -sigspec] [pid | job]... or\n" ++
      "kill -l [exitstatus]" : String)
  | .rich => failUsage []

/-- Sends a signal to what an argument names, and says whether that went well. -/
def sendTo (signal : Nat) (argument : Text) : Exec Bool := do
  let dialect := (← get).dialect
  let refused (refusal : Refusal) : Exec Bool := do
    match dialect with
    | .plain => complain (refusal.message ++ "\n" : String)
    | .rich => complain ("(" ++ argument ++ ") - " ++ refusal.message)
    return false
  let sent (target : Nat) : Exec Bool := do
    match ← ask (.signal target signal) with
    | .ok () => return true
    | .error refusal => refused refusal
  match argument with
  | '%' :: _ =>
    let job ← namedJob argument
    if dialect = .plain then refused .noProcess
    else
      let mut all := true
      for process in job.processes do
        if process.2.isNone then all := (← sent process.1) && all
      return all
  | '-' :: digits =>
    let _ ← countArgument digits
    refused .noProcess
  | digits =>
    if dialect = .rich ∧ ¬ (digits ≠ [] ∧ digits.all Char.isDigit) then
      complain (argument ++ ": arguments must be process or job IDs")
      return false
    else sent (← countArgument digits)

/-- Sends a signal to each of its targets, or names signals. -/
def sendSignal : Own := fun arguments => do
  let dialect := (← get).dialect
  let send (signal : Nat) (targets : List Text) : Exec Nat := do
    if targets.isEmpty then failKill
    let mut status := 0
    for target in targets do
      if ¬ (← sendTo signal target) then status := 1
    return status
  match arguments with
  | [] => failKill
  | ('-' :: name) :: targets =>
    match signal? dialect 1 name with
    | some signal => send signal targets
    | none =>
      if name.isEmpty then failKill
      else if dialect = .rich ∧ ¬ ["l", "s", "n", "L", "-"].contains (String.ofList name) then
        failWith 1 (name ++ ": invalid signal specification")
      else
        let (options, targets) ←
          leadingOptions (if dialect = .rich then "lLs:n:" else "ls:") arguments
        if options.any fun option => option.1.toLower == 'l' then nameSignals targets
        else
          match options.getLast? with
          | some (_, given) =>
            match signal? dialect 1 given, dialect with
            | some signal, _ => send signal targets
            | none, .plain => fail ("invalid signal number or name: " ++ given)
            | none, .rich => failWith 1 (given ++ ": invalid signal specification")
          | none => send Signal.terminate targets
  | targets => send Signal.terminate targets

/-- The shell was started to ignore a signal, and does so whatever it is told. -/
def isDeaf (signal : Nat) : Exec Bool := do
  if ((← get).traps.lookup signal).isSome then return false
  else
    match ← ask (.responseTo signal) with
    | .ok .ignores => return true
    | _ => return false

/-- Arranges for what is to be done about a signal. -/
def setTrap (signal : Nat) (action : Option Text) : Exec Unit := do
  let isSignal := signal ≠ 0 ∧ signal ≤ Signal.last
  let deaf ← if isSignal then isDeaf signal else pure false
  modify fun state =>
    let others := state.traps.filter fun entry => entry.1 != signal
    { state with
      traps := match action with
        | some action => (signal, action) :: others
        | none => others }
  if isSignal ∧ ¬ deaf then
    let response : Response := match action with
      | none => .usual
      | some [] => .ignores
      | some _ => .notes
    let _ ← ask (.respond signal response)

/-- The traps of the richer shell that are no signals, under numbers that no signal has. -/
def richTraps : List (String × Nat) :=
  [("DEBUG", 1000), ("ERR", 1001), ("RETURN", 1002)]

/-- The trap that an argument names. -/
def trap? (dialect : Dialect) (argument : Text) : Option Nat :=
  match signal? dialect 0 argument with
  | some signal => some signal
  | none =>
    if dialect = .rich then richTraps.lookup (String.ofList (argument.map Char.toUpper)) else none

/-- Sets scripts for signals one after the other. -/
def setTrapsOf (action : Option Text) : List Text → Exec Nat
  | [] => return 0
  | name :: rest => do
    let dialect := (← get).dialect
    match trap? dialect name with
    | some signal =>
      setTrap signal action
      setTrapsOf action rest
    | none =>
      match dialect with
      | .plain => writeError ("trap: " ++ name ++ ": bad trap\n")
      | .rich => complain (name ++ ": invalid signal specification")
      return 1

/-- Shows the scripts for signals. -/
def sayTraps : Exec Unit := do
  let state ← get
  for (signal, action) in state.traps.mergeSort fun a b => a.1 ≤ b.1 do
    let name := match richTraps.find? fun entry => entry.2 == signal with
      | some entry => entry.1
      | none => shownSignal state.dialect signal
    let quoted := if (← get).dialect = .plain then singleQuoted action else closedQuoted action
    say ("trap -- " ++ quoted ++ ' ' :: ofString name ++ ['\n'])

/-- Sets scripts for signals, or shows them. -/
def setTraps : Own := fun arguments => do
  let dialect := (← get).dialect
  let (letters, operands) ← leadingLetters (if dialect = .rich then "lp" else "") arguments
  if letters.contains 'l' then nameSignals []
  else
    match operands with
    | [] =>
      sayTraps
      return 0
    | [name] =>
      if dialect = .rich ∧ (trap? dialect name).isNone then failUsage []
      setTrapsOf none [name]
    | first :: rest =>
      if first ≠ [] ∧ first.all Char.isDigit ∧ (trap? dialect first).isSome then
        setTrapsOf none operands
      else setTrapsOf (if first = ['-'] then none else some first) rest

end TaskRunner.Shell
