import TaskRunner.Kernel.Files

/-! The course of the processes.  Each has a clock of its own, as if it had a processor to itself;
of those that can go on, the one whose clock is furthest behind does the next thing. -/

namespace TaskRunner.Kernel

/-! ### Starting programs -/

/-- The interpreter that the first line of a script names, with its argument. -/
def interpreter? (content : Text) : Option (Text × List Text) :=
  let isBlank (c : Char) : Bool := c == ' ' || c == '\t'
  match content with
  | '#' :: '!' :: rest =>
    let line := ((rest.takeWhile (· != '\n')).dropWhile isBlank).reverse.dropWhile isBlank
    let name := line.reverse.takeWhile fun c => !isBlank c
    let argument := (line.reverse.drop name.length).dropWhile isBlank
    if name.isEmpty then none else some (name, if argument.isEmpty then [] else [argument])
  | _ => none

/-- How many bytes of a script are looked at for its interpreter. -/
def interpreterBlock : Nat := 256

/-- The program that a path leads to, with the path that it was found under last and with what
stands before the other arguments.  Scripts are run by their interpreters, which may be scripts. -/
def programAt (disk : Disk) (current : Nat) : Nat → Text → List Text →
    Except Refusal (String × List Text)
  | 0, _, _ => .error .linksTooDeep
  | scripts + 1, path, arguments => do
    let n ← disk.locate current path true
    match disk.nodes[n]? with
    | none => throw .noEntry
    | some node =>
      if node.permissions &&& 0o111 = 0 then throw .denied
      match node.content with
      | .program name => return (name, arguments)
      | .regular bytes =>
        match interpreter? (ofByteArray bytes 0 interpreterBlock) with
        | none => throw .notExecutable
        | some (interpreter, leading) =>
          programAt disk current scripts interpreter
            (interpreter :: leading ++ path :: arguments.tail)
      | _ => throw .denied

/-- How many scripts may be interpreters of one another. -/
def maxScripts : Nat := 6

/-- The task of the program that a path leads to. -/
def taskAt (programs : Programs) (disk : Disk) (current : Nat) (path : Text)
    (arguments environment : List Text) : Except Refusal Task := do
  let (name, arguments) ← programAt disk current maxScripts path arguments
  return programs name ⟨arguments.headD path, arguments.tail, environment⟩

/-- Puts the task of another program in place of the one that asks. -/
def execute (programs : Programs) (process : Process) (kernel : Kernel) (path : Text)
    (arguments environment : List Text) : Served Unit :=
  match taskAt programs kernel.disk process.directory path arguments environment with
  | .error refusal => refuse process kernel refusal
  | .ok task =>
    let (lost, kept) := process.descriptors.partition Descriptor.transient
    let kernel := lost.foldl
      (fun kernel descriptor => kernel.release process.clock descriptor.file) kernel
    let responses := process.responses.filter fun entry => entry.2 == .ignores
    (.becomes task, { process with descriptors := kept, responses, noted := [] }, kernel)

/-! ### Requests -/

/-- Waits for a child to end. -/
def await (process : Process) (kernel : Kernel) (child : Option Nat) (blocks : Bool) :
    Served (Nat × ExitStatus) :=
  let children := kernel.processes.filter fun other =>
    other.parent == process.number && (child.isNone || child == some other.number)
  let ended := children.findSome? fun other =>
    match other.state with
    | .ended status => some (other.number, status)
    | _ => none
  match ended with
  | some (number, status) => grant process (kernel.drop number) (number, status)
  | none =>
    if children.isEmpty ∨ ¬ blocks then refuse process kernel .noChild
    else (.waits .children, process, kernel)

/-- Sends a signal to a process, of which zero is the one that asks. -/
def signalTo (process : Process) (kernel : Kernel) (target signal : Nat) : Served Unit :=
  let target := if target = 0 then process.number else target
  if target ≠ process.number ∧ (kernel.process? target).isNone then
    refuse process kernel .noProcess
  else if signal = 0 then grant process kernel ()
  else if Signal.last < signal then refuse process kernel .invalid
  else (.sends signal [target] (.ok ()), process, kernel)

/-- Sets the directory in which relative paths begin. -/
def setDirectory (process : Process) (kernel : Kernel) (path : Text) : Served Unit :=
  match kernel.disk.locate process.directory path true with
  | .error refusal => refuse process kernel refusal
  | .ok n =>
    if kernel.disk.isDirectory n then grant { process with directory := n } kernel ()
    else refuse process kernel .notDirectory

/-- Adds a named pipe to the disk. -/
def makeFifo (process : Process) (kernel : Kernel) (path : Text) (permissions : Nat) :
    Served Unit :=
  let (kernel, pipe) := kernel.addPipe (Pipe.empty 0 0)
  alter process kernel (kernel.addAt process path (Disk.masked permissions process.mask)
    fun _ => .fifo pipe)

/-- Does what a process asks for. -/
def serve (programs : Programs) (process : Process) (kernel : Kernel) :
    (request : Request) → Served request.Reply
  | .pause => grant { process with noted := [] } kernel process.noted
  | .sleep span =>
    if process.state = .sleeping then grant process kernel ()
    else (.sleeps, { process with clock := process.clock + span }, kernel)
  | .clock => grant process kernel process.clock
  | .numbers => grant process kernel (process.number, process.parent)
  | .read descriptor count => readFrom process kernel descriptor count false
  | .readLine descriptor => readFrom process kernel descriptor lineBlock true
  | .write descriptor text => writeTo process kernel descriptor text
  | .openFile path mode permissions => openPath process kernel path mode permissions
  | .openText text => openText process kernel text
  | .close descriptor => closeDescriptor process kernel descriptor
  | .copy descriptor target => copyDescriptor process kernel descriptor target
  | .copyAbove descriptor least => copyAbove process kernel descriptor least
  | .pipe => openPipe process kernel
  | .seek descriptor offset => seekTo process kernel descriptor offset
  | .offset descriptor => offsetOf process kernel descriptor
  | .inspect path follow => answer process kernel (kernel.inspect process path follow)
  | .inspectOpen descriptor => answer process kernel (kernel.infoOfOpen process descriptor)
  | .list path => answer process kernel (kernel.listDirectory process path)
  | .makeDirectory path permissions =>
    alter process kernel (kernel.addAt process path (Disk.masked permissions process.mask)
      fun directory => .directory directory [])
  | .makeFifo path permissions => makeFifo process kernel path permissions
  | .makeLink target path =>
    if target.isEmpty then refuse process kernel .noEntry
    else alter process kernel (kernel.addAt process path 0o777 fun _ => .link target)
  | .makeName old new => alter process kernel (kernel.addName process old new)
  | .readLink path => answer process kernel (kernel.linkText process path)
  | .removeFile path => alter process kernel (kernel.removeFile process path)
  | .removeDirectory path => alter process kernel (kernel.removeDirectory process path)
  | .rename old new => alter process kernel (kernel.rename process old new)
  | .setPermissions path permissions =>
    alter process kernel (kernel.modifyAt process path fun node => { node with permissions })
  | .setTime path time =>
    alter process kernel (kernel.modifyAt process path fun node =>
      { node with modified := time.getD process.stamp })
  | .setDirectory path => setDirectory process kernel path
  | .directory =>
    match kernel.disk.pathTo? process.directory with
    | some path => grant process kernel path
    | none => refuse process kernel .noEntry
  | .setMask mask => grant { process with mask := mask &&& 0o777 } kernel ()
  | .mask => grant process kernel process.mask
  | .execute path arguments environment =>
    execute programs process kernel path arguments environment
  | .await child blocks => await process kernel child blocks
  | .signal target signal => signalTo process kernel target signal
  | .respond signal response =>
    let others := process.responses.filter fun entry => entry.1 != signal
    grant { process with responses := (signal, response) :: others } kernel ()
  | .responseTo signal => grant process kernel (process.response signal)

/-! ### Time -/

/-- The time, in millionths of a second, that a request takes. -/
def cost : Request → Nat
  | .pause => 1
  | .sleep _ => 1
  | .clock => 1
  | .numbers => 1
  | .execute _ _ _ => 500
  | .openFile _ _ _ => 4
  | .read _ _ => 2
  | .readLine _ => 2
  | .write _ _ => 2
  | _ => 3

/-- The time that splitting takes the process that goes on as before. -/
def forkCost : Nat := 100

/-- The time until the other process begins. -/
def forkDelay : Nat := 250

/-! ### Steps -/

/-- The process that does the next thing: of those that can go on, the one whose clock is furthest
behind. -/
def nextProcess? (processes : List Process) : Option Process :=
  processes.foldl (fun best process =>
    if process.canRun then
      match best with
      | some other => if process.clock < other.clock then some process else best
      | none => some process
    else best) none

/-- A process splits in two. -/
def split (kernel : Kernel) (process : Process) (child : Task) (next : Nat → Task) : Kernel :=
  let number := kernel.next
  let shared := process.descriptors.foldl
    (fun kernel descriptor => kernel.share descriptor.file) kernel
  let copy := { process with
    number
    parent := process.number
    task := child
    clock := process.clock + forkDelay
    noted := [] }
  let process := { process with task := next number, clock := process.clock + forkCost }
  let kernel := shared.put process
  { kernel with processes := kernel.processes ++ [copy], next := number + 1 }

/-- What comes of a request that was served. -/
def settle {α : Type} (kernel : Kernel) (process : Process) (next : Except Refusal α → Task)
    (cost : Nat) : Result α → Kernel
  | .reply answer =>
    kernel.put { process with task := next answer, state := .ready, clock := process.clock + cost }
  | .sends signal targets answer =>
    let process :=
      { process with task := next answer, state := .ready, clock := process.clock + cost }
    targets.foldl (fun kernel target => kernel.send process.clock signal target)
      (kernel.put process)
  | .waits channel => kernel.put { process with state := .waiting channel }
  | .sleeps => kernel.put { process with state := .sleeping }
  | .becomes task =>
    kernel.put { process with task, state := .ready, clock := process.clock + cost }

/-- A process does its next thing. -/
def act (programs : Programs) (kernel : Kernel) (process : Process) : Kernel :=
  match process.task with
  | .exit status => kernel.finish process.clock process (.code (status % 256))
  | .fork child next => kernel.split process child next
  | .ask request next =>
    if process.interrupted then
      let process := { process with interrupted := false, opening := none }
      kernel.settle process next (cost request) (.reply (.error .interrupted))
    else
      match serve programs process kernel request with
      | (result, process, kernel) => kernel.settle process next (cost request) result

/-- The kernel after the next things are done, until `stops` holds or nothing can be done any more.
The first argument bounds how many. -/
def run (programs : Programs) (stops : Kernel → Process → Bool) : Nat → Kernel → Kernel
  | 0, kernel => kernel
  | steps + 1, kernel =>
    match nextProcess? kernel.processes with
    | none => kernel
    | some process =>
      if stops kernel process then kernel
      else run programs stops steps (kernel.act programs process)

/-- More steps than scripts take. -/
def maxSteps : Nat := 50000000

/-- The kernel after the next things are done, until something holds or nothing can be done any
more, and the time of the last of them, which is not before `time`. -/
def runUntil (programs : Programs) (holds : Kernel → Bool) : Nat → Nat → Kernel → Kernel × Nat
  | 0, time, kernel => (kernel, time)
  | steps + 1, time, kernel =>
    if holds kernel then (kernel, time)
    else
      match nextProcess? kernel.processes with
      | none => (kernel, time)
      | some process =>
        runUntil programs holds steps (max time process.clock) (kernel.act programs process)

/-- The kernel at a time: every process has run up to it. -/
def runTo (programs : Programs) (time : Nat) (kernel : Kernel) : Kernel :=
  run programs (fun _ process => time ≤ process.clock) maxSteps kernel

end TaskRunner.Kernel
