import TaskRunner.Host
import TaskRunner.Kernel.Schedule
import TaskRunner.Program.Table
import TaskRunner.Table

/-! Machines for sessions: a kernel with a disk and programs, and the environment that programs are
started with.  A machine has a clock, and its processes have always run up to it.

Everything that is proved of sessions is proved for every host.  A machine is the host that the
program runs on: it has the shell and the programs that scripts start, so that the output of a whole
run can be computed and held against that of a real system. -/

namespace TaskRunner

/-- A machine.  Relative paths begin in its directory. -/
structure Machine where
  kernel : Kernel
  clock : Nat
  directory : Nat
  environment : Table String

/-- A process that was started, with the pipes that it writes its outputs to. -/
structure Child where
  number : Nat
  stdout : Option Nat
  stderr : Option Nat
deriving DecidableEq, Repr

/-- The pipes of a process. -/
def Child.pipes (child : Child) : List Nat :=
  child.stdout.toList ++ child.stderr.toList

namespace Machine

/-! ### The machine that sessions begin with -/

/-- The time at which a machine is put to work. -/
def firstClock : Nat := 1767225600000000

/-- The disk with something at a path. -/
def furnish (disk : Disk) (path : String) (content : Content) (permissions : Nat) : Disk :=
  disk.withFile Disk.root firstClock (ofString path) content permissions

/-- The directories of a machine without files of its own. -/
def directories : List String :=
  ["/dev/", "/etc/", "/home/", "/opt/", "/proc/self/fd/", "/root/", "/srv/", "/tmp/", "/usr/bin/",
    "/usr/lib/", "/usr/local/bin/", "/usr/local/sbin/", "/usr/sbin/", "/usr/share/", "/var/tmp/"]

/-- The links of a machine without files of its own. -/
def links : List (String × String) :=
  [("/bin", "usr/bin"), ("/sbin", "usr/sbin"), ("/lib", "usr/lib"), ("/dev/fd", "/proc/self/fd"),
    ("/dev/stdin", "/proc/self/fd/0"), ("/dev/stdout", "/proc/self/fd/1"),
    ("/dev/stderr", "/proc/self/fd/2")]

/-- The devices of a machine. -/
def devices : List (String × Device) :=
  [("/dev/null", .null), ("/dev/zero", .zero), ("/dev/full", .full), ("/dev/random", .noise),
    ("/dev/urandom", .noise), ("/dev/tty", .terminal)] ++
    (List.range 64).map fun n => ("/proc/self/fd/" ++ toString n, .descriptor n)

/-- The files of a machine without files of its own. -/
def files : List (String × String) :=
  [("/etc/passwd", "root:x:0:0:root:/root:/bin/bash\n"), ("/etc/group", "root:x:0:\n"),
    ("/etc/hostname", "localhost\n")]

/-- The directory that a session begins in. -/
def workPath : String := "/tmp/work"

/-- The disk of a machine without files of its own. -/
def firstDisk : Disk :=
  let disk := ((workPath ++ "/") :: directories).foldl
    (fun disk path => furnish disk path (.regular .empty) 0o755) Disk.empty
  let disk := links.foldl
    (fun disk entry => furnish disk entry.1 (.link (ofString entry.2)) 0o777) disk
  let disk := devices.foldl (fun disk entry => furnish disk entry.1 (.device entry.2) 0o666) disk
  let disk := files.foldl
    (fun disk entry => furnish disk entry.1 (.regular (toByteArray (ofString entry.2))) 0o644) disk
  Program.table.foldl
    (fun disk entry => furnish disk ("/usr/bin/" ++ entry.1) (.program entry.1) 0o755) disk

/-- The node that a path from the root leads to. -/
def nodeAt (disk : Disk) (path : String) : Nat :=
  match disk.locate Disk.root (ofString path) true with
  | .ok n => n
  | .error _ => Disk.root

/-- The environment of a machine on which nothing else is set. -/
def plainEnvironment : Table String :=
  Table.empty.insert "PATH" "/usr/local/sbin:/usr/local/bin:/usr/sbin:/usr/bin:/sbin:/bin"

/-- The machine without files of its own. -/
def empty : Machine :=
  ⟨Kernel.ofDisk firstDisk, firstClock, nodeAt firstDisk workPath, plainEnvironment⟩

/-- The machine with a file, or with a directory if the name ends in a slash. -/
def withEntry (machine : Machine) (name : String) (content : Bytes) : Machine :=
  let content := Content.regular ⟨content.toArray⟩
  let disk := machine.kernel.disk.withFile machine.directory machine.clock (ofString name) content
    0o644
  { machine with kernel := { machine.kernel with disk } }

/-- The machine with a variable in its environment. -/
def withVariable (machine : Machine) (name value : String) : Machine :=
  { machine with environment := machine.environment.insert name value }

/-! ### Starting -/

/-- The environment of an invocation: that of the machine with the additions. -/
def environmentOf (machine : Machine) (invocation : Invocation) : Table String :=
  invocation.exports.foldl (fun table entry => table.insert entry.1 entry.2) machine.environment

/-- The texts of an invocation hold no NUL, which none of them may. -/
def isClean (invocation : Invocation) : Bool :=
  let clean (text : String) : Bool := '\x00' ∉ text.toList
  clean invocation.shell && clean invocation.script &&
    invocation.exports.all fun entry => clean entry.1 && clean entry.2

/-- The search path where the environment has none. -/
def usualPath : String := "/bin:/usr/bin"

/-- The path of the shell that runs scripts which name no interpreter. -/
def scriptShell : Text := "/bin/sh"

/-- The task of the first program that is found under one of some paths.  What may not be run is
passed over, and so is what is not there; `denied` says that the former has happened.  A script that
names no interpreter is run by a shell if `lenient` says so. -/
def findProgram (disk : Disk) (directory : Nat) (lenient : Bool)
    (arguments environment : List Text) : Bool → List Text → Except Refusal Task
  | denied, [] => .error (if denied then .denied else .noEntry)
  | denied, path :: rest =>
    match Kernel.taskAt Program.named disk directory path arguments environment with
    | .ok task => .ok task
    | .error .noEntry => findProgram disk directory lenient arguments environment denied rest
    | .error .notDirectory => findProgram disk directory lenient arguments environment denied rest
    | .error .denied => findProgram disk directory lenient arguments environment true rest
    | .error .notExecutable =>
      if lenient then
        Kernel.taskAt Program.named disk directory scriptShell
          (scriptShell :: path :: arguments.tail) environment
      else .error .notExecutable
    | .error refusal => .error refusal

/-- The task of an invocation.  A shell whose name holds a slash is at that path, and others are
searched for. -/
def taskOf (machine : Machine) (invocation : Invocation) : Except Refusal Task :=
  let disk := machine.kernel.disk
  let shell := ofString invocation.shell
  let arguments : List Text := [shell, "-c", ofString invocation.script]
  let table := machine.environmentOf invocation
  let environment := table.entries.map fun entry => ofString entry.1 ++ '=' :: ofString entry.2
  if '/' ∈ shell then
    Kernel.taskAt Program.named disk machine.directory shell arguments environment
  else if Disk.maxName < shell.length then .error .nameTooLong
  else
    let path := ofString ((table.get? "PATH").getD usualPath)
    let lenient := invocation.exports.any fun entry => entry.1 == "PATH"
    findProgram disk machine.directory lenient arguments environment false
      ((Shell.directoriesOf path).map fun directory => Shell.pathIn directory shell)

/-- How long, in millionths of a second, it takes to start a process. -/
def startSpan : Nat := 600

/-- The machine at a later time. -/
def advance (machine : Machine) (span : Nat) : Machine :=
  let clock := machine.clock + span
  { machine with clock, kernel := machine.kernel.runTo Program.named clock }

/-- The kernel with one more output for a process: a pipe, or a place where everything is lost. -/
def addOutput (kernel : Kernel) (piped : Bool) : Kernel × Nat × Option Nat :=
  if piped then
    let (kernel, pipe) := kernel.addPipe (Pipe.empty 1 1)
    let (kernel, file) := kernel.addFile (.pipe pipe) .output
    (kernel, file, some pipe)
  else
    let (kernel, file) := kernel.addFile (.node (nodeAt kernel.disk "/dev/null")) .output
    (kernel, file, none)

/-- Starts a process, whose outputs are kept as far as the first two arguments say. -/
def startWith (keepsOutput keepsErrors : Bool) (invocation : Invocation) (machine : Machine) :
    Except Fault Child × Machine :=
  if !isClean invocation then (.error .nulInArgument, machine)
  else
    let machine := machine.advance startSpan
    match machine.taskOf invocation with
    | .error refusal => (.error refusal.fault, machine)
    | .ok task =>
      let kernel := machine.kernel
      let (kernel, input) := kernel.addFile (.node (nodeAt kernel.disk "/dev/null")) .input
      let (kernel, output, stdout) := addOutput kernel keepsOutput
      let (kernel, errors, stderr) := addOutput kernel keepsErrors
      let process : Process :=
        { number := kernel.next
          parent := Kernel.runner
          task
          clock := machine.clock
          state := .ready
          halted := false
          interrupted := false
          opening := none
          descriptors := [⟨0, input, false⟩, ⟨1, output, false⟩, ⟨2, errors, false⟩]
          directory := machine.directory
          mask := 0o022
          responses := []
          noted := [] }
      let kernel :=
        { kernel with processes := kernel.processes ++ [process], next := kernel.next + 1 }
      (.ok ⟨process.number, stdout, stderr⟩, { machine with kernel })

/-! ### Finishing -/

/-- How many bytes of an output are read at most. -/
def readingLimit : Nat := 1048576

/-- Nothing more comes out of a pipe. -/
def isDry (kernel : Kernel) (pipe : Nat) : Bool :=
  kernel.pipes[pipe]?.all fun pipe => pipe.writers == 0

/-- More has come out of a pipe than is read. -/
def overflows (kernel : Kernel) (pipe : Nat) : Bool :=
  kernel.pipes[pipe]?.any fun pipe => readingLimit < pipe.size

/-- The kernel with a pipe that takes in everything from now on. -/
def widen (time : Nat) (kernel : Kernel) (pipe : Nat) : Kernel :=
  (kernel.modifyPipe pipe fun pipe => { pipe with boundless := true }).wakeWriters time pipe

/-- The kernel with a pipe that nobody reads from any more. -/
def shut (time : Nat) (kernel : Kernel) (pipe : Nat) : Kernel :=
  (kernel.modifyPipe pipe fun pipe => pipe.close true false).wakeWriters time pipe

/-- The bytes that came out of a pipe. -/
def outputOf (kernel : Kernel) (pipe : Option Nat) : Bytes :=
  match pipe.bind fun pipe => kernel.pipes[pipe]? with
  | some pipe => toBytes pipe.contents
  | none => []

/-- How a process has ended, if it has. -/
def statusOf? (kernel : Kernel) (number : Nat) : Option ExitStatus :=
  match (kernel.process? number).map Process.state with
  | some (.ended status) => some status
  | _ => none

/-- Takes all output of a process.  Nothing tells which of two outputs a line came from first, so
those of the second follow those of the first. -/
def collect (child : Child) (machine : Machine) : Transcript × Machine :=
  let kernel := child.pipes.foldl (widen machine.clock) machine.kernel
  let isOver (kernel : Kernel) : Bool :=
    child.pipes.all (isDry kernel) || child.pipes.any (overflows kernel)
  let (kernel, clock) := kernel.runUntil Program.named isOver Kernel.maxSteps machine.clock
  let stdout := outputOf kernel child.stdout
  let stderr := outputOf kernel child.stderr
  let kernel := child.pipes.foldl (shut clock) kernel
  (⟨stdout, stderr, []⟩, { machine with kernel, clock })

/-- Waits for the end of a process. -/
def wait (child : Child) (machine : Machine) : ExitStatus × Machine :=
  let hasEnded (kernel : Kernel) : Bool := (statusOf? kernel child.number).isSome
  let (kernel, clock) :=
    machine.kernel.runUntil Program.named hasEnded Kernel.maxSteps machine.clock
  let status := (statusOf? kernel child.number).getD (.code 0)
  (status, { machine with kernel := kernel.drop child.number, clock })

/-- Gives up a process: its outputs are closed, and nobody waits for it. -/
def abandon (child : Child) (machine : Machine) : Machine :=
  { machine with kernel := child.pipes.foldl (shut machine.clock) machine.kernel }

/-! ### Files -/

/-- The text of a file. -/
def readText (path : String) (machine : Machine) : Except Fault String := do
  if '\x00' ∈ path.toList then throw .nulInName
  let disk := machine.kernel.disk
  let n ← (disk.locate machine.directory (ofString path) true).mapError Refusal.fault
  let bytes ← (disk.bytes n).mapError Refusal.fault
  match decode? bytes.data.toList with
  | some text => return String.ofList text
  | none => throw .notUtf8

/-- The path from the root to what a path leads to, without links on the way. -/
def canonical? (path : String) (machine : Machine) : Option String :=
  if '\x00' ∈ path.toList then none
  else (machine.kernel.disk.canonical? machine.directory (ofString path)).map toOrdinary

/-- The machine as the surroundings of a session. -/
def host : Host Machine Child where
  start := startWith true true
  collect := collect
  wait := wait
  abandon := abandon
  readText := readText
  canonical? := canonical?

end Machine

end TaskRunner
