import TaskRunner.Fault
import TaskRunner.Text.Utf8

/-! The surroundings of a session: the files it can read and the programs it can start.  A process
that was started goes on by itself until somebody takes its output or gives it up. -/

namespace TaskRunner

/-- A request to run a script: the shell, the script, and what is added to the environment. -/
structure Invocation where
  shell : String
  script : String
  exports : List (String × String)
deriving DecidableEq, Repr

/-- The standard outputs of a process. -/
inductive StandardOutput where
  | stdout
  | stderr
deriving DecidableEq, Repr

/-- What came out of a process: the bytes of its two outputs, and from which of them the lines
arrived, one after the other. -/
structure Transcript where
  stdout : Bytes
  stderr : Bytes
  arrivals : List StandardOutput
deriving DecidableEq, Repr

/-- What a process has done: what came out of it, and how it ended. -/
structure Outcome extends Transcript where
  status : ExitStatus
deriving DecidableEq, Repr

/-- Surroundings whose state is a value of type `ω` and whose processes are known by values of type
`η`.  `collect` takes all output of a process, `wait` waits for its end, and `abandon` closes its
outputs. -/
structure Host (ω η : Type) where
  start : Invocation → ω → Except Fault η × ω
  collect : η → ω → Transcript × ω
  wait : η → ω → ExitStatus × ω
  abandon : η → ω → ω
  readText : String → ω → Except Fault String
  canonical? : String → ω → Option String

/-- Takes all output of a process and then waits for its end. -/
def Host.finish {ω η : Type} (host : Host ω η) (process : η) (world : ω) : Outcome × ω :=
  let collected := host.collect process world
  let ended := host.wait process collected.2
  (⟨collected.1, ended.1⟩, ended.2)

end TaskRunner
