import TaskRunner.Host
import TaskRunner.RunError

/-! Output.  What a walk has to say is queued in the order of the statements and written to a sink
once the walk is over.  A process that failed ends the writing, and the processes after it are given
up. -/

namespace TaskRunner

/-- A piece of queued output: a text, or a process under the name of its command. -/
inductive Entry (η : Type) where
  | text (text : String)
  | process (command : String) (process : η)
deriving DecidableEq, Repr

/-- A sink.  It refuses a write that would take it past its limit, and a broken one cannot be
flushed. -/
structure Sink where
  taken : Bytes
  limit : Option Nat
  broken : Bool
deriving DecidableEq, Repr

namespace Sink

/-- The limit leaves room for that many bytes. -/
def admits (sink : Sink) (count : Nat) : Bool :=
  match sink.limit with
  | none => true
  | some limit => sink.taken.length + count ≤ limit

/-- One write, taken whole or refused whole. -/
def write (sink : Sink) (bytes : Bytes) : Except RunError Unit × Sink :=
  if sink.admits bytes.length then (.ok (), { sink with taken := sink.taken ++ bytes })
  else (.error (.output .full), sink)

/-- Writes one after the other, until one is refused. -/
def writeAll (sink : Sink) : List Bytes → Except RunError Unit × Sink
  | [] => (.ok (), sink)
  | chunk :: chunks =>
    match sink.write chunk with
    | (.ok (), sink) => sink.writeAll chunks
    | (.error error, sink) => (.error error, sink)

/-- The end of the writing. -/
def flush (sink : Sink) : Except RunError Unit :=
  if sink.broken then .error (.output .broken) else .ok ()

end Sink

/-- The byte of a line feed. -/
def lineFeed : UInt8 := 10

/-- Lines, each with a line feed at its end, with a byte in front of the first one. -/
def addToLines (b : UInt8) (lines : List Bytes) : List Bytes :=
  if b = lineFeed then [lineFeed] :: lines
  else
    match lines with
    | [] => [[b, lineFeed]]
    | line :: more => (b :: line) :: more

/-- The lines of an output, each with a line feed at its end. -/
def outputLines (bytes : Bytes) : List Bytes :=
  bytes.foldr addToLines []

@[simp] theorem outputLines_nil : outputLines [] = [] := rfl

@[simp] theorem outputLines_cons (b : UInt8) (bytes : Bytes) :
    outputLines (b :: bytes) = addToLines b (outputLines bytes) := rfl

/-- The lines of two outputs in the order in which they arrive.  An arrival from an output that has
no more lines is passed over, and lines that never arrive stand at the end. -/
def interleave : List StandardOutput → List Bytes → List Bytes → List Bytes
  | [], out, err => out ++ err
  | .stdout :: arrivals, line :: out, err => line :: interleave arrivals out err
  | .stdout :: arrivals, [], err => interleave arrivals [] err
  | .stderr :: arrivals, out, line :: err => line :: interleave arrivals out err
  | .stderr :: arrivals, out, [] => interleave arrivals out []

/-- The writes that show what came out of a process: the lines of its outputs as they arrived. -/
def Transcript.chunks (transcript : Transcript) : List Bytes :=
  interleave transcript.arrivals (outputLines transcript.stdout) (outputLines transcript.stderr)

/-- The verdict on the process that ran a command. -/
def ExitStatus.verdict (status : ExitStatus) (command : String) : Except RunError Unit :=
  if status.isSuccess then .ok () else .error (.commandFailed command status)

section

variable {ω η : Type}

/-- The world after the processes of queued entries are given up. -/
def abandonAll (host : Host ω η) : List (Entry η) → ω → ω
  | [], world => world
  | .text _ :: entries, world => abandonAll host entries world
  | .process _ process :: entries, world => abandonAll host entries (host.abandon process world)

/-- Writes an entry to a sink.  A process is waited for once its output is written; if a line of it
is refused, it is given up. -/
def Entry.present (host : Host ω η) (sink : Sink) :
    Entry η → ω → Except RunError Unit × Sink × ω
  | .text t, world =>
    let (written, sink) := sink.write (utf8 t)
    (written, sink, world)
  | .process command running, world =>
    let (transcript, world) := host.collect running world
    match sink.writeAll transcript.chunks with
    | (.error error, sink) => (.error error, sink, host.abandon running world)
    | (.ok (), sink) =>
      let (status, world) := host.wait running world
      (status.verdict command, sink, world)

/-- Writes queued entries to a sink, up to the first that fails.  Those after it are given up. -/
def drain (host : Host ω η) (sink : Sink) :
    List (Entry η) → ω → Except RunError Unit × Sink × ω
  | [], world => (sink.flush, sink, world)
  | entry :: entries, world =>
    match entry.present host sink world with
    | (.error error, sink, world) => (.error error, sink, abandonAll host entries world)
    | (.ok (), sink, world) => drain host sink entries world

end

end TaskRunner
