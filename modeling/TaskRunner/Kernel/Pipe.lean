import TaskRunner.Text.Octet

/-! Pipes: rows of bytes on their way from those who write to those who read. -/

namespace TaskRunner

/-- A pipe.  The bytes that were written last stand in `back`, the last ones first.  `readers` and
`writers` count its open ends, `readerOpenings` and `writerOpenings` how often ends were opened.  A
boundless pipe never fills. -/
structure Pipe where
  front : Text
  back : List Text
  size : Nat
  readers : Nat
  writers : Nat
  readerOpenings : Nat
  writerOpenings : Nat
  boundless : Bool
deriving DecidableEq, Repr

namespace Pipe

/-- How many bytes a pipe holds. -/
def capacity : Nat := 65536

/-- How many bytes are written all at once or not at all. -/
def atomicSize : Nat := 4096

/-- A pipe that holds nothing. -/
def empty (readers writers : Nat) : Pipe :=
  ⟨[], [], 0, readers, writers, readers, writers, false⟩

/-- The room that is left. -/
def room (pipe : Pipe) : Nat :=
  capacity - pipe.size

/-- How many bytes of a text the pipe takes now. -/
def admitted (pipe : Pipe) (count : Nat) : Nat :=
  if pipe.boundless then count
  else if count ≤ atomicSize then (if count ≤ pipe.room then count else 0)
  else min count pipe.room

/-- The pipe after bytes were written. -/
def push (pipe : Pipe) (text : Text) (count : Nat) : Pipe :=
  { pipe with back := text :: pipe.back, size := pipe.size + count }

/-- The pipe with all bytes in front. -/
def gathered (pipe : Pipe) : Pipe :=
  match pipe.back with
  | [] => pipe
  | [text] =>
    { pipe with front := if pipe.front = [] then text else pipe.front ++ text, back := [] }
  | back => { pipe with front := pipe.front ++ back.reverse.flatten, back := [] }

/-- All bytes. -/
def contents (pipe : Pipe) : Text :=
  pipe.gathered.front

/-- Up to `count` bytes from the front, and the pipe without them. -/
def take (pipe : Pipe) (count : Nat) : Text × Pipe :=
  let pipe := if pipe.front = [] then pipe.gathered else pipe
  let taken := pipe.front.take count
  (taken, { pipe with front := pipe.front.drop count, size := pipe.size - taken.length })

/-- The bytes of a text up to its first line feed, and the others. -/
def cutLine (text : Text) : Text × Text :=
  let line := text.takeWhile (· != '\n')
  match text.drop line.length with
  | [] => (line, [])
  | feed :: rest => (line ++ [feed], rest)

/-- The bytes up to the first line feed, as far as they are there, and the pipe without them. -/
def takeLine (pipe : Pipe) : Text × Pipe :=
  let pipe := if pipe.front = [] then pipe.gathered else pipe
  let (line, rest) := cutLine pipe.front
  (line, { pipe with front := rest, size := pipe.size - line.length })

/-- The pipe after ends were closed.  What nobody can read any more is lost when nobody can write
either. -/
def close (pipe : Pipe) (reads writes : Bool) : Pipe :=
  let readers := if reads then pipe.readers - 1 else pipe.readers
  let writers := if writes then pipe.writers - 1 else pipe.writers
  if readers = 0 ∧ writers = 0 then
    { pipe with readers, writers, front := [], back := [], size := 0 }
  else { pipe with readers, writers }

/-- The pipe after ends were opened. -/
def «open» (pipe : Pipe) (reads writes : Bool) : Pipe :=
  let r := if reads then 1 else 0
  let w := if writes then 1 else 0
  { pipe with
    readers := pipe.readers + r
    writers := pipe.writers + w
    readerOpenings := pipe.readerOpenings + r
    writerOpenings := pipe.writerOpenings + w }

end Pipe

end TaskRunner
