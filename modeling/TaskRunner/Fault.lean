import TaskRunner.Signal

/-! Faults of the surroundings: why a file cannot be read or a program cannot be started, and how a
program that was started ended. -/

namespace TaskRunner

/-- Why a file cannot be read or a program cannot be started. -/
inductive Fault where
  | notFound
  | permissionDenied
  | notDirectory
  | isDirectory
  | nameTooLong
  | tooManyLinks
  | notExecutable
  | notUtf8
  | nulInName
  | nulInArgument
deriving DecidableEq, Repr

/-- The text shown to a user. -/
def Fault.message : Fault → String
  | notFound => "No such file or directory (os error 2)"
  | permissionDenied => "Permission denied (os error 13)"
  | notDirectory => "Not a directory (os error 20)"
  | isDirectory => "Is a directory (os error 21)"
  | nameTooLong => "File name too long (os error 36)"
  | tooManyLinks => "Too many levels of symbolic links (os error 40)"
  | notExecutable => "Exec format error (os error 8)"
  | notUtf8 => "stream did not contain valid UTF-8"
  | nulInName => "file name contained an unexpected NUL byte"
  | nulInArgument => "nul byte found in provided data"

/-- How a process ended: with an exit code, or by a signal. -/
inductive ExitStatus where
  | code (n : Nat)
  | signal (n : Nat)
deriving DecidableEq, Repr

namespace ExitStatus

/-- The process reports success. -/
def isSuccess (status : ExitStatus) : Bool :=
  status == code 0

/-- The exit code.  A process ended by a signal has none. -/
def code? : ExitStatus → Option Nat
  | code n => some n
  | signal _ => none

/-- The name of a signal, in parentheses. -/
def signalName (n : Nat) : String :=
  match Signal.name? n with
  | some name => " (SIG" ++ name ++ ")"
  | none => ""

/-- The text shown to a user. -/
def message : ExitStatus → String
  | code n => "exit status: " ++ toString n
  | signal n => "signal: " ++ toString n ++ signalName n

end ExitStatus

end TaskRunner
