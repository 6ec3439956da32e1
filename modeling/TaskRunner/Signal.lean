/-! Signals: their names, what is said of a process that one of them ended, and what they do to a
process that has made no other arrangement. -/

namespace TaskRunner.Signal

/-- The names of the signals from one on, each with what is said of a process that it ended. -/
def table : List (String × String) :=
  [("HUP", "Hangup"), ("INT", "Interrupt"), ("QUIT", "Quit"), ("ILL", "Illegal instruction"),
    ("TRAP", "Trace/breakpoint trap"), ("ABRT", "Aborted"), ("BUS", "Bus error"),
    ("FPE", "Floating point exception"), ("KILL", "Killed"), ("USR1", "User defined signal 1"),
    ("SEGV", "Segmentation fault"), ("USR2", "User defined signal 2"), ("PIPE", "Broken pipe"),
    ("ALRM", "Alarm clock"), ("TERM", "Terminated"), ("STKFLT", "Stack fault"),
    ("CHLD", "Child exited"), ("CONT", "Continued"), ("STOP", "Stopped (signal)"),
    ("TSTP", "Stopped"), ("TTIN", "Stopped (tty input)"), ("TTOU", "Stopped (tty output)"),
    ("URG", "Urgent I/O condition"), ("XCPU", "CPU time limit exceeded"),
    ("XFSZ", "File size limit exceeded"), ("VTALRM", "Virtual timer expired"),
    ("PROF", "Profiling timer expired"), ("WINCH", "Window changed"), ("IO", "I/O possible"),
    ("PWR", "Power failure"), ("SYS", "Bad system call")]

/-- The greatest number of a signal. -/
def last : Nat := 64

/-- The first of the signals that have no names of their own. -/
def firstUnnamed : Nat := 34

/-- The name of a signal. -/
def name? (signal : Nat) : Option String :=
  if signal = 0 then none else table[signal - 1]?.map Prod.fst

/-- The signal that has a name. -/
def ofName? (name : String) : Option Nat :=
  (table.findIdx? fun entry => entry.1 == name).map (· + 1)

/-- What is said of a process that a signal ended. -/
def description (signal : Nat) : String :=
  match if signal = 0 then none else table[signal - 1]? with
  | some entry => entry.2
  | none =>
    if firstUnnamed ≤ signal then "Real-time signal " ++ toString (signal - firstUnnamed)
    else "Unknown signal " ++ toString signal

/-- The signal that tells a process to stop what it does at the terminal. -/
def interrupt : Nat := 2

/-- The signal that ends a process whatever it has arranged. -/
def kill : Nat := 9

/-- The signal for a process that writes where nobody reads. -/
def brokenPipe : Nat := 13

/-- The signal that asks a process to end. -/
def terminate : Nat := 15

/-- The signal for a process one of whose children has ended. -/
def childEnded : Nat := 17

/-- The signal that lets a halted process go on. -/
def resume : Nat := 18

/-- The signal that halts a process whatever it has arranged. -/
def halt : Nat := 19

/-- What a signal does to a process that has made no other arrangement. -/
inductive Effect where
  | ends
  | halts
  | nothing
deriving DecidableEq, Repr

/-- What a signal does to a process that has made no other arrangement. -/
def effect (signal : Nat) : Effect :=
  if signal ∈ [19, 20, 21, 22] then .halts
  else if signal ∈ [0, 17, 18, 23, 28] then .nothing
  else .ends

end TaskRunner.Signal
