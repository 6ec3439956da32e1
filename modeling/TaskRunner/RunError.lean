import TaskRunner.Fault
import TaskRunner.Source

/-! Errors of running: what can go wrong once a file is read. -/

namespace TaskRunner

/-- Why a sink took no more bytes. -/
inductive SinkFault where
  | full
  | broken
deriving DecidableEq, Repr

/-- The text shown to a user. -/
def SinkFault.message : SinkFault → String
  | full => "sink full"
  | broken => "sink broken"

mutual

/-- An error of running.  One that ends the reading of another file is kept whole. -/
inductive RunError where
  | undefinedVariable (name : String)
  | undefinedTarget (name : String)
  | invalidPath (path : String)
  | circularExtends (path : String)
  | unreadable (path : String) (fault : Fault)
  | inFile (path : String) (error : Failure)
  | notStarted (shell : String) (fault : Fault)
  | commandFailed (command : String) (status : ExitStatus)
  | output (fault : SinkFault)
deriving DecidableEq, Repr

/-- An error of any stage. -/
inductive Failure where
  | source (error : SourceError)
  | run (error : RunError)
deriving DecidableEq, Repr

end

mutual

/-- The text shown to a user. -/
def RunError.message : RunError → String
  | .undefinedVariable name => "undefined variable '" ++ name ++ "'"
  | .undefinedTarget name => "undefined target '" ++ name ++ "'"
  | .invalidPath path => "extends path must be a string, got " ++ path
  | .circularExtends path => "circular extends of '" ++ path ++ "'"
  | .unreadable path fault => "cannot read '" ++ path ++ "': " ++ fault.message
  | .inFile path error => "in '" ++ path ++ "': " ++ error.message
  | .notStarted shell fault => "cannot start '" ++ shell ++ "': " ++ fault.message
  | .commandFailed command status => "command failed (" ++ status.message ++ "): " ++ command
  | .output fault => "output error: " ++ fault.message

/-- The text shown to a user. -/
def Failure.message : Failure → String
  | .source error => error.message
  | .run error => "runtime error: " ++ error.message

end

end TaskRunner
