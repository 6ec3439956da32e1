import TaskRunner.RunError

/-! The part of a file that runs one target. -/

namespace TaskRunner.Statement

/-- The statement declares the target with the given name. -/
def declares (name : String) : Statement → Bool
  | target declared _ => declared == name
  | _ => false

/-- The statement is a run. -/
def isRun : Statement → Bool
  | run _ => true
  | _ => false

/-- The statements with their runs replaced by a run of the target. -/
def select (statements : List Statement) (name : String) : Except RunError (List Statement) :=
  if statements.any (declares name) then
    .ok (statements.filter (fun statement => !statement.isRun) ++ [run ⟨some name, [], .during⟩])
  else .error (.undefinedTarget name)

end TaskRunner.Statement
