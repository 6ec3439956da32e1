import TaskRunner.Program.Input

/-! Paths as programs take them apart and put them together, and looks at what is there. -/

namespace TaskRunner.Program

open Tool

/-- The path of a name in a directory. -/
def below (directory name : Text) : Text :=
  if directory.getLast? = some '/' then directory ++ name else directory ++ '/' :: name

/-- How deep directories may be nested. -/
def walkDepth : Nat := 4096

/-- Names in the order of their bytes. -/
def inOrder (names : List Text) : List Text :=
  names.mergeSort isNotAfter

/-- A path without the slashes at its end. -/
def withoutSlashes (path : Text) : Text :=
  match (path.reverse.dropWhile (· == '/')).reverse with
  | [] => if path.isEmpty then [] else ['/']
  | kept => kept

/-- The last name of a path. -/
def lastName (path : Text) : Text :=
  let path := withoutSlashes path
  if path = ['/'] then path else (path.reverse.takeWhile (· != '/')).reverse

/-- The path of the directory that holds the last name of a path. -/
def directoryOf (path : Text) : Text :=
  let path := withoutSlashes path
  if path = ['/'] then path
  else
    let front := (path.reverse.dropWhile (· != '/')).reverse
    if front.isEmpty then ['.'] else withoutSlashes front

/-- The last name of a path is that of the directory itself or of the one above. -/
def isDots (path : Text) : Bool :=
  let name := lastName path
  name == ['.'] || name == ['.', '.']

/-- What is known of what a path leads to, a link at its end followed or not. -/
def lookAt (path : Text) (follow : Bool) : Tool (Except Refusal FileInfo) :=
  ask (.inspect path follow)

/-- The path leads to a directory. -/
def isDirectory (path : Text) : Tool Bool := do
  match ← lookAt path true with
  | .ok info => return info.kind = .directory
  | .error _ => return false

/-- What a kind of file is called. -/
def kindName (info : FileInfo) : String :=
  match info.kind with
  | .directory => "directory"
  | .regular => if info.size = 0 then "regular empty file" else "regular file"
  | .link => "symbolic link"
  | .fifo => "fifo"
  | .device => "character special file"

/-- Asks a question and reads the answer. -/
def agrees (question : Text) : Tool Bool := do
  flush
  writeError question
  match ← act (Act.readLine 0) with
  | (c :: _, _) => return c = 'y' || c = 'Y'
  | ([], _) => return false

/-- The first operand is missing. -/
def missingOperand {α : Type} : Tool α :=
  misuse 1 "missing operand".toList

/-- There are more operands than there should be. -/
def extraOperand {α : Type} (operand : Text) : Tool α :=
  misuse 1 ("extra operand " ++ quoted operand)

end TaskRunner.Program
