import TaskRunner.Statement
import TaskRunner.Text.Dedent

/-! Statements written in their canonical form: one tab for each level of nesting, one binding or
description on a line, and a blank line around every target of the top level. -/

namespace TaskRunner

/-- The tabs in front of a line at the given level. -/
def indentation (level : Nat) : List Char :=
  List.replicate level '\t'

/-- Text between quotes, in backquotes if it holds a double quote. -/
def quote (text : List Char) : List Char :=
  if '"' ∈ text then '\x60' :: text ++ ['\x60'] else '"' :: text ++ ['"']

/-- A literal as it is written. -/
def Literal.written : Literal → List Char
  | .string text => quote text.toList
  | .number digits => digits.toList
  | .identifier word => word.toList

namespace Layout

/-- A block of nothing. -/
def emptyBlock : List Char := " \x7b\x7d\n".toList

/-- The end of the line that opens a block. -/
def blockOpening : List Char := " \x7b\n".toList

/-- The line that closes a block. -/
def blockClosing (level : Nat) : List Char :=
  indentation level ++ "\x7d\n".toList

/-- A block with one entry on a line. -/
def entries (level : Nat) (items : List (List Char)) : List Char :=
  if items.isEmpty then emptyBlock
  else
    blockOpening ++ items.flatMap (fun item => indentation (level + 1) ++ item ++ ['\n']) ++
      blockClosing level

/-- A line of a script.  An empty line is not indented. -/
def scriptLine (level : Nat) (line : List Char) : List Char :=
  if line.isEmpty then ['\n'] else indentation level ++ line ++ ['\n']

/-- The block of a script, on one line if the script has only one. -/
def scriptBlock (level : Nat) (script : List Char) : List Char :=
  let script := dedent (trim script)
  if script.isEmpty then emptyBlock
  else if '\n' ∈ script then
    blockOpening ++ (lines script).flatMap (scriptLine (level + 1)) ++ blockClosing level
  else " \x7b ".toList ++ script ++ " \x7d\n".toList

/-- The word that begins a run. -/
def runWord (stage : Stage) : List Char :=
  match stage.mark? with
  | none => "run".toList
  | some mark => "run:".toList ++ mark.toList

/-- The scripts among the statements of a run without a name, which holds nothing else. -/
def scripts : List Statement → List (List Char)
  | [] => []
  | .action script :: body => script.toList :: scripts body
  | _ :: body => scripts body

mutual

/-- A statement at the given level, with the line feed that ends it. -/
def statement (level : Nat) : Statement → List Char
  | .config items => indentation level ++ "config".toList ++ bindingBlock level items
  | .var items => indentation level ++ "var".toList ++ bindingBlock level items
  | .target name body =>
    indentation level ++ "target ".toList ++ name.toList ++ block level body
  | .run r => indentation level ++ run level r
  | .action script => indentation level ++ "run".toList ++ scriptBlock level script.toList
  | .describe lines =>
    indentation level ++ "desc".toList ++ entries level (lines.map fun line => quote line.toList)
  | .extend paths =>
    indentation level ++ "extends".toList ++ entries level (paths.map Literal.written)
  | .literal value => indentation level ++ value.written ++ ['\n']

/-- A run, its stage and its block. -/
def run (level : Nat) : Run → List Char
  | ⟨some name, body, stage⟩ =>
    runWord stage ++ ' ' :: name.toList ++ if body.isEmpty then ['\n'] else block level body
  | ⟨none, body, stage⟩ => runWord stage ++ scriptBlock level (joinLines (scripts body))

/-- A block of statements. -/
def block (level : Nat) : List Statement → List Char
  | [] => emptyBlock
  | first :: more =>
    blockOpening ++ statements (level + 1) (first :: more) ++ blockClosing level

/-- Statements one after the other. -/
def statements (level : Nat) : List Statement → List Char
  | [] => []
  | first :: more => statement level first ++ statements level more

/-- A block of bindings. -/
def bindingBlock (level : Nat) : List Binding → List Char
  | [] => emptyBlock
  | first :: more =>
    blockOpening ++ bindings (level + 1) (first :: more) ++ blockClosing level

/-- Bindings one after the other. -/
def bindings (level : Nat) : List Binding → List Char
  | [] => []
  | first :: more => binding level first ++ bindings level more

/-- A name and its value.  A value that is no literal stands in a block. -/
def binding (level : Nat) : Binding → List Char
  | ⟨name, .literal value⟩ =>
    indentation level ++ name.toList ++ ' ' :: value.written ++ ['\n']
  | ⟨name, initializer⟩ =>
    indentation level ++ name.toList ++ blockOpening ++ statement (level + 1) initializer ++
      blockClosing level

end

/-- A target of the top level. -/
def isTarget : Statement → Bool
  | .target _ _ => true
  | _ => false

/-- The statements after one of the top level; `afterTarget` says whether that one is a target. -/
def continued (afterTarget : Bool) : List Statement → List Char
  | [] => []
  | first :: more =>
    (if afterTarget || isTarget first then ['\n'] else []) ++ statement 0 first ++
      continued (isTarget first) more

/-- The statements of a file. -/
def file : List Statement → List Char
  | [] => []
  | first :: more => statement 0 first ++ continued (isTarget first) more

end Layout

/-- The canonical form of a file. -/
def format (statements : List Statement) : String :=
  String.ofList (Layout.file statements)

end TaskRunner
