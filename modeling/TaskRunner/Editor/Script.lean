import TaskRunner.Regex.Parse
import TaskRunner.Regex.Search

/-! Scripts of the stream editor: the commands, and the lines that they apply to. -/

namespace TaskRunner.Editor

/-- An expression of a script: the one that was used last, or one of its own. -/
inductive Expression where
  | last
  | given (matcher : Regex.Matcher)

/-- A line that is meant: by its number, by its number from a first one on in steps, the last one,
or those that an expression fits. -/
inductive Address where
  | line (n : Nat)
  | step (first step : Nat)
  | final
  | fits (expression : Expression)

/-- Where a range of lines ends: at a line, so many lines further, or at a multiple of a number. -/
inductive RangeEnd where
  | at_ (address : Address)
  | further (count : Nat)
  | multiple (n : Nat)

/-- The lines that a command applies to.  Without an address these are all. -/
structure Selection where
  first : Option Address
  last : Option RangeEnd
  negated : Bool

/-- Where something is written to. -/
inductive Outlet where
  | output
  | errors
  | file (name : Text)
deriving DecidableEq, Repr

/-- A change to the case of letters: to go on with, or for the next letter only. -/
inductive CaseChange where
  | upper
  | lower
  | upperNext
  | lowerNext
  | none
deriving DecidableEq, Repr

/-- A piece of what takes the place of something found. -/
inductive Piece where
  | text (text : Text)
  | group (n : Nat)
  | letters (change : CaseChange)
deriving DecidableEq, Repr

/-- A replacement of what an expression fits: from which occurrence on, and whether of all that
follow; what comes out may be run as a command, be printed, and be written to a file. -/
structure Substitution where
  expression : Expression
  pieces : List Piece
  occurrence : Nat
  everywhere : Bool
  runs : Bool
  prints : Bool
  outlet : Option Outlet

/-- When a jump is made: always, after a replacement, or unless there was one. -/
inductive JumpRule where
  | always
  | replaced
  | unreplaced
deriving DecidableEq, Repr

/-- What a command does. -/
inductive Action where
  | nothing
  | block (past : Nat)
  | lineNumber
  | append (text : Text)
  | insert (text : Text)
  | change (text : Text)
  | jump (rule : JumpRule) (label : Text)
  | delete
  | deleteFirst
  | run (command : Text)
  | fileName
  | recall
  | recallMore
  | keep
  | keepMore
  | exchange
  | list (width : Option Nat)
  | next
  | nextMore
  | print
  | printFirst
  | quit (status : Nat)
  | quitSilently (status : Nat)
  | readFile (name : Text)
  | readLine (name : Text)
  | substitute (substitution : Substitution)
  | write (outlet : Outlet)
  | writeFirst (outlet : Outlet)
  | translate (pairs : List (Char × Char))
  | clear

/-- A command. -/
structure Command where
  selection : Selection
  action : Action

/-- A script: the commands, the places of its labels, the files that it writes to, and whether it
asks for lines not to be printed unless told to. -/
structure Script where
  commands : Array Command
  labels : List (Text × Nat)
  outlets : List Outlet
  quiet : Bool

namespace Script

/-- Where a jump to a label leads.  Without a label it leads to the end. -/
def target? (script : Script) (label : Text) : Option Nat :=
  if label.isEmpty then some script.commands.size else script.labels.lookup label

/-- The labels that are jumped to. -/
def jumps (script : Script) : List Text :=
  script.commands.toList.filterMap fun command =>
    match command.action with
    | .jump _ label => some label
    | _ => none

end Script

end TaskRunner.Editor
