import TaskRunner.Text.CharClass

/-! Regular expressions. -/

namespace TaskRunner

/-- A place between two characters. -/
inductive Edge where
  | textStart
  | textEnd
  | lineStart
  | lineEnd
  | wordStart
  | wordEnd
  | wordEdge
  | noWordEdge
  | noWordBefore
  | noWordAfter
deriving DecidableEq, Repr

/-- A regular expression.  Groups are numbered from one on. -/
inductive Regex where
  | nothing
  | one (holds : Char → Bool)
  | edge (kind : Edge)
  | both (first second : Regex)
  | either (first second : Regex)
  | repeated (least : Nat) (most : Option Nat) (body : Regex)
  | group (n : Nat) (body : Regex)
  | back (n : Nat)

namespace Regex

/-- The expression that a character fits. -/
def char (c : Char) : Regex := .one (· == c)

/-- The expression that every character fits. -/
def any : Regex := .one fun _ => true

/-- The expression that a text fits. -/
def literal : Text → Regex
  | [] => .nothing
  | [c] => .char c
  | c :: cs => .both (.char c) (literal cs)

/-- The expressions one after the other. -/
def all : List Regex → Regex
  | [] => .nothing
  | [regex] => regex
  | regex :: rest => .both regex (all rest)

/-- The expression in which capital letters and small ones are the same. -/
def folded : Regex → Regex
  | .one holds => .one fun c => holds c || holds c.toLower || holds c.toUpper
  | .both first second => .both first.folded second.folded
  | .either first second => .either first.folded second.folded
  | .repeated least most body => .repeated least most body.folded
  | .group n body => .group n body.folded
  | regex => regex

/-- The expression without groups, for those who only ask where it fits. -/
def ungrouped : Regex → Regex
  | .both first second => .both first.ungrouped second.ungrouped
  | .either first second => .either first.ungrouped second.ungrouped
  | .repeated least most body => .repeated least most body.ungrouped
  | .group _ body => body.ungrouped
  | regex => regex

/-- The greatest number of a group. -/
def groups : Regex → Nat
  | .both first second => max first.groups second.groups
  | .either first second => max first.groups second.groups
  | .repeated _ _ body => body.groups
  | .group n body => max n body.groups
  | _ => 0

/-- A part has to be the same as what a group stands for. -/
def refers : Regex → Bool
  | .both first second => first.refers || second.refers
  | .either first second => first.refers || second.refers
  | .repeated _ _ body => body.refers
  | .group _ body => body.refers
  | .back _ => true
  | _ => false

end Regex

end TaskRunner
