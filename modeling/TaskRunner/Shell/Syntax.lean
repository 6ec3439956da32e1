import TaskRunner.Text.CharClass

/-! The commands of shell scripts. -/

namespace TaskRunner.Shell

/-- The languages of scripts: the plain one, and the richer one that has arrays and conditions of
its own. -/
inductive Dialect where
  | plain
  | rich
deriving DecidableEq, Repr

/-- What the word after a parameter is for. -/
inductive Fallback where
  | use
  | assign
  | complain
  | replace
deriving DecidableEq, Repr

/-- What follows a clause of a choice that fits: nothing, the body of the next clause, or the next
clauses whose patterns fit. -/
inductive Sequel where
  | nothing
  | nextBody
  | nextFit
deriving DecidableEq, Repr

/-- Which of the places where a pattern fits are replaced. -/
inductive Replaced where
  | first
  | every
  | front
  | back
deriving DecidableEq, Repr

/-- What letters are changed to: capital ones, small ones, or each to what it is not. -/
inductive LetterCase where
  | upper
  | lower
  | other
deriving DecidableEq, Repr

/-- A letter changed. -/
def LetterCase.change : LetterCase → Char → Char
  | .upper, c => c.toUpper
  | .lower, c => c.toLower
  | .other, c => if c.isUpper then c.toLower else c.toUpper

/-- What the sign before a closing brace changes letters to. -/
def LetterCase.ofSign? : Char → Option LetterCase
  | '^' => some .upper
  | ',' => some .lower
  | '~' => some .other
  | _ => none

mutual

/-- A piece of a word.  The index of a parameter is the part of an array that it stands for; a
stream is the name of a file from which the output of a command is read, or to which its input is
written. -/
inductive Piece where
  | text (quoted : Bool) (content : Text)
  | parameter (quoted : Bool) (name : String) (index : Option (List Piece)) (operation : Operation)
  | output (quoted : Bool) (command : Command)
  | arithmetic (quoted : Bool) (expression : List Piece)
  | stream (reads : Bool) (command : Command)

/-- What is made of a parameter. -/
inductive Operation where
  | value
  | length
  | fallback (kind : Fallback) (ifEmpty : Bool) (word : List Piece)
  | cut (suffix : Bool) (longest : Bool) (pattern : List Piece)
  | replace (which : Replaced) (pattern replacement : List Piece)
  | slice (start : List Piece) (length : Option (List Piece))
  | recase (letters : LetterCase) (all : Bool) (pattern : List Piece)
  | transform (letter : Char)
  | indirect
  | keys
  | bad (source : Text)

/-- What a redirection makes of a descriptor. -/
inductive Redirection where
  | read (descriptor : Nat) (path : List Piece)
  | write (descriptor : Nat) (path : List Piece) (always : Bool)
  | append (descriptor : Nat) (path : List Piece)
  | both (descriptor : Nat) (path : List Piece)
  | copy (descriptor : Nat) (source : List Piece)
  | here (descriptor : Nat) (content : List Piece)
  | writeAll (path : List Piece) (appends : Bool)

/-- A value that an assignment gives: a word, or the members of an array. -/
inductive Assigned where
  | word (word : List Piece)
  | members (words : List (List Piece))

/-- An assignment.  With `appends` the value is put behind the one that is there. -/
inductive Assignment where
  | to (name : String) (index : Option (List Piece)) (appends : Bool) (value : Assigned)

/-- What a condition of the richer language says. -/
inductive Test where
  | words (words : List (List Piece))
  | compare (first : List Piece) (sign : String) (second : List Piece)
  | not (test : Test)
  | both (first second : Test)
  | either (first second : Test)

/-- A command.  Numbers are those of the lines where commands begin; heads are the texts of the
first lines of loops and choices.  There may be a complaint in place of a command that cannot be
read. -/
inductive Command where
  | nothing
  | simple (line : Nat) (assignments : List Assignment) (words : List (List Piece))
      (redirections : List Redirection)
  | negation (command : Command)
  | pipeline (background : Bool) (commands : List Command)
  | both (first second : Command)
  | either (first second : Command)
  | sequence (first second : Command)
  | redirected (line : Nat) (command : Command) (redirections : List Redirection)
  | subshell (line : Nat) (body : Command) (redirections : List Redirection)
  | background (line : Nat) (command : Command) (redirections : List Redirection)
  | conditional (condition body otherwise : Command)
  | loop (whileFails : Bool) (condition body : Command)
  | forEach (line : Nat) (head : Text) (name : String) (words : Option (List (List Piece)))
      (body : Command)
  | count (line : Nat) (first condition step : List Piece) (body : Command)
  | choice (line : Nat) (head : Text) (subject : List Piece)
      (clauses : List (List (List Piece) × Command × Sequel))
  | select (line : Nat) (name : String) (words : Option (List (List Piece))) (body : Command)
  | timed (brief : Bool) (command : Command)
  | unread (complaint : Text)
  | function (line : Nat) (name : String) (body : Command)
  | test (line : Nat) (test : Test)
  | reckon (line : Nat) (expression : List Piece)

end

/-- The first line that a command tells of, or zero. -/
def Command.firstLine : Command → Nat
  | .nothing => 0
  | .simple line _ _ _ => line
  | .negation command => command.firstLine
  | .pipeline _ [] => 0
  | .pipeline _ (command :: _) => command.firstLine
  | .both first _ => first.firstLine
  | .either first _ => first.firstLine
  | .sequence first _ => first.firstLine
  | .redirected line command _ => if line = 0 then command.firstLine else line
  | .subshell line _ _ => line
  | .background line command _ => if line = 0 then command.firstLine else line
  | .conditional condition _ _ => condition.firstLine
  | .loop _ condition _ => condition.firstLine
  | .forEach line _ _ _ _ => line
  | .count line _ _ _ _ => line
  | .choice line _ _ _ => line
  | .select line _ _ _ => line
  | .timed _ command => command.firstLine
  | .function line _ _ => line
  | .test line _ => line
  | .reckon line _ => line
  | .unread _ => 0

/-- A word: its pieces, one after the other. -/
abbrev Word := List Piece

end TaskRunner.Shell
