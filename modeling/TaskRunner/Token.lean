import TaskRunner.Stage
import TaskRunner.Text.Letter

/-! Tokens: the words, literals, braces and scripts of a task file, each with the place where it
stands. -/

namespace TaskRunner

/-- A place in a source text.  Lines and columns count from one, a column being one character;
`offset` counts the bytes of the text in UTF-8. -/
structure Place where
  line : Nat
  column : Nat
  offset : Nat
deriving DecidableEq, Repr

namespace Place

/-- The place at which a text begins. -/
def start : Place := ⟨1, 1, 0⟩

/-- The place one character further on. -/
def next (place : Place) (c : Char) : Place :=
  if c = '\n' then ⟨place.line + 1, 1, place.offset + c.utf8Size⟩
  else ⟨place.line, place.column + 1, place.offset + c.utf8Size⟩

/-- The place reached after `text`. -/
def after (place : Place) (text : List Char) : Place :=
  text.foldl next place

/-- The line and the column, as messages give them. -/
def describe (place : Place) : String :=
  s!"line {place.line}, column {place.column}"

@[simp] theorem after_nil (place : Place) : place.after [] = place := rfl

@[simp] theorem after_cons (place : Place) (c : Char) (text : List Char) :
    place.after (c :: text) = (place.next c).after text := rfl

@[simp] theorem after_append (place : Place) (text more : List Char) :
    place.after (text ++ more) = (place.after text).after more := by
  simp [after, List.foldl_append]

end Place

namespace Token

/-- The kinds of token. -/
inductive Kind where
  | leftBrace
  | rightBrace
  | comma
  | identifier
  | string
  | number
  | script
  | var
  | target
  | run
  | config
  | desc
  | extend
  | endOfInput
deriving DecidableEq, Repr

namespace Kind

/-- The name of a kind in a listing. -/
def name : Kind → String
  | leftBrace => "LEFT_BRACE"
  | rightBrace => "RIGHT_BRACE"
  | comma => "COMMA"
  | identifier => "IDENTIFIER"
  | string => "STRING"
  | number => "NUMBER"
  | script => "SCRIPT"
  | var => "VAR"
  | target => "TARGET"
  | run => "RUN"
  | config => "CONFIG"
  | desc => "DESC"
  | extend => "EXTENDS"
  | endOfInput => "EOF"

/-- The reserved word of this kind. -/
def keyword? : Kind → Option String
  | var => some "var"
  | target => some "target"
  | run => some "run"
  | config => some "config"
  | desc => some "desc"
  | extend => some "extends"
  | _ => none

/-- The kind of a reserved word. -/
def ofKeyword? (word : String) : Option Kind :=
  if word = "var" then some var
  else if word = "target" then some target
  else if word = "run" then some run
  else if word = "config" then some config
  else if word = "desc" then some desc
  else if word = "extends" then some extend
  else none

theorem ofKeyword?_eq_some_iff {word : String} {kind : Kind} :
    ofKeyword? word = some kind ↔ kind.keyword? = some word := by
  cases kind <;> grind [ofKeyword?, keyword?]

end Kind

end Token

/-- A token.  `depth` is the number of braces open where it was read, and `stage` the one that a
reserved word is marked with. -/
structure Token where
  kind : Token.Kind
  text : String
  place : Place
  depth : Nat
  stage : Stage
deriving DecidableEq, Repr

namespace Token

/-- The text that a message quotes; the end of the input has none. -/
def found? (token : Token) : Option String :=
  if token.kind = .endOfInput then none else some token.text

end Token

end TaskRunner
