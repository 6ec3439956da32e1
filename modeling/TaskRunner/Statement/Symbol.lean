import TaskRunner.Statement
import TaskRunner.Token

/-! Symbols: what the grammar of statements sees of a token.  Only the mark of a `run` and the texts
of scripts and literals matter to it. -/

namespace TaskRunner

/-- A terminal symbol of the grammar. -/
inductive Symbol where
  | openBrace
  | closeBrace
  | comma
  | config
  | var
  | target
  | run (stage : Stage)
  | desc
  | extend
  | script (text : String)
  | literal (value : Literal)
deriving DecidableEq, Repr

/-- The symbol of a token.  The end of the input is none. -/
def Token.symbol? (token : Token) : Option Symbol :=
  match token.kind with
  | .leftBrace => some .openBrace
  | .rightBrace => some .closeBrace
  | .comma => some .comma
  | .identifier => some (.literal (.identifier token.text))
  | .string => some (.literal (.string token.text))
  | .number => some (.literal (.number token.text))
  | .script => some (.script token.text)
  | .var => some .var
  | .target => some .target
  | .run => some (.run token.stage)
  | .config => some .config
  | .desc => some .desc
  | .extend => some .extend
  | .endOfInput => none

/-- The symbols of the tokens before the end of the input. -/
def symbols : List Token → List Symbol
  | [] => []
  | token :: tokens =>
    match token.symbol? with
    | none => []
    | some symbol => symbol :: symbols tokens

end TaskRunner
