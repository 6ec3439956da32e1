import TaskRunner.Token
import TaskRunner.Token.Lexeme
import TaskRunner.Text.Blank

/-! From source text to tokens.  The scanner walks over the lexemes and keeps what the reading of
later ones depends on: the place, the number of open braces, how the blocks of the reserved words
met so far are read, and whether `run` was the last token. -/

namespace TaskRunner

/-- How the block that belongs to a reserved word is read: as the text of a script or as tokens. -/
inductive BlockMode where
  | script
  | tokens
deriving DecidableEq, Repr

/-- What the scanner knows between two lexemes. -/
structure Scanner where
  place : Place
  depth : Nat
  modes : List BlockMode
  afterRun : Bool
deriving DecidableEq, Repr

/-- A text that cannot be scanned: why, and where. -/
structure ScanError where
  cause : Lexeme.Refusal
  place : Place
deriving DecidableEq, Repr

namespace ScanError

/-- What the cause is called. -/
def causeText : Lexeme.Refusal → String
  | .unterminatedString => "unterminated string"
  | .unexpectedCharacter c =>
    if c = '\n' then "unexpected character: '\\n'"
    else "unexpected character: '" ++ String.singleton c ++ "'"

/-- The text shown to a user. -/
def message (error : ScanError) : String :=
  causeText error.cause ++ " at " ++ error.place.describe

end ScanError

/-- The kind and the stage of a word: a reserved word, a reserved word with a mark after a colon, or
a plain word. -/
def classifyWord (word : List Char) : Token.Kind × Stage :=
  match Token.Kind.ofKeyword? (String.ofList word) with
  | some kind => (kind, .during)
  | none =>
    match word.dropWhile (· != ':') with
    | [] => (.identifier, .during)
    | _ :: mark =>
      match Token.Kind.ofKeyword? (String.ofList (word.takeWhile (· != ':'))),
          Stage.ofMark? (String.ofList mark) with
      | some kind, some stage => (kind, stage)
      | _, _ => (.identifier, .during)

namespace Scanner

/-- The scanner at the beginning of a text whose first character is at `place`. -/
def initial (place : Place) : Scanner := ⟨place, 0, [], false⟩

/-- The next opening brace begins a script. -/
def expectsScript (scanner : Scanner) : Bool :=
  scanner.modes.head? == some .script

/-- A token at the scanner's place. -/
def token (scanner : Scanner) (kind : Token.Kind) (text : List Char) (stage : Stage) : Token :=
  ⟨kind, String.ofList text, scanner.place, scanner.depth, stage⟩

/-- The token of the script taken along by an opening brace, unless it is blank. -/
def scriptTokens (scanner : Scanner) (script : List Char) : List Token :=
  if (trim script).isEmpty then []
  else
    [⟨.script, String.ofList (trim script), scanner.place.next '\x7b', scanner.depth + 1, .during⟩]

/-- The tokens of a lexeme. -/
def tokens (scanner : Scanner) : Lexeme → List Token
  | .space _ => []
  | .comment _ => []
  | .openBrace script =>
    scanner.token .leftBrace ['\x7b'] .during :: scanner.scriptTokens script
  | .closeBrace =>
    [⟨.rightBrace, "\x7d", scanner.place, scanner.depth - 1, .during⟩]
  | .comma => [scanner.token .comma [','] .during]
  | .quoted _ text => [scanner.token .string text .during]
  | .number digits => [scanner.token .number digits .during]
  | .word text => [scanner.token (classifyWord text).1 text (classifyWord text).2]

/-- The modes after a word of the given kind.  A reserved word adds the mode of its block; a name
after `run` makes the block that may follow one of tokens. -/
def modesAfterWord (scanner : Scanner) (kind : Token.Kind) : List BlockMode :=
  if kind = .run then .script :: scanner.modes
  else if kind ≠ .identifier then .tokens :: scanner.modes
  else if scanner.afterRun then .tokens :: scanner.modes.tail
  else scanner.modes

/-- The scanner after a lexeme. -/
def advance (scanner : Scanner) (lexeme : Lexeme) : Scanner :=
  let place := scanner.place.after lexeme.spelling
  match lexeme with
  | .space _ => { scanner with place }
  | .comment _ => { scanner with place }
  | .openBrace _ => ⟨place, scanner.depth + 1, scanner.modes, false⟩
  | .closeBrace => ⟨place, scanner.depth - 1, scanner.modes.tail, false⟩
  | .comma => ⟨place, scanner.depth, scanner.modes, false⟩
  | .quoted _ _ => ⟨place, scanner.depth, scanner.modes, false⟩
  | .number _ => ⟨place, scanner.depth, scanner.modes, false⟩
  | .word text =>
    let kind := (classifyWord text).1
    ⟨place, scanner.depth, scanner.modesAfterWord kind, kind == .run⟩

/-- The lexemes of the text from the scanner's place on. -/
def lexemes (scanner : Scanner) : List Char → Except ScanError (List Lexeme)
  | [] => .ok []
  | c :: cs =>
    match _h : Lexeme.read scanner.expectsScript c cs with
    | .error cause => .error ⟨cause, scanner.place⟩
    | .ok (lexeme, rest) =>
      match (scanner.advance lexeme).lexemes rest with
      | .error error => .error error
      | .ok more => .ok (lexeme :: more)
termination_by text => text.length
decreasing_by exact Lexeme.length_rest_of_read ‹_›

/-- The tokens of a row of lexemes, and the end of the input after them. -/
def tokensOf (scanner : Scanner) : List Lexeme → List Token
  | [] => [scanner.token .endOfInput [] .during]
  | lexeme :: more => scanner.tokens lexeme ++ (scanner.advance lexeme).tokensOf more

/-- The tokens of the text from the scanner's place on. -/
def scan (scanner : Scanner) (text : List Char) : Except ScanError (List Token) :=
  (scanner.lexemes text).map scanner.tokensOf

end Scanner

/-- The character that may mark the beginning of a text and is no part of it. -/
def byteOrderMark : Char := '\ufeff'

/-- The tokens of a source text.  The last one is the end of the input. -/
def scan (source : String) : Except ScanError (List Token) :=
  match source.toList with
  | [] => (Scanner.initial Place.start).scan []
  | c :: cs =>
    if c = byteOrderMark then
      (Scanner.initial { Place.start with offset := byteOrderMark.utf8Size }).scan cs
    else (Scanner.initial Place.start).scan (c :: cs)

end TaskRunner
