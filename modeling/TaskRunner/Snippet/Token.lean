import TaskRunner.Snippet.Script
import TaskRunner.Text.CharClass
import TaskRunner.Text.Fraction

/-! The tokens that snippets are written in. -/

namespace TaskRunner.Snippet

/-- A token.  A text with values in it is kept as it is written.  If a bracket is open at the end of
everything, a token tells of it that stands where the bracket does. -/
inductive Token where
  | name (name : String)
  | number (literal : Literal)
  | text (text : String)
  | format (raw : Bool) (body : List Char)
  | sign (symbol : String)
  | newline
  | indent
  | dedent
  | unclosed (bracket : Char)
  | stop

/-- A token where it stands: its line and column, and how wide it is. -/
structure Lexeme where
  token : Token
  line : Nat
  column : Nat
  width : Nat

instance : Inhabited Lexeme := ⟨⟨.stop, 0, 0, 1⟩⟩

/-- Why a text is no snippet, and where that shows.  A fault without a width is about a line. -/
structure SyntaxFault where
  kind : String
  message : String
  line : Nat
  column : Nat
  width : Nat
deriving DecidableEq, Repr

/-- A fault of the usual kind. -/
def SyntaxFault.usual (message : String) (line column width : Nat) : SyntaxFault :=
  ⟨"SyntaxError", message, line, column, width⟩

/-- A fault with the indentation. -/
def SyntaxFault.indentation (message : String) (line : Nat) : SyntaxFault :=
  ⟨"IndentationError", message, line, 0, 0⟩

/-! ### Numbers -/

/-- The digit that a character is in a base. -/
def digitIn? (base : Nat) (c : Char) : Option Nat :=
  (hexDigit? c).filter (· < base)

/-- The digits of a number in a base, with strokes between them, and the text after them. -/
def digitsIn (base : Nat) (text : List Char) : Nat × List Char :=
  let digits := text.takeWhile fun c => (digitIn? base c).isSome || c == '_'
  (digits.foldl (fun n c => match digitIn? base c with
      | some d => base * n + d
      | none => n) 0,
    text.drop digits.length)

/-- The number at the front of a text, and the text after it. -/
def numberAt (text : List Char) : Literal × List Char :=
  let based (base : Nat) (rest : List Char) : Literal × List Char :=
    let (n, rest) := digitsIn base rest
    (.int n, rest)
  match text with
  | '0' :: 'x' :: rest => based 16 rest
  | '0' :: 'X' :: rest => based 16 rest
  | '0' :: 'o' :: rest => based 8 rest
  | '0' :: 'b' :: rest => based 2 rest
  | text =>
    let whole := text.takeWhile fun c => c.isDigit || c == '_'
    let rest := text.drop whole.length
    let isFraction := match rest with
      | '.' :: _ => true
      | 'e' :: c :: _ => c.isDigit || c == '-' || c == '+'
      | 'E' :: c :: _ => c.isDigit || c == '-' || c == '+'
      | _ => false
    if isFraction then
      match Fraction.decimalAt? (whole.filter (· != '_') ++ rest) with
      | some (x, rest) => (.float x, rest)
      | none => (.int 0, rest)
    else
      let (n, rest) := digitsIn 10 text
      (.int n, rest)

/-- What is wrong with a number that is written in some way, if something is: the place in it, and
the message.  The number is followed by other characters. -/
def numberFault? (written after : List Char) : Option (Nat × Nat × String) :=
  let isBased : Bool := match written with
    | '0' :: c :: _ => ['x', 'X', 'o', 'O', 'b', 'B'].contains c
    | _ => false
  let kind := match written with
    | '0' :: 'x' :: _ => "hexadecimal"
    | '0' :: 'X' :: _ => "hexadecimal"
    | '0' :: 'o' :: _ => "octal"
    | '0' :: 'O' :: _ => "octal"
    | '0' :: 'b' :: _ => "binary"
    | '0' :: 'B' :: _ => "binary"
    | _ => "decimal"
  let zeros := written.takeWhile (· == '0')
  let isWhole := written.all Char.isDigit
  if isBased ∧ written.length = 2 then
    some (written.length, 1, "invalid " ++ kind ++ " literal")
  else if ¬ isBased ∧ isWhole ∧ 0 < zeros.length ∧ zeros.length < written.length then
    some (1, zeros.length, "leading zeros in decimal integer literals are not permitted; " ++
      "use an 0o prefix for octal integers")
  else if after.head?.any fun c => isNameChar c then
    some (written.length, 1, "invalid " ++ kind ++ " literal")
  else none

/-! ### Texts -/

/-- The character that a letter stands for behind a backslash. -/
def escapedChar? (c : Char) : Option Char :=
  match c with
  | 'a' => some '\x07'
  | 'b' => some '\x08'
  | 'f' => some '\x0c'
  | 'n' => some '\n'
  | 'r' => some '\r'
  | 't' => some '\t'
  | 'v' => some '\x0b'
  | '\\' => some '\\'
  | '\'' => some '\''
  | '"' => some '"'
  | _ => none

/-- A text with the characters in place of their escapes.  The first argument bounds how many there
are. -/
def unescaped : Nat → List Char → List Char
  | 0, text => text
  | _ + 1, [] => []
  | fuel + 1, '\\' :: c :: rest =>
    let coded (digits : Nat) : List Char :=
      let (n, _) := digitsIn 16 (rest.take digits)
      Char.ofNat n :: unescaped fuel (rest.drop digits)
    match escapedChar? c with
    | some found => found :: unescaped fuel rest
    | none =>
      match c with
      | '\n' => unescaped fuel rest
      | 'x' => coded 2
      | 'u' => coded 4
      | 'U' => coded 8
      | c =>
        let digits := ((c :: rest).take 3).takeWhile fun d => (digitIn? 8 d).isSome
        if digits.isEmpty then '\\' :: c :: unescaped fuel rest
        else Char.ofNat (digitsIn 8 digits).1 :: unescaped fuel ((c :: rest).drop digits.length)
  | fuel + 1, c :: rest => c :: unescaped fuel rest

/-- The body of a text up to its end, with the last character in front, and the text after it. -/
def bodyAt (mark : List Char) : Nat → List Char → List Char → Option (List Char × List Char)
  | 0, _, _ => none
  | _ + 1, _, [] => none
  | fuel + 1, taken, c :: rest =>
    if mark.isPrefixOf (c :: rest) then some (taken, (c :: rest).drop mark.length)
    else if c = '\\' then
      match rest with
      | [] => none
      | d :: rest => bodyAt mark fuel (d :: '\\' :: taken) rest
    else if c = '\n' ∧ mark.length = 1 then none
    else bodyAt mark fuel (c :: taken) rest

/-- The letters in front of a text that say how it is read, the mark of its ends, and what follows
that. -/
def textStart? (text : List Char) : Option (List Char × List Char × List Char) :=
  let letters := text.takeWhile fun c => "rRbBuUfF".toList.contains c
  match text.drop letters.length with
  | c :: rest =>
    if letters.length ≤ 2 ∧ (c = '"' ∨ c = '\'') then
      match rest with
      | d :: e :: more =>
        if d = c ∧ e = c then some (letters.map Char.toLower, [c, c, c], more)
        else some (letters.map Char.toLower, [c], rest)
      | rest => some (letters.map Char.toLower, [c], rest)
    else none
  | [] => none

/-! ### Tokens -/

/-- The signs of more than one character, the longer ones first. -/
def longSigns : List (String × List Char) :=
  ["**=", "//=", ">>=", "<<=", "...", "==", "!=", "<=", ">=", "->", ":=", "+=", "-=", "*=", "/=",
    "%=", "&=", "|=", "^=", "**", "//", ">>", "<<"].map fun symbol => (symbol, symbol.toList)

/-- The signs of one character. -/
def isSignChar (c : Char) : Bool :=
  "()[]\x7b\x7d,:;.=+-*/%<>&|^~@!".toList.contains c

/-- A character that a name may begin with. -/
def startsName (c : Char) : Bool :=
  isNameStart c || 127 < c.toNat

/-- A character that a name may go on with. -/
def continuesName (c : Char) : Bool :=
  isNameChar c || 127 < c.toNat

/-- A bracket that is open, with its place. -/
structure OpenBracket where
  bracket : Char
  line : Nat
  column : Nat
deriving DecidableEq, Repr

/-- How far the reading of tokens has come: the place, the brackets that are open, and the
indentations, the innermost first. -/
structure Progress where
  line : Nat
  column : Nat
  brackets : List OpenBracket
  indents : List Nat
deriving DecidableEq, Repr

namespace Progress

/-- The place some characters further on. -/
def past (progress : Progress) (text : List Char) : Progress :=
  text.foldl (fun progress c =>
    if c = '\n' then { progress with line := progress.line + 1, column := 0 }
    else { progress with column := progress.column + 1 }) progress

/-- The token at the place. -/
def lexeme (progress : Progress) (token : Token) (width : Nat) : Lexeme :=
  ⟨token, progress.line, progress.column, width⟩

end Progress

/-- The bracket that a closing one belongs to. -/
def opening? (c : Char) : Option Char :=
  match c with
  | ')' => some '('
  | ']' => some '['
  | '\x7d' => some '\x7b'
  | _ => none

/-- The brackets after a sign. -/
def bracketsAfter (progress : Progress) (c : Char) : Except SyntaxFault (List OpenBracket) :=
  if c = '(' ∨ c = '[' ∨ c = '\x7b' then
    .ok (⟨c, progress.line, progress.column + 1⟩ :: progress.brackets)
  else
    match opening? c with
    | none => .ok progress.brackets
    | some bracket =>
      match progress.brackets with
      | [] =>
        .error (.usual ("unmatched '" ++ String.singleton c ++ "'") progress.line
          (progress.column + 1) 1)
      | last :: rest =>
        if last.bracket = bracket then .ok rest
        else
          .error (.usual ("closing parenthesis '" ++ String.singleton c ++
            "' does not match opening parenthesis '" ++ String.singleton last.bracket ++ "'")
            progress.line (progress.column + 1) 1)

/-- The tokens that come of the indentation of a line, and the indentations after it.  `lineWidth`
is how wide the whole line is. -/
def indentTokens (progress : Progress) (width lineWidth : Nat) :
    Except SyntaxFault (List Token × List Nat) :=
  let present := progress.indents.headD 0
  if present < width then .ok ([.indent], width :: progress.indents)
  else
    let left := progress.indents.dropWhile (width < ·)
    if left.headD 0 = width then
      .ok (List.replicate (progress.indents.length - left.length) .dedent, left)
    else
      .error ⟨"IndentationError", "unindent does not match any outer indentation level",
        progress.line, lineWidth + 1, 1⟩

/-- How wide the indentation at the front of a line is. -/
def indentWidth (text : List Char) : Nat :=
  text.foldl (fun n c => if c = '\t' then (n / 8 + 1) * 8 else n + 1) 0

/-- The tokens of a text.  `fresh` says that a line begins here. -/
def lexemes : Nat → Progress → Bool → List Char → Except SyntaxFault (List Lexeme)
  | 0, progress, _, _ => .ok [progress.lexeme .stop 1]
  | fuel + 1, progress, true, text => do
    let blanks := text.takeWhile fun c => c == ' ' || c == '\t' || c == '\x0c'
    let rest := text.drop blanks.length
    match rest with
    | '\n' :: rest => lexemes fuel (progress.past (blanks ++ ['\n'])) true rest
    | '\r' :: '\n' :: rest => lexemes fuel (progress.past (blanks ++ ['\n'])) true rest
    | '#' :: _ =>
      let comment := rest.takeWhile (· != '\n')
      let after := rest.drop comment.length
      if after.isEmpty then lexemes fuel (progress.past (blanks ++ comment)) true []
      else lexemes fuel (progress.past (blanks ++ comment ++ ['\n'])) true (after.drop 1)
    | [] =>
      let closing := progress.indents.map fun _ => progress.lexeme .dedent 1
      return closing ++ [progress.lexeme .stop 1]
    | rest => do
      let lineWidth := (text.takeWhile (· != '\n')).length
      let (tokens, indents) ← indentTokens progress (indentWidth blanks) lineWidth
      let progress := { progress.past blanks with indents }
      let rest ← lexemes fuel progress false rest
      return tokens.map (fun token => progress.lexeme token 1) ++ rest
  | fuel + 1, progress, false, text => do
    let add (token : Token) (taken rest : List Char) : Except SyntaxFault (List Lexeme) := do
      return progress.lexeme token taken.length :: (← lexemes fuel (progress.past taken) false rest)
    match text with
    | [] =>
      match progress.brackets with
      | open_ :: _ =>
        return [⟨.unclosed open_.bracket, open_.line, open_.column - 1, 1⟩]
      | [] =>
        return progress.lexeme .newline 1 :: (← lexemes fuel progress true [])
    | c :: rest =>
      match textStart? (c :: rest) with
      | some (letters, mark, body) =>
        let start := letters ++ mark
        match bodyAt mark (body.length + 1) [] body with
        | none =>
          if mark.length = 1 then
            throw (.usual ("unterminated string literal (detected at line " ++
              toString progress.line ++ ")") progress.line (progress.column + 1) 1)
          else
            let last := (progress.past (start ++ body)).line
            throw (.usual ("unterminated triple-quoted string literal (detected at line " ++
              toString last ++ ")") progress.line (progress.column + 1) 1)
        | some (taken, after) =>
          let content := taken.reverse
          let raw := letters.contains 'r'
          let token := if letters.contains 'f' then Token.format raw content
            else .text (String.ofList
              (if raw then content else unescaped (content.length + 1) content))
          add token (start ++ content ++ mark) after
      | none =>
        if isBlankChar c ∨ c = '\x0c' ∨ c = '\r' then
          lexemes fuel (progress.past [c]) false rest
        else if c = '\n' then
          if progress.brackets.isEmpty then
            return progress.lexeme .newline 1 :: (← lexemes fuel (progress.past [c]) true rest)
          else lexemes fuel (progress.past [c]) false rest
        else if c = '#' then
          let comment := (c :: rest).takeWhile (· != '\n')
          lexemes fuel (progress.past comment) false ((c :: rest).drop comment.length)
        else if c = '\\' ∧ rest.head? = some '\n' then
          lexemes fuel (progress.past [c, '\n']) false rest.tail
        else if startsName c then
          let name := (c :: rest).takeWhile continuesName
          add (.name (String.ofList name)) name ((c :: rest).drop name.length)
        else if c.isDigit ∨ (c = '.' ∧ rest.head?.any Char.isDigit) then
          let (literal, after) := numberAt (c :: rest)
          let written := (c :: rest).take (rest.length + 1 - after.length)
          match numberFault? written after with
          | some (place, width, message) =>
            throw (.usual message progress.line (progress.column + place) width)
          | none => add (.number literal) written after
        else
          match longSigns.find? fun sign => sign.2.isPrefixOf (c :: rest) with
          | some (symbol, shown) => add (.sign symbol) shown ((c :: rest).drop shown.length)
          | none =>
            if isSignChar c then
              let brackets ← bracketsAfter progress c
              let after := { progress.past [c] with brackets }
              return progress.lexeme (.sign (String.singleton c)) 1 ::
                (← lexemes fuel after false rest)
            else throw (.usual "invalid syntax" progress.line (progress.column + 1) 1)

/-- The tokens of a text. -/
def lexemesOf (text : List Char) : Except SyntaxFault (List Lexeme) :=
  lexemes (2 * text.length + 3) ⟨1, 0, [], []⟩ true text

end TaskRunner.Snippet
