import TaskRunner.Shell.Quote
import TaskRunner.Shell.Scan

/-! The words of scripts.  A cursor says how far a script has been read; a word is read off it piece
by piece, up to a character that does not belong to it any more. -/

namespace TaskRunner.Shell

/-- How the scripts of a shell are read: the language, the words that stand for other text, and
whether patterns may hold groups. -/
structure Setting where
  dialect : Dialect
  aliases : List (String × Text)
  groups : Bool

/-- A token with the line where a complaint about it shows, and with its text.  A word that is
watched for may be an alias wherever it stands. -/
structure Lexed where
  token : Token
  line : Nat
  source : Text
  watched : Bool

/-- A place in a script: the rest of the text, the number of its first line, and the token in front
of it if that has been looked at.  Documents are taken off the lines that follow before these are
reached; `held` counts their lines, and `lacking` tells of those whose end is missing: the line
where the document was asked for, the last line, and the text that should end it.  An alias in
`active` is not replaced again until no more is left than was behind it, and the first word from
`watch` on is watched for. -/
structure Cursor where
  rest : Text
  line : Nat
  token : Option Lexed
  held : Nat
  active : List (String × Nat)
  watch : Option Nat
  lacking : List (Nat × Nat × Text)

/-- The beginning of a script whose first line has a number. -/
def Cursor.start (text : Text) (line : Nat) : Cursor := ⟨text, line, none, 0, [], none, []⟩

/-- What reads something off a script and can do no more than move on or complain. -/
abbrev Stepping (α : Type) := StateT Cursor (Except SyntaxFault) α

/-- How a script is read: the setting, what reads the commands of a substitution and the parenthesis
that closes it, what reads a script between backquotes, and a bound on how deep things can be
nested. -/
structure Grammar where
  setting : Setting
  commands : Stepping Command
  script : Text → Except SyntaxFault Command
  room : Nat

/-- What reads something off a script, or complains about it. -/
abbrev Reading (α : Type) := ReaderT Grammar Stepping α

namespace Reading

/-- The language of the script. -/
def dialect : Reading Dialect := do
  return (← read).setting.dialect

/-- The complaint that shows here. -/
def reject {α : Type} (message : String) : Reading α := do
  throw (.said (← get).line ("Syntax error: " ++ message))

/-- Leaves characters behind. -/
def skip (count : Nat) : Reading Unit :=
  modify fun cursor =>
    { cursor with
      rest := cursor.rest.drop count
      line := cursor.line + lineCount (cursor.rest.take count) }

/-- The place after line feeds at the front that a backslash takes away. -/
def join : Text → Nat → Text × Nat
  | '\\' :: '\n' :: rest, line => join rest (line + 1)
  | rest, line => (rest, line)

/-- The text that is left, without line feeds at the front that a backslash takes away. -/
def ahead : Reading Text :=
  modifyGet fun cursor =>
    match join cursor.rest cursor.line with
    | (rest, line) => (rest, { cursor with rest, line })

/-- The complaint about a script that ends before a certain character.  It shows at the end, or
where the reading of what the character closes began. -/
def rejectUnclosed {α : Type} (message : String) (closing : Char) : Reading α := do
  skip (← get).rest.length
  match ← dialect with
  | .plain => reject message
  | .rich =>
    let message :=
      "unexpected EOF while looking for matching \x60" ++ String.singleton closing ++ "'"
    throw ⟨(← get).line, message, 2, false, true⟩

/-- Reads something that was opened on a line, where a complaint about a missing end shows. -/
def openedAt {α : Type} (line : Nat) (inner : Reading α) : Reading α := do
  try inner
  catch fault => throw (if fault.unclosed then { fault with line, unclosed := false } else fault)

end Reading

open Reading

/-- What pieces stand in, which decides what characters mean and where the pieces end: nothing at
all, the delimiter of a document, a pattern of the richer language, double quotes, braces that end
at one more character if there is one, a document, or an expression with open parentheses. -/
inductive Surroundings where
  | bare
  | delimiter
  | matching
  | group
  | quotes (nested : Bool)
  | braces (quoted : Bool) (stop : Option Char)
  | document
  | sum (depth : Nat)
deriving DecidableEq, Repr

namespace Surroundings

/-- Characters in these surroundings are quoted. -/
def isQuoting : Surroundings → Bool
  | quotes _ => true
  | braces quoted _ => quoted
  | document => true
  | sum _ => true
  | _ => false

/-- A backslash takes the meaning from a double quote. -/
def escapesQuote : Surroundings → Bool
  | document => false
  | _ => true

/-- A backslash takes the meaning from a closing brace. -/
def escapesBrace : Surroundings → Bool
  | quotes nested => nested
  | braces _ _ => true
  | _ => false

/-- The pieces end before the rest of a text. -/
def endsAt (around : Surroundings) (c : Char) (rest : Text) : Bool :=
  match around with
  | bare => isMeta c
  | delimiter => isMeta c
  | matching => c == ' ' || c == '\t' || c == '\n'
  | group => c == ')'
  | quotes _ => c == '"'
  | braces _ stop => c == '\x7d' || some c == stop
  | document => false
  | sum depth => depth == 0 && c == ')' && rest.head? == some ')'

/-- Double quotes mean nothing but themselves here. -/
def keepsQuotes : Surroundings → Bool
  | document => true
  | sum _ => true
  | _ => false

/-- These are braces. -/
def isBraces : Surroundings → Bool
  | braces _ _ => true
  | _ => false

/-- The surroundings behind an opening parenthesis. -/
def opened : Surroundings → Surroundings
  | sum depth => sum (depth + 1)
  | around => around

/-- The surroundings behind a closing parenthesis. -/
def closed : Surroundings → Surroundings
  | sum depth => sum (depth - 1)
  | around => around

/-- The complaint about a script that ends in these surroundings, and the character that is missing.
-/
def unclosed? : Surroundings → Option (String × Char)
  | quotes _ => some ("Unterminated quoted string", '"')
  | braces true _ => some ("Unterminated quoted string", '\x7d')
  | braces false _ => some ("Missing '\x7d'", '\x7d')
  | sum _ => some ("Missing '))'", ')')
  | group => some ("Missing ')'", ')')
  | _ => none

end Surroundings

/-- The characters of a text between `$'` and the next quote, and the text after it. -/
def closeEscaped : Text → Option (Text × Text)
  | [] => none
  | '\'' :: cs => some ([], cs)
  | '\\' :: c :: cs => (closeEscaped cs).map fun r => ('\\' :: c :: r.1, r.2)
  | c :: cs => (closeEscaped cs).map fun r => (c :: r.1, r.2)

/-- The digits at the front of a text, at most `most` of them, as a number, and the text after
them. -/
def takeDigits (base most : Nat) (text : Text) : Option (Nat × Text) :=
  let isDigit (c : Char) : Bool := (hexDigit? c).any (· < base)
  let digits := (text.take most).takeWhile isDigit
  if digits.isEmpty then none
  else some (digits.foldl (fun n c => base * n + (hexDigit? c).getD 0) 0, text.drop digits.length)

/-- What the text between `$'` and the next quote stands for. -/
def unescaped : Nat → Text → Text
  | 0, text => text
  | _ + 1, [] => []
  | fuel + 1, '\\' :: c :: cs =>
    let numbered (base most : Nat) (text : Text) (isByte : Bool) : Text :=
      match takeDigits base most text with
      | some (n, rest) =>
        (if isByte then [Char.ofNat (n % 256)] else numberedChar n) ++ unescaped fuel rest
      | none => '\\' :: c :: unescaped fuel cs
    match c with
    | 'a' => '\x07' :: unescaped fuel cs
    | 'b' => '\x08' :: unescaped fuel cs
    | 'e' => '\x1b' :: unescaped fuel cs
    | 'E' => '\x1b' :: unescaped fuel cs
    | 'f' => '\x0c' :: unescaped fuel cs
    | 'n' => '\n' :: unescaped fuel cs
    | 'r' => '\r' :: unescaped fuel cs
    | 't' => '\t' :: unescaped fuel cs
    | 'v' => '\x0b' :: unescaped fuel cs
    | '\\' => '\\' :: unescaped fuel cs
    | '\'' => '\'' :: unescaped fuel cs
    | '"' => '"' :: unescaped fuel cs
    | '?' => '?' :: unescaped fuel cs
    | 'x' => numbered 16 2 cs true
    | 'u' => numbered 16 4 cs false
    | 'U' => numbered 16 8 cs false
    | _ => if c.isDigit then numbered 8 3 (c :: cs) true else '\\' :: c :: unescaped fuel cs
  | fuel + 1, c :: cs => c :: unescaped fuel cs

/-- The name of a parameter at the front of a text, with its characters. -/
def nameAt? (text : Text) : Option Text :=
  match text with
  | c :: _ =>
    if isNameStart c then some (text.takeWhile isNameChar)
    else if c.isDigit then some (text.takeWhile Char.isDigit)
    else none
  | [] => none

/-- Reads the parameter inside braces, and whether its length is meant. -/
def readName : Reading (String × Bool) := do
  match ← ahead with
  | '#' :: rest =>
    match nameAt? rest with
    | some name =>
      skip (name.length + 1)
      return (String.ofList name, true)
    | none =>
      match rest with
      | c :: '\x7d' :: _ =>
        if isSpecial c then
          skip 2
          return (String.singleton c, true)
        else
          skip 1
          return ("#", false)
      | _ =>
        skip 1
        return ("#", false)
  | text =>
    match nameAt? text, text with
    | some name, _ =>
      skip name.length
      return (String.ofList name, false)
    | none, c :: _ =>
      if isSpecial c then
        skip 1
        return (String.singleton c, false)
      else return ("", false)
    | none, [] => return ("", false)

/-- Reads the text between single quotes, from behind the opening one. -/
def readQuoted : Reading Text := do
  let rest := (← get).rest
  let content := rest.takeWhile (· != '\'')
  if content.length = rest.length then rejectUnclosed "Unterminated quoted string" '\''
  skip (content.length + 1)
  return content

/-- The pieces between double quotes, with a mark that something is quoted even if it comes to
nothing.  All arguments by themselves may come to no word at all. -/
def quotedPieces : Word → Word
  | [] => [.text true []]
  | [.parameter true "@" none .value] => [.parameter true "@" none .value]
  | .parameter quoted name index operation :: rest =>
    .text true [] :: .parameter quoted name index operation :: rest
  | word => word

/-- The character makes a group of the parentheses that follow it, in a pattern. -/
def isGroupSign (c : Char) : Bool :=
  c == '?' || c == '*' || c == '+' || c == '@' || c == '!'

/-- Two words as one. -/
def joinWords (first second : Word) : Word :=
  first.foldr (fun piece rest =>
    match piece with
    | .text quoted content => consText quoted content rest
    | piece => piece :: rest) second

mutual

/-- Reads pieces, up to where their surroundings end. -/
def readPieces : Nat → Surroundings → Reading Word
  | 0, _ => reject "out of room"
  | fuel + 1, around => do
    let quoting := around.isQuoting
    match ← ahead with
    | [] =>
      match around.unclosed? with
      | some (message, closing) => rejectUnclosed message closing
      | none => return []
    | c :: cs =>
      if (← dialect) = .rich ∧ around = .bare ∧ (c = '<' ∨ c = '>') ∧ cs.head? = some '(' then
        skip 2
        let command ← (← read).commands
        return .stream (c == '<') command :: (← readPieces fuel around)
      else if around.endsAt c cs then return []
      else
        let plain (text : Text) (around : Surroundings) : Reading Word := do
          skip text.length
          return consText quoting text (← readPieces fuel around)
        match c with
        | '\\' =>
          skip 1
          match cs with
          | [] => return [.text true ['\\']]
          | d :: _ =>
            let kept := quoting && !(d == '\\' || d == '\x60' || d == '$' ||
              (d == '"' && around.escapesQuote) || (d == '\x7d' && around.escapesBrace))
            skip 1
            return consText true (if kept then ['\\', d] else [d]) (← readPieces fuel around)
        | '\'' =>
          if quoting then plain [c] around
          else
            let line := (← get).line
            skip 1
            let content ← openedAt line readQuoted
            return consText true content (← readPieces fuel around)
        | '"' =>
          if around.keepsQuotes then plain [c] around
          else
            let line := (← get).line
            skip 1
            let content ← openedAt line (readPieces fuel (.quotes around.isBraces))
            skip 1
            return quotedPieces content ++ (← readPieces fuel around)
        | '$' =>
          if around = .delimiter then plain [c] around
          else
            skip 1
            match ← readDollar fuel quoting with
            | some pieces => return pieces ++ (← readPieces fuel around)
            | none => return consText quoting [c] (← readPieces fuel around)
        | '\x60' =>
          if around = .delimiter then plain [c] around
          else
            skip 1
            match closeBackquote (quoting && around != .document) cs with
            | none =>
              openedAt (← get).line (rejectUnclosed "EOF in backquote substitution" '\x60')
            | some (inside, rest) =>
              let command : Command ← match ← dialect, (← read).script inside with
                | _, .ok command => pure command
                | .plain, .error fault => throw fault
                | .rich, .error fault => pure (.unread (fault.complaint inside))
              skip (cs.length - rest.length)
              return .output quoting command :: (← readPieces fuel around)
        | '(' =>
          if around = .group then
            skip 1
            let inside ← readPieces fuel .group
            skip 1
            let rest ← readPieces fuel around
            return consText false [c] (joinWords inside (consText false [')'] rest))
          else plain [c] around.opened
        | ')' => plain [c] around.closed
        | _ =>
          let run := (c :: cs).takeWhile isOrdinary
          let signs := run.reverse.takeWhile isGroupSign
          if (← read).setting.groups ∧ around = .bare ∧ ¬ signs.isEmpty ∧
              (c :: cs)[run.length]? = some '(' then
            skip (run.length + 1)
            let inside ← openedAt (← get).line (readPieces fuel .group)
            skip 1
            let rest ← readPieces fuel around
            return consText false (run ++ ['(']) (joinWords inside (consText false [')'] rest))
          else plain (if run.isEmpty then [c] else run) around

/-- Reads what a dollar sign begins, if it begins anything. -/
def readDollar : Nat → Bool → Reading (Option Word)
  | 0, _ => reject "out of room"
  | fuel + 1, quoted => do
    let text ← ahead
    match text with
    | '(' :: _ =>
      skip 1
      match ← ahead with
      | '(' :: _ =>
        let line := (← get).line
        skip 1
        let expression ← openedAt line (readPieces fuel (.sum 0))
        skip 2
        return some [.arithmetic quoted expression]
      | _ => return some [.output quoted (← (← read).commands)]
    | '\x7b' :: _ =>
      let line := (← get).line
      skip 1
      return some [← openedAt line (readBraced fuel quoted)]
    | '\'' :: rest =>
      if (← dialect) = .plain ∨ quoted then return none
      else
        match closeEscaped rest with
        | none => openedAt (← get).line (rejectUnclosed "Unterminated quoted string" '\'')
        | some (content, _) =>
          skip (content.length + 2)
          return some [.text true (unescaped (content.length + 1) content)]
    | '"' :: _ =>
      if (← dialect) = .plain ∨ quoted then return none
      else
        let line := (← get).line
        skip 1
        let content ← openedAt line (readPieces fuel (.quotes false))
        skip 1
        return some (quotedPieces content)
    | c :: _ =>
      let name := if isNameStart c then text.takeWhile isNameChar
        else if c.isDigit ∨ isSpecial c then [c]
        else []
      if name = [] then return none
      else
        skip name.length
        return some [.parameter quoted (String.ofList name) none .value]
    | [] => return none

/-- Reads the parameter that stands in braces, from behind the opening one. -/
def readBraced : Nat → Bool → Reading Piece
  | 0, _ => reject "out of room"
  | fuel + 1, quoted => do
    let rich := (← dialect) == .rich
    let text ← ahead
    let indirect := rich && text.head? == some '!' &&
      ((nameAt? (text.drop 1)).isSome || (text.drop 1).take 2 == ['#', '\x7d'])
    if indirect then skip 1
    let (name, counted) ← readName
    let mut index := none
    if rich ∧ name ≠ "" ∧ (← ahead).head? = some '[' then
      skip 1
      index := some (← readPieces fuel (.braces false (some ']')))
      skip 1
    let operation ← readOperation fuel quoted name counted indirect
    let source := text.take (text.length - (← get).rest.length)
    skip 1
    match operation with
    | .bad _ => return .parameter quoted name index (.bad source)
    | operation => return .parameter quoted name index operation

/-- Reads what is made of a parameter, up to the closing brace. -/
def readOperation : Nat → Bool → String → Bool → Bool → Reading Operation
  | 0, _, _, _, _ => reject "out of room"
  | fuel + 1, quoted, name, counted, indirect => do
    let rich := (← dialect) == .rich
    let word (operation : Word → Operation) : Reading Operation := do
      return operation (← readPieces fuel (.braces quoted none))
    let bad : Reading Operation := word fun _ => .bad []
    match ← ahead with
    | [] => bad
    | c :: rest =>
      if name = "" then bad
      else if counted then (if c = '\x7d' then return .length else bad)
      else if c = '\x7d' then return if indirect then .indirect else .value
      else
        skip 1
        match c, Fallback.of? c with
        | ':', _ =>
          match ← ahead with
          | [] => bad
          | d :: _ =>
            match Fallback.of? d with
            | some kind =>
              skip 1
              word (.fallback kind true)
            | none =>
              if rich then
                let start ← readPieces fuel (.braces true (some ':'))
                if (← ahead).head? = some ':' then
                  skip 1
                  word fun length => .slice start (some length)
                else return .slice start none
              else
                skip 1
                if d = '\x7d' then word fun _ => .value else bad
        | _, some kind => word (.fallback kind false)
        | _, none =>
          if c = '#' ∨ c = '%' then
            let longest := (← ahead).head? == some c
            if longest then skip 1
            return .cut (c == '%') longest (← readPieces fuel (.braces false none))
          else if ¬ rich then bad
          else if c = '/' then
            let which : Replaced := match rest with
              | '/' :: _ => .every
              | '#' :: _ => .front
              | '%' :: _ => .back
              | _ => .first
            if which ≠ .first then skip 1
            let pattern ← readPieces fuel (.braces false (some '/'))
            if (← ahead).head? = some '/' then
              skip 1
              return .replace which pattern (← readPieces fuel (.braces false none))
            else return .replace which pattern []
          else if let some letters := LetterCase.ofSign? c then
            let all := rest.head? == some c
            if all then skip 1
            word fun pattern => .recase letters all pattern
          else if indirect ∧ (c = '*' ∨ c = '@') ∧ rest.head? = some '\x7d' then return .keys
          else if c = '@' ∧ rest.tail.head? = some '\x7d' ∧
              "UuLQEPAKak".toList.contains (rest.headD ' ') then
            skip 1
            return .transform (rest.headD ' ')
          else bad

end

/-- Reads the pieces that stand in some surroundings. -/
def readWord (around : Surroundings) : Reading Word := do
  readPieces (← read).room around

end TaskRunner.Shell
