import TaskRunner.Records.Script

/-! The tokens that scripts for records are written in. -/

namespace TaskRunner.Records

/-- A token of a script.  A call is a name with a bracket right behind it. -/
inductive Token where
  | number (x : Float)
  | text (text : Text)
  | regex (text : Text)
  | word (name : String)
  | call (name : String)
  | sign (symbol : String)
  | newline
  | stop

/-- A token where it stands, as it is written. -/
structure Lexeme where
  token : Token
  shown : Text
  line : Nat

instance : Inhabited Lexeme := ⟨⟨.stop, [], 0⟩⟩

/-! ### Escapes in texts -/

/-- The character that digits in a base stand for, and the text after them. -/
def numberedChar (base most : Nat) (text : Text) : Option (Char × Text) :=
  let digits := (text.take most).takeWhile fun c => (hexDigit? c).any (· < base)
  if digits.isEmpty then none
  else
    let n := digits.foldl (fun n c => base * n + (hexDigit? c).getD 0) 0
    some (Char.ofNat (n % 256), text.drop digits.length)

/-- The character that a letter stands for behind a backslash. -/
def escapedChar? (c : Char) : Option Char :=
  match c with
  | 'a' => some '\x07'
  | 'b' => some '\x08'
  | 'f' => some '\x0c'
  | 'n' => some '\n'
  | 'r' => some '\r'
  | 't' => some '\t'
  | 'v' => some '\x0b'
  | _ => none

/-- The character behind a backslash at the front of a text, and the text after it. -/
def escapeAt? : Text → Option (Char × Text)
  | [] => none
  | c :: rest =>
    match escapedChar? c with
    | some found => some (found, rest)
    | none => numberedChar 8 3 (c :: rest)

/-- A text with the characters in place of their escapes.  The first argument bounds how many there
are. -/
def plainText : Nat → Text → Text
  | 0, text => text
  | _ + 1, [] => []
  | fuel + 1, '\\' :: rest =>
    match rest with
    | [] => ['\\']
    | '"' :: rest => '"' :: plainText fuel rest
    | '\\' :: rest => '\\' :: plainText fuel rest
    | '\n' :: rest => plainText fuel rest
    | 'x' :: rest =>
      match numberedChar 16 2 rest with
      | some (c, rest) => c :: plainText fuel rest
      | none => '\\' :: 'x' :: plainText fuel rest
    | d :: more =>
      match escapeAt? (d :: more) with
      | some (c, rest) => c :: plainText fuel rest
      | none => '\\' :: d :: plainText fuel more
  | fuel + 1, c :: rest => c :: plainText fuel rest

/-- The text that a string in a script stands for. -/
def unescaped (text : Text) : Text :=
  if text.contains '\\' then plainText (text.length + 1) text else text

/-! ### Expressions -/

/-- The character has a meaning of its own in an expression. -/
def isMeta (c : Char) : Bool :=
  ".[]()*+?\x7b\x7d|^$\\".toList.contains c

/-- A bracket of an expression that is being read: whether it is negated, the members, the last
character in front, and which characters have to be put where they stand for themselves. -/
structure Bracket where
  negated : Bool
  members : Text
  closes : Bool
  caret : Bool
  dash : Bool
deriving DecidableEq, Repr

namespace Bracket

/-- The bracket with a member that stands for itself. -/
def add (bracket : Bracket) (c : Char) : Bracket :=
  match c with
  | ']' => { bracket with closes := true }
  | '^' => { bracket with caret := true }
  | '-' => { bracket with dash := true }
  | c => { bracket with members := c :: bracket.members }

/-- The bracket as it is written without escapes. -/
def render (bracket : Bracket) : Text :=
  let members := bracket.members.reverse
  if members.isEmpty ∧ bracket.caret ∧ ¬ bracket.closes ∧ ¬ bracket.negated then
    if bracket.dash then "[-^]".toList else ['\\', '^']
  else
    '[' :: (if bracket.negated then ['^'] else []) ++ (if bracket.closes then [']'] else []) ++
      members ++ (if bracket.caret then ['^'] else []) ++
      (if bracket.dash then ['-'] else []) ++ [']']

/-- Reads the members of a bracket up to its end, and yields the text after it. -/
def read : Nat → Bool → Bracket → Text → Option (Bracket × Text)
  | 0, _, _, _ => none
  | _ + 1, _, _, [] => none
  | fuel + 1, first, bracket, ']' :: rest =>
    if first then read fuel false { bracket with closes := true } rest else some (bracket, rest)
  | fuel + 1, _, bracket, '\\' :: rest =>
    match escapeAt? rest, rest with
    | some (c, rest), _ => read fuel false (bracket.add c) rest
    | none, c :: rest => read fuel false (bracket.add c) rest
    | none, [] => none
  | fuel + 1, _, bracket, '[' :: ':' :: rest =>
    let name := rest.takeWhile (· != ':')
    let members := ':' :: '[' :: bracket.members
    match rest.drop name.length with
    | ':' :: ']' :: rest =>
      read fuel false { bracket with members := ']' :: ':' :: (name.reverse ++ members) } rest
    | _ => read fuel false { bracket with members } rest
  | fuel + 1, _, bracket, c :: rest =>
    read fuel false { bracket with members := c :: bracket.members } rest

end Bracket

/-- Why a text is no expression. -/
inductive RegexFault where
  | openGroup
  | openBracket
  | noOperand
deriving DecidableEq, Repr

/-- The text shown to a user. -/
def RegexFault.message : RegexFault → String
  | openGroup => "missing ')'"
  | openBracket => "bad class -- [], [^] or ["
  | noOperand => "missing operand"

/-- An expression as it is written without the escapes that only scripts for records know.  `fresh`
says that nothing stands before that could be repeated. -/
def plainRegex : Nat → Bool → Text → Except RegexFault Text
  | 0, _, text => .ok text
  | _ + 1, _, [] => .ok []
  | fuel + 1, _, '\\' :: rest =>
    match escapeAt? rest, rest with
    | some (c, rest), _ => do
      let front := if isMeta c then ['\\', c] else [c]
      return front ++ (← plainRegex fuel false rest)
    | none, c :: rest => do
      let front := if isMeta c then ['\\', c] else [c]
      return front ++ (← plainRegex fuel false rest)
    | none, [] => .ok ['\\', '\\']
  | fuel + 1, _, '[' :: rest =>
    let (negated, members) := match rest with
      | '^' :: members => (true, members)
      | members => (false, members)
    match Bracket.read (members.length + 1) true ⟨negated, [], false, false, false⟩ members with
    | none => .error .openBracket
    | some (bracket, rest) => do
      return bracket.render ++ (← plainRegex fuel false rest)
  | fuel + 1, fresh, c :: rest =>
    if fresh ∧ ['*', '+', '?', '|'].contains c then .error .noOperand
    else if c = '|' ∧ rest.isEmpty then .error .noOperand
    else if c = '\x7b' ∧ rest.head? = some ',' then do
      return '\\' :: c :: (← plainRegex fuel false rest)
    else do
      return c :: (← plainRegex fuel (c == '(' || c == '|') rest)

/-- The expression that a text stands for. -/
def matcherOf (text : Text) : Except RegexFault Regex.Matcher := do
  let plain ← plainRegex (text.length + 1) true text
  match Regex.ofText ⟨true, false⟩ plain with
  | .ok regex => return regex.matcher false false
  | .error .openBracket => throw .openBracket
  | .error .incomplete => throw .openBracket
  | .error _ => throw .openGroup

/-! ### Tokens -/

/-- Why a text is no row of tokens. -/
inductive TokenFault where
  | openString (line : Nat) (text : Text)
  | openRegex (line : Nat) (text : Text)
  | unexpected (line : Nat) (c : Char)
deriving DecidableEq, Repr

/-- The signs of two characters and more. -/
def longSigns : List (String × Text) :=
  ["&&", "||", "++", "--", "+=", "-=", "*=", "/=", "%=", "^=", "==", "<=", ">=", "!=", "!~",
    ">>"].map fun symbol => (symbol, symbol.toList)

/-- The signs of one character. -/
def isSignChar (c : Char) : Bool :=
  "\x7b\x7d()[];,+-*/%^!><|?:~$=".toList.contains c

/-- An operand ends with a token, so that a stroke behind it divides. -/
def endsOperand : Token → Bool
  | .number _ => true
  | .text _ => true
  | .word name => ¬ ["print", "printf", "return", "in", "else", "do", "getline"].contains name
  | .sign symbol => [")", "]", "$", "++", "--"].contains symbol
  | _ => false

/-- The text of a string up to its end, with the last character in front, and the text after it. -/
def stringAt : Text → Text → Option (Text × Text)
  | _, [] => none
  | taken, '"' :: rest => some (taken, rest)
  | _, '\n' :: _ => none
  | taken, '\\' :: c :: rest => stringAt (c :: '\\' :: taken) rest
  | taken, c :: rest => stringAt (c :: taken) rest

/-- The text of an expression up to its end, with the last character in front, and the text after
it. `inside` says that a bracket has begun, and how far it has come. -/
def regexAt : Option Nat → Text → Text → Option (Text × Text)
  | _, _, [] => none
  | _, _, '\n' :: _ => none
  | inside, taken, '\\' :: c :: rest =>
    if c = '/' then regexAt (inside.map (· + 1)) (c :: taken) rest
    else regexAt (inside.map (· + 1)) (c :: '\\' :: taken) rest
  | none, taken, '/' :: rest => some (taken, rest)
  | none, taken, '[' :: rest => regexAt (some 0) ('[' :: taken) rest
  | some 0, taken, '^' :: rest => regexAt (some 0) ('^' :: taken) rest
  | some n, taken, ']' :: rest =>
    regexAt (if n = 0 then some 1 else none) (']' :: taken) rest
  | inside, taken, c :: rest => regexAt (inside.map (· + 1)) (c :: taken) rest

/-- A word as a token: in front of a bracket it is a call, unless it means something of its own. -/
def wordToken (name : String) (rest : Text) : Token :=
  let own := ["BEGIN", "END", "function", "func", "if", "else", "while", "for", "do", "break",
    "continue", "next", "nextfile", "exit", "return", "delete", "in", "getline", "print", "printf"]
  if own.contains name ∨ (Builtin.all.lookup name).isSome ∨ rest.head? ≠ some '(' then .word name
  else .call name

/-- The rest of a line, for a complaint. -/
def restOfLine (text : Text) : Text :=
  text.takeWhile (· != '\n')

/-- The tokens of a text, with the last one before it. -/
def lexemes : Nat → Nat → Token → Text → Except TokenFault (List Lexeme)
  | 0, line, _, _ => .ok [⟨.stop, [], line⟩]
  | _ + 1, line, _, [] => .ok [⟨.stop, [], line⟩]
  | fuel + 1, line, last, c :: rest =>
    let add (token : Token) (shown rest : Text) : Except TokenFault (List Lexeme) := do
      return ⟨token, shown, line⟩ :: (← lexemes fuel line token rest)
    if isBlankChar c ∨ c = '\r' then lexemes fuel line last rest
    else if c = '\\' ∧ rest.head? = some '\n' then lexemes fuel (line + 1) last (rest.drop 1)
    else if c = '\\' ∧ "\r\n".toList.isPrefixOf rest then
      lexemes fuel (line + 1) last (rest.drop 2)
    else if c = '\n' then do
      return ⟨.newline, [], line⟩ :: (← lexemes fuel (line + 1) .newline rest)
    else if c = '#' then lexemes fuel line last (rest.dropWhile (· != '\n'))
    else if c = '"' then
      match stringAt [] rest with
      | none => .error (.openString line (restOfLine (c :: rest)))
      | some (taken, after) =>
        add (.text (unescaped taken.reverse)) ((c :: rest).take (taken.length + 2)) after
    else if isNameStart c then
      let name := (c :: rest).takeWhile isNameChar
      let after := (c :: rest).drop name.length
      add (wordToken (String.ofList name) after) name after
    else if c.isDigit ∨ (c = '.' ∧ rest.head?.any Char.isDigit) then
      match Fraction.decimalAt? (c :: rest) with
      | some (x, after) =>
        add (.number x) ((c :: rest).take (rest.length + 1 - after.length)) after
      | none => .error (.unexpected line c)
    else if c = '/' ∧ ¬ endsOperand last then
      match regexAt none [] rest with
      | none => .error (.openRegex line (restOfLine (c :: rest)))
      | some (taken, after) =>
        add (.regex taken.reverse) ((c :: rest).take (rest.length + 1 - after.length)) after
    else
      match longSigns.find? fun sign => sign.2.isPrefixOf (c :: rest) with
      | some (symbol, shown) => add (.sign symbol) shown (rest.drop 1)
      | none =>
        if isSignChar c then add (.sign (String.singleton c)) [c] rest
        else .error (.unexpected line c)

end TaskRunner.Records
