import TaskRunner.Snippet.Token

/-! Reading snippets. -/

namespace TaskRunner.Snippet

/-- A snippet that is being read: the tokens that are left, the last one that was passed over, and
whether functions and loops are open around them. -/
structure Reader where
  rest : List Lexeme
  last : Lexeme
  inFunction : Bool
  inLoop : Bool

/-- What reads something off a snippet, or finds fault with it. -/
abbrev Reading := StateT Reader (Except SyntaxFault)

/-- The next token where it stands. -/
def peekLexeme : Reading Lexeme := do
  return (← get).rest.headD default

/-- The next token. -/
def peek : Reading Token := do
  return (← peekLexeme).token

/-- Passes the next token over. -/
def skip : Reading Unit :=
  modify fun reader =>
    { reader with rest := reader.rest.tail, last := reader.rest.headD default }

/-- The fault with a bracket that is never closed. -/
def unclosedFault (bracket : Char) (place : Lexeme) : SyntaxFault :=
  .usual ("'" ++ String.singleton bracket ++ "' was never closed") place.line (place.column + 1) 1

/-- Finds fault with the snippet.  A bracket that is never closed and that stands on a line before
the next token goes before other faults. -/
def refuse {α : Type} (fault : SyntaxFault) : Reading α := do
  let reader ← get
  let next := reader.rest.headD default
  let last := reader.rest.getLastD default
  match last.token with
  | .unclosed bracket =>
    if last.line < next.line ∨ reader.rest.length ≤ 1 then throw (unclosedFault bracket last)
    else throw fault
  | _ => throw fault

/-- Finds fault with the next token. -/
def wrong {α : Type} (message : String) : Reading α := do
  let lexeme ← peekLexeme
  match lexeme.token with
  | .indent => refuse (.indentation "unexpected indent" lexeme.line)
  | _ => refuse (.usual message lexeme.line (lexeme.column + 1) lexeme.width)

/-- Finds fault with what stands between a token and the last one that was passed over. -/
def wrongSince {α : Type} (start : Lexeme) (message : String) : Reading α := do
  let last := (← get).last
  let width := if last.line = start.line then last.column + last.width - start.column
    else start.width
  refuse (.usual message start.line (start.column + 1) width)

/-- Finds that the next token may not stand here. -/
def unexpected {α : Type} : Reading α := wrong "invalid syntax"

/-- The token ends an indentation. -/
def Lexeme.isDedent (lexeme : Lexeme) : Bool :=
  match lexeme.token with
  | .dedent => true
  | _ => false

/-- The next token is a sign. -/
def atSign (symbol : String) : Reading Bool := do
  match ← peek with
  | .sign other => return other == symbol
  | _ => return false

/-- The next token is a word. -/
def atWord (word : String) : Reading Bool := do
  match ← peek with
  | .name other => return other == word
  | _ => return false

/-- Passes a sign over if it comes next. -/
def acceptSign (symbol : String) : Reading Bool := do
  if ← atSign symbol then
    skip
    return true
  else return false

/-- Passes a word over if it comes next. -/
def acceptWord (word : String) : Reading Bool := do
  if ← atWord word then
    skip
    return true
  else return false

/-- Passes over a sign that has to come next. -/
def expectSign (symbol : String) : Reading Unit := do
  if ¬ (← acceptSign symbol) then unexpected

/-- Passes over a word that has to come next. -/
def expectWord (word : String) : Reading Unit := do
  if ¬ (← acceptWord word) then unexpected

/-- The words that are no names. -/
def isKeyword (word : String) : Bool :=
  ["False", "None", "True", "and", "as", "assert", "async", "await", "break", "class", "continue",
    "def", "del", "elif", "else", "except", "finally", "for", "from", "global", "if", "import",
    "in", "is", "lambda", "nonlocal", "not", "or", "pass", "raise", "return", "try", "while",
    "with", "yield"].contains word

/-- Reads a name. -/
def name : Reading String := do
  match ← peek with
  | .name word =>
    if isKeyword word then unexpected
    skip
    return word
  | _ => unexpected

/-- The relation that comes next. -/
def relation? : Reading (Option Relation) := do
  let plain (relation : Relation) : Reading (Option Relation) := do
    skip
    return some relation
  match ← peek with
  | .sign "<" => plain .less
  | .sign "<=" => plain .notMore
  | .sign "==" => plain .equal
  | .sign "!=" => plain .unequal
  | .sign ">" => plain .more
  | .sign ">=" => plain .notLess
  | .name "in" => plain .within
  | .name "is" => do
    skip
    if ← acceptWord "not" then return some .notSame else return some .same
  | .name "not" =>
    match (← get).rest with
    | _ :: ⟨.name "in", _, _, _⟩ :: _ => do
      skip
      plain .notWithin
    | _ => return none
  | _ => return none

/-- The levels of operators, from the loosest to the tightest. -/
def operatorLevels : List (List (String × Operator)) :=
  [[("|", .eitherBits)], [("^", .oddBits)], [("&", .bothBits)],
    [("<<", .shiftUp), (">>", .shiftDown)], [("+", .add), ("-", .subtract)],
    [("*", .multiply), ("/", .divide), ("//", .divideWhole), ("%", .remainder)]]

/-- The operator of an assignment that changes a value. -/
def changing? (symbol : String) : Option Operator :=
  [("+=", Operator.add), ("-=", .subtract), ("*=", .multiply), ("/=", .divide),
    ("//=", .divideWhole), ("%=", .remainder), ("**=", .power), ("&=", .bothBits),
    ("|=", .eitherBits), ("^=", .oddBits), ("<<=", .shiftUp), (">>=", .shiftDown)].lookup symbol

/-- A token that begins an expression comes next. -/
def atExpression : Reading Bool := do
  match ← peek with
  | .name word =>
    return !isKeyword word || ["False", "None", "True", "not", "lambda"].contains word
  | .number _ => return true
  | .text _ => return true
  | .format _ _ => return true
  | .sign symbol => return ["(", "[", "\x7b", "-", "+", "~", "...", "*"].contains symbol
  | _ => return false

/-- The text of an expression in a text up to its end, with the last character in front, and the
text after it.  `open_` counts the brackets, and `quote` is the mark of a text inside. -/
def valueSource : Nat → Nat → Option Char → List Char → List Char →
    Option (List Char × List Char)
  | 0, _, _, _, _ => none
  | _ + 1, _, _, _, [] => none
  | fuel + 1, open_, some quote, taken, c :: rest =>
    valueSource fuel open_ (if c = quote then none else some quote) (c :: taken) rest
  | fuel + 1, open_, none, taken, c :: rest =>
    if c = '\'' ∨ c = '"' then valueSource fuel open_ (some c) (c :: taken) rest
    else if ['(', '[', '\x7b'].contains c then
      valueSource fuel (open_ + 1) none (c :: taken) rest
    else if open_ = 0 ∧ c = '!' ∧ rest.head? = some '=' then
      valueSource fuel open_ none ('=' :: c :: taken) rest.tail
    else if open_ = 0 ∧ ['\x7d', ':', '!'].contains c then some (taken, c :: rest)
    else if [')', ']', '\x7d'].contains c then
      valueSource fuel (open_ - 1) none (c :: taken) rest
    else valueSource fuel open_ none (c :: taken) rest

/-- The text that pieces are together. -/
def joined (pieces : List Piece) : Expr :=
  let isText : Piece → Bool
    | .text _ => true
    | _ => false
  if pieces.all isText then
    .literal (.text (pieces.foldl (fun text piece => match piece with
      | .text more => text ++ more
      | _ => text) ""))
  else .format pieces

/-- The text that says how a value is laid out, with the last character in front, and the text after
it.  `open_` counts the braces. -/
def specificationEnd : Nat → Nat → List Char → List Char → Option (List Char × List Char)
  | 0, _, _, _ => none
  | _ + 1, _, _, [] => none
  | fuel + 1, open_, taken, c :: rest =>
    if c = '\x7d' then
      if open_ = 0 then some (taken, c :: rest)
      else specificationEnd fuel (open_ - 1) (c :: taken) rest
    else specificationEnd fuel (if c = '\x7b' then open_ + 1 else open_) (c :: taken) rest

/-- What kind of expression an expression is, as users are told. -/
def Expr.description : Expr → String
  | .literal .none => "None"
  | .literal (.bool true) => "True"
  | .literal (.bool false) => "False"
  | .literal .ellipsis => "ellipsis"
  | .literal _ => "literal"
  | .name _ => "name"
  | .part _ _ => "attribute"
  | .index _ _ => "subscript"
  | .call _ _ => "function call"
  | .relate _ _ => "comparison"
  | .choose _ _ _ => "conditional expression"
  | .lambda _ _ => "lambda"
  | .collect .list _ => "list"
  | .collect .tuple _ => "tuple"
  | .collect .set _ => "set display"
  | .dict _ => "dict literal"
  | .starred _ => "starred"
  | .gather .list _ _ => "list comprehension"
  | .gather _ _ _ => "set comprehension"
  | .gatherDict _ _ _ => "dict comprehension"
  | .format _ => "f-string expression"
  | .assigned _ _ => "named expression"
  | _ => "expression"

/-- The expression is made without relations, conditions and the like, and it is neither a
collection nor a name of a truth value. -/
def Expr.isOperand : Expr → Bool
  | .literal .none => false
  | .literal (.bool _) => false
  | .relate _ _ => false
  | .choose _ _ _ => false
  | .lambda _ _ => false
  | .not _ => false
  | .and _ _ => false
  | .or _ _ => false
  | .assigned _ _ => false
  | .starred _ => false
  | .collect .list _ => false
  | .collect .tuple _ => false
  | _ => true

/-- The first part of an expression that nothing can be assigned to.  The first argument bounds how
deep it is. -/
def invalidTarget? : Nat → Expr → Option Expr
  | 0, e => some e
  | fuel + 1, e =>
    match e with
    | .name _ => none
    | .part _ _ => none
    | .index _ _ => none
    | .starred e => invalidTarget? fuel e
    | .collect .list members => members.findSome? (invalidTarget? fuel)
    | .collect .tuple members => members.findSome? (invalidTarget? fuel)
    | e => some e

/-- The name of a parameter. -/
def Parameter.name : Parameter → String
  | .of name _ _ => name

/-- A parameter without a usual value comes next, behind a comma. -/
def plainParameterFollows : Reading Bool := do
  match (← get).rest with
  | ⟨.sign ",", _, _, _⟩ :: ⟨.name _, _, _, _⟩ :: ⟨.sign symbol, _, _, _⟩ :: _ =>
    return symbol == "," || symbol == ")"
  | _ => return false

/-- Checks that no plain argument follows a named one. -/
def checkOrder : List Argument → Reading Unit
  | [] => return
  | .of passing _ :: rest => do
    let isPlain : Argument → Bool
      | .of .plain _ => true
      | _ => false
    let isSpread : Argument → Bool
      | .of .spread _ => true
      | _ => false
    match passing with
    | .named _ =>
      if rest.any isPlain then wrong "positional argument follows keyword argument"
    | .spreadNamed =>
      if rest.any isPlain then wrong "positional argument follows keyword argument unpacking"
      if rest.any isSpread then
        wrong "iterable argument unpacking follows keyword argument unpacking"
    | _ => pure ()
    checkOrder rest

/-- Checks that something can be assigned to an expression, which begins at a token and ends at the
last one that was passed over. -/
def checkTarget (start : Lexeme) (target : Expr) : Reading Unit := do
  match invalidTarget? 100 target with
  | none => return
  | some e =>
    if target.isOperand then
      wrongSince start ("cannot assign to " ++ e.description ++
        " here. Maybe you meant '==' instead of '='?")
    else wrongSince start ("cannot assign to " ++ e.description)

/-- Finds fault with what follows a member of brackets: if it is an expression, a comma may have
been forgotten.  The member begins at `start`. -/
def forgotten {α : Type} (start : Lexeme) (reading : Reading Expr) : Reading α := do
  let before ← get
  let isName : Bool := match start.token, before.rest.headD default |>.token with
    | .name _, .text _ => true
    | .name _, .format _ _ => true
    | _, _ => false
  if ¬ isName ∧ (← atExpression) then
    let found : Bool ← tryCatch (do
      let _ ← reading
      return true) fun _ => return false
    if found then wrongSince start "invalid syntax. Perhaps you forgot a comma?"
    set before
  unexpected

/-- Finds fault with a text, which shows at the token behind it. -/
def wrongText {α : Type} (message : String) : Reading α := do
  modify fun reader => { reader with
    rest := reader.rest.dropWhile fun lexeme => match lexeme.token with
      | .text _ => true
      | .format _ _ => true
      | _ => false }
  wrong message

mutual

/-- Reads an expression that may set a name. -/
def assigning : Nat → Reading Expr
  | 0 => unexpected
  | fuel + 1 => do
    match (← get).rest with
    | ⟨.name word, _, _, _⟩ :: ⟨.sign ":=", _, _, _⟩ :: _ =>
      skip
      skip
      return .assigned word (← expression fuel)
    | _ => expression fuel

/-- Reads an expression. -/
def expression : Nat → Reading Expr
  | 0 => unexpected
  | fuel + 1 => do
    if ← acceptWord "lambda" then
      let parameters ← parameters fuel ":"
      expectSign ":"
      return .lambda parameters (← expression fuel)
    let start ← peekLexeme
    let first ← disjunction fuel
    if ← acceptWord "if" then
      let condition ← disjunction fuel
      if ¬ (← acceptWord "else") then
        if ← atSign ":" then unexpected
        wrongSince start "expected 'else' after 'if' expression"
      let no ← expression fuel
      return .choose condition first no
    else return first

/-- Reads expressions of which one has to hold. -/
def disjunction : Nat → Reading Expr
  | 0 => unexpected
  | fuel + 1 => do
    let first ← conjunction fuel
    if ← acceptWord "or" then return .or first (← disjunction fuel) else return first

/-- Reads expressions all of which have to hold. -/
def conjunction : Nat → Reading Expr
  | 0 => unexpected
  | fuel + 1 => do
    let first ← negation fuel
    if ← acceptWord "and" then return .and first (← conjunction fuel) else return first

/-- Reads an expression that may be negated. -/
def negation : Nat → Reading Expr
  | 0 => unexpected
  | fuel + 1 => do
    if ← acceptWord "not" then return .not (← negation fuel)
    else
      let first ← operation fuel operatorLevels
      let rest ← relations fuel
      if rest.isEmpty then return first else return .relate first rest

/-- Reads what a value is compared with. -/
def relations : Nat → Reading (List Related)
  | 0 => unexpected
  | fuel + 1 => do
    match ← relation? with
    | none => return []
    | some relation => do
      let e ← operation fuel operatorLevels
      return .of relation e :: (← relations fuel)

/-- Reads what operators make of values. -/
def operation : Nat → List (List (String × Operator)) → Reading Expr
  | 0, _ => unexpected
  | fuel + 1, [] => signed fuel
  | fuel + 1, level :: levels => do
    let first ← operation fuel levels
    operationRest fuel level levels first

/-- Reads the values behind the first one. -/
def operationRest : Nat → List (String × Operator) → List (List (String × Operator)) → Expr →
    Reading Expr
  | 0, _, _, first => return first
  | fuel + 1, level, levels, first => do
    match ← peek with
    | .sign symbol =>
      match level.lookup symbol with
      | none => return first
      | some operator => do
        skip
        let second ← operation fuel levels
        operationRest fuel level levels (.operate operator first second)
    | _ => return first

/-- Reads a value with signs in front. -/
def signed : Nat → Reading Expr
  | 0 => unexpected
  | fuel + 1 => do
    if ← acceptSign "-" then return .signed .negative (← signed fuel)
    else if ← acceptSign "+" then return .signed .positive (← signed fuel)
    else if ← acceptSign "~" then return .signed .inverted (← signed fuel)
    else
      let base ← trailed fuel (← atom fuel)
      if ← acceptSign "**" then return .operate .power base (← signed fuel) else return base

/-- Reads the calls, the keys and the attributes behind a value. -/
def trailed : Nat → Expr → Reading Expr
  | 0, e => return e
  | fuel + 1, e => do
    if ← acceptSign "." then
      let part ← name
      trailed fuel (.part e part)
    else if ← acceptSign "(" then
      let arguments ← arguments fuel
      checkOrder arguments
      expectSign ")"
      trailed fuel (.call e arguments)
    else if ← acceptSign "[" then
      let key ← key fuel
      if ← atSign "," then
        let rest ← members fuel
        expectSign "]"
        trailed fuel (.index e (.collect .tuple (key :: rest)))
      else
        expectSign "]"
        trailed fuel (.index e key)
    else return e

/-- Reads a key, or a stretch of keys. -/
def key : Nat → Reading Expr
  | 0 => unexpected
  | fuel + 1 => do
    let bound : Reading (Option Expr) := do
      if ← atExpression then return some (← expression fuel) else return none
    let start ← bound
    if ← acceptSign ":" then
      let stop ← bound
      let step ← if ← acceptSign ":" then bound else pure none
      return .slice start stop step
    else
      match start with
      | some e => return e
      | none => unexpected

/-- Reads the arguments of a call. -/
def arguments : Nat → Reading (List Argument)
  | 0 => unexpected
  | fuel + 1 => do
    if ← atSign ")" then return []
    let start ← peekLexeme
    let first ← argument fuel
    if ← acceptSign "," then return first :: (← arguments fuel)
    else if ← atSign ")" then return [first]
    else forgotten start (expression fuel)

/-- Reads an argument. -/
def argument : Nat → Reading Argument
  | 0 => unexpected
  | fuel + 1 => do
    if ← acceptSign "*" then return .of .spread (← expression fuel)
    else if ← acceptSign "**" then return .of .spreadNamed (← expression fuel)
    else
      match (← get).rest with
      | ⟨.name word, line, column, width⟩ :: ⟨.sign "=", _, _, _⟩ :: _ =>
        skip
        skip
        if isKeyword word then
          wrongSince ⟨.name word, line, column, width⟩ ("cannot assign to " ++ word)
        return .of (.named word) (← expression fuel)
      | _ => do
        let start ← peekLexeme
        let e ← assigning fuel
        if ← acceptSign "=" then
          wrongSince start
            "expression cannot contain assignment, perhaps you meant \"==\"?"
        if ← atWord "for" then
          let clauses ← clauses fuel
          return .of .plain (.gather .list e clauses)
        else return .of .plain e

/-- Reads members behind commas. -/
def members : Nat → Reading (List Expr)
  | 0 => unexpected
  | fuel + 1 => do
    if ← acceptSign "," then
      if ← atExpression then
        let first ← member fuel
        return first :: (← members fuel)
      else return []
    else return []

/-- Passes over the bracket that has to close members. -/
def close : Nat → String → Reading Unit
  | 0, _ => unexpected
  | fuel + 1, symbol => do
    if ¬ (← acceptSign symbol) then forgotten (← get).last (expression fuel)

/-- Reads a member of a collection. -/
def member : Nat → Reading Expr
  | 0 => unexpected
  | fuel + 1 => do
    if ← acceptSign "*" then return .starred (← operation fuel operatorLevels) else assigning fuel

/-- Reads one or more expressions: more than one are a tuple. -/
def row : Nat → Reading Expr
  | 0 => unexpected
  | fuel + 1 => do
    let first ← member fuel
    if ← atSign "," then return .collect .tuple (first :: (← members fuel)) else return first

/-- Reads the clauses of a collection that is gathered. -/
def clauses : Nat → Reading (List Clause)
  | 0 => unexpected
  | fuel + 1 => do
    if ← acceptWord "for" then
      let target ← targets fuel
      expectWord "in"
      let source ← disjunction fuel
      return .each target source :: (← clauses fuel)
    else if ← acceptWord "if" then
      let condition ← disjunction fuel
      return .when condition :: (← clauses fuel)
    else return []

/-- Reads the targets of a loop. -/
def targets : Nat → Reading Expr
  | 0 => unexpected
  | fuel + 1 => do
    let first ← operation fuel operatorLevels
    if ← atSign "," then return .collect .tuple (first :: (← targetRest fuel)) else return first

/-- Reads the targets of a loop behind the first one. -/
def targetRest : Nat → Reading (List Expr)
  | 0 => unexpected
  | fuel + 1 => do
    if ← acceptSign "," then
      if ← atWord "in" then return []
      let first ← operation fuel operatorLevels
      return first :: (← targetRest fuel)
    else return []

/-- Reads the parameters of a function, up to a sign. -/
def parameters : Nat → String → Reading (List Parameter)
  | 0, _ => unexpected
  | fuel + 1, stop => do
    if ← atSign stop then return []
    let stars ← if ← acceptSign "**" then pure 2 else if ← acceptSign "*" then pure 1 else pure 0
    let start ← peekLexeme
    let parameter ← if stars = 1 ∧ (← atSign ",") then pure "" else name
    if stop ≠ ":" then
      if ← acceptSign ":" then
        let _ ← expression fuel
    let usual ← if ← acceptSign "=" then pure (some (← expression fuel)) else pure none
    let first : Parameter := .of parameter stars usual
    if usual.isSome ∧ (← plainParameterFollows) then
      skip
      wrong "non-default argument follows default argument"
    if ← acceptSign "," then
      let rest ← parameters fuel stop
      if rest.any fun other => other.name == parameter then
        refuse (.usual ("duplicate argument '" ++ parameter ++ "' in function definition")
          start.line 0 0)
      return first :: rest
    else return [first]

/-- Reads a value without what follows it. -/
def atom : Nat → Reading Expr
  | 0 => unexpected
  | fuel + 1 => do
    match ← peek with
    | .number literal =>
      skip
      return .literal literal
    | .text _ => do
      let pieces ← texts fuel
      return joined pieces
    | .format _ _ => do
      let pieces ← texts fuel
      return joined pieces
    | .name "None" =>
      skip
      return .literal .none
    | .name "True" =>
      skip
      return .literal (.bool true)
    | .name "False" =>
      skip
      return .literal (.bool false)
    | .name word =>
      if isKeyword word then unexpected
      skip
      return .name word
    | .sign "..." =>
      skip
      return .literal .ellipsis
    | .sign "(" =>
      skip
      if ← acceptSign ")" then return .collect .tuple []
      let start ← peekLexeme
      let first ← member fuel
      if ← atWord "for" then
        let clauses ← clauses fuel
        expectSign ")"
        return .gather .list first clauses
      else if ← atSign "," then
        let rest ← members fuel
        close fuel ")"
        return .collect .tuple (first :: rest)
      else
        if ¬ (← acceptSign ")") then forgotten start (expression fuel)
        return first
    | .sign "[" =>
      skip
      if ← acceptSign "]" then return .collect .list []
      let start ← peekLexeme
      let first ← member fuel
      if ← atWord "for" then
        let clauses ← clauses fuel
        expectSign "]"
        return .gather .list first clauses
      else if ← atSign "," then
        let rest ← members fuel
        close fuel "]"
        return .collect .list (first :: rest)
      else
        if ¬ (← acceptSign "]") then forgotten start (expression fuel)
        return .collect .list [first]
    | .sign "\x7b" =>
      skip
      if ← acceptSign "\x7d" then return .dict []
      if ← atSign "**" then
        let entries ← entries fuel
        return .dict entries
      let first ← member fuel
      if ← acceptSign ":" then
        let value ← expression fuel
        if ← atWord "for" then
          let clauses ← clauses fuel
          expectSign "\x7d"
          return .gatherDict first value clauses
        else
          let rest ← if ← acceptSign "," then entries fuel else do
            if ¬ (← acceptSign "\x7d") then forgotten (← get).last (expression fuel)
            pure []
          return .dict (.of (some first) value :: rest)
      else if ← atWord "for" then
        let clauses ← clauses fuel
        expectSign "\x7d"
        return .gather .set first clauses
      else
        let rest ← members fuel
        expectSign "\x7d"
        return .collect .set (first :: rest)
    | _ => unexpected

/-- Reads entries of a dictionary up to its end. -/
def entries : Nat → Reading (List Entry)
  | 0 => unexpected
  | fuel + 1 => do
    if ← acceptSign "\x7d" then return []
    let first : Entry ← if ← acceptSign "**" then pure (.of none (← expression fuel)) else do
      let key ← expression fuel
      expectSign ":"
      pure (.of (some key) (← expression fuel))
    if ← acceptSign "," then return first :: (← entries fuel)
    else
      expectSign "\x7d"
      return [first]

/-- Reads texts one after the other. -/
def texts : Nat → Reading (List Piece)
  | 0 => return []
  | fuel + 1 => do
    match ← peek with
    | .text text =>
      skip
      return .text text :: (← texts fuel)
    | .format raw body =>
      let pieces ← pieces fuel raw [] body
      skip
      return pieces ++ (← texts fuel)
    | _ => return []

/-- The pieces of a text with values in it.  `taken` is the text before, the last character first.
-/
def pieces : Nat → Bool → List Char → List Char → Reading (List Piece)
  | 0, _, _, _ => return []
  | fuel + 1, raw, taken, body => do
    let before : List Piece :=
      let text := taken.reverse
      let text := if raw then text else unescaped (text.length + 1) text
      if text.isEmpty then [] else [.text (String.ofList text)]
    match body with
    | [] => return before
    | '\x7b' :: '\x7b' :: rest => pieces fuel raw ('\x7b' :: taken) rest
    | '\x7d' :: '\x7d' :: rest => pieces fuel raw ('\x7d' :: taken) rest
    | '\x7d' :: _ => wrongText "f-string: single '\x7d' is not allowed"
    | '\x7b' :: rest =>
      match valueSource (rest.length + 1) 0 none [] rest with
      | none => wrongText "f-string: expecting '\x7d'"
      | some (source, rest) => do
        let shown := source.head? == some '='
        let source := (if shown then source.tail else source).reverse
        if source.all Char.isWhitespace then
          wrongText "f-string: empty expression not allowed"
        let e ← inner fuel source
        let (conversion, rest) : Option Char × List Char := match rest with
          | '!' :: c :: rest => (some c, rest)
          | rest => (none, rest)
        let (specification, rest) ← match rest with
          | ':' :: rest => do
            match specificationEnd (rest.length + 1) 0 [] rest with
            | none => wrongText "f-string: expecting '\x7d'"
            | some (text, rest) => do
              let inner ← pieces fuel raw [] text.reverse
              pure (inner, rest)
          | rest => pure ([], rest)
        match rest with
        | '\x7d' :: rest => do
          let label := if shown then String.ofList source ++ "=" else ""
          return before ++ .value e conversion specification label ::
            (← pieces fuel raw [] rest)
        | _ => wrongText "f-string: expecting '\x7d'"
    | '\\' :: c :: rest => pieces fuel raw (c :: '\\' :: taken) rest
    | c :: rest => pieces fuel raw (c :: taken) rest

/-- Reads an expression inside of a text. -/
def inner : Nat → List Char → Reading Expr
  | 0, _ => unexpected
  | fuel + 1, source => do
    match lexemesOf ('(' :: source ++ [')']) with
    | .error _ => wrongText "f-string: invalid syntax"
    | .ok lexemes => do
      let outer ← get
      set { outer with rest := lexemes }
      let e ← row fuel
      let after ← peek
      set outer
      match after with
      | .newline => return e
      | _ => wrongText "f-string: invalid syntax"

end

/-! ### Statements -/

/-- A bound for the depth of expressions. -/
def depth : Reading Nat := do
  return 40 * (← get).rest.length + 400

/-- Reads one or more expressions. -/
def anyRow : Reading Expr := do
  row (← depth)

/-- Reads an expression that may set a name. -/
def anyExpression : Reading Expr := do
  assigning (← depth)

/-- Reads the condition of a statement. -/
def condition : Reading Expr := do
  let start ← peekLexeme
  let e ← anyExpression
  if ← atSign "=" then
    match e with
    | .name _ => do
      skip
      let _ ← operation (← depth) operatorLevels
      wrongSince start "invalid syntax. Maybe you meant '==' or ':=' instead of '='?"
    | e =>
      if e.isOperand then
        wrongSince start ("cannot assign to " ++ e.description ++
          " here. Maybe you meant '==' instead of '='?")
  return e

/-- Finds fault with an old way to write a call. -/
def checkCall (start : Lexeme) : Reading Unit := do
  match start.token with
  | .name function =>
    match (← get).rest with
    | _ :: next :: rest =>
      let isOperand : Bool := match next.token with
        | .text _ => true
        | .number _ => true
        | .name word => !isKeyword word
        | .format _ _ => true
        | _ => false
      if isOperand ∧ (function = "print" ∨ function = "exec") then
        let line := (next :: rest).takeWhile fun lexeme => match lexeme.token with
          | .newline => false
          | .sign ";" => false
          | _ => true
        let last := line.getLastD next
        refuse (.usual ("Missing parentheses in call to '" ++ function ++ "'. Did you mean " ++
          function ++ "(...)?") start.line (start.column + 1)
          (last.column + last.width - start.column))
    | _ => return
  | _ => return

/-- Reads names of modules with the names that they are given. -/
def imported : Nat → Bool → Reading (List (String × String))
  | 0, _ => unexpected
  | fuel + 1, dotted => do
    let first ← if ← acceptSign "*" then pure "*" else name
    let full ← dots fuel dotted first
    let given ← if ← acceptWord "as" then name else pure (if dotted then first else full)
    let entry := (full, given)
    if ← acceptSign "," then return entry :: (← imported fuel dotted) else return [entry]
where
  /-- The rest of a name with points in it. -/
  dots : Nat → Bool → String → Reading String
    | 0, _, before => return before
    | _ + 1, false, before => return before
    | fuel + 1, true, before => do
      if ← acceptSign "." then
        let next ← name
        dots fuel true (before ++ "." ++ next)
      else return before

/-- Reads names behind one another. -/
def namesOf : Nat → Reading (List String)
  | 0 => unexpected
  | fuel + 1 => do
    let first ← name
    if ← acceptSign "," then return first :: (← namesOf fuel) else return [first]

/-- Reads the values that are assigned, behind the first target. -/
def assigned : Nat → List Expr → Reading Action
  | 0, _ => unexpected
  | fuel + 1, targets => do
    let start ← peekLexeme
    let next ← anyRow
    if ← atSign "=" then
      checkTarget start next
      skip
      assigned fuel (targets ++ [next])
    else return .assign targets next

/-- Reads a statement of one line, without its end. -/
def simpleAction : Reading Action := do
  let start ← peekLexeme
  let fuel ← depth
  match start.token with
  | .name "pass" =>
    skip
    return .pass
  | .name "break" =>
    if ¬ (← get).inLoop then refuse (.usual "'break' outside loop" start.line 0 0)
    skip
    return .leave
  | .name "continue" =>
    if ¬ (← get).inLoop then refuse (.usual "'continue' not properly in loop" start.line 0 0)
    skip
    return .again
  | .name "return" =>
    if ¬ (← get).inFunction then refuse (.usual "'return' outside function" start.line 0 0)
    skip
    if ← atExpression then return .giveBack (some (← anyRow)) else return .giveBack none
  | .name "import" =>
    skip
    return .load (← imported fuel true)
  | .name "from" =>
    skip
    let first ← name
    let module_ ← imported.dots fuel true first
    expectWord "import"
    let inside ← acceptSign "("
    let names ← imported fuel false
    if inside then expectSign ")"
    return .loadFrom module_ names
  | .name "raise" =>
    skip
    if ← atExpression then
      let value ← anyExpression
      if ← acceptWord "from" then
        let _ ← anyExpression
      return .raise (some value)
    else return .raise none
  | .name "global" =>
    skip
    return .outside (← namesOf fuel)
  | .name "nonlocal" =>
    skip
    return .outside (← namesOf fuel)
  | .name "del" =>
    skip
    let start ← peekLexeme
    let row ← anyRow
    if let some e := invalidTarget? 100 row then
      wrongSince start ("cannot delete " ++ e.description)
    match row with
    | .collect .tuple targets => return .delete targets
    | target => return .delete [target]
  | .name "assert" =>
    skip
    let condition ← anyExpression
    if ← acceptSign "," then return .check condition (some (← anyExpression))
    else return .check condition none
  | _ => do
    checkCall start
    let first ← anyRow
    match ← peek with
    | .sign "=" =>
      checkTarget start first
      skip
      assigned fuel [first]
    | .sign ":" =>
      skip
      let _ ← anyExpression
      if ← acceptSign "=" then return .assign [first] (← anyRow) else return .pass
    | .sign symbol =>
      match changing? symbol with
      | some operator => do
        match first with
        | .name _ => pure ()
        | .part _ _ => pure ()
        | .index _ _ => pure ()
        | e =>
          wrongSince start ("'" ++ e.description ++
            "' is an illegal expression for augmented assignment")
        skip
        return .change first operator (← anyRow)
      | none => return .evaluate first
    | _ => return .evaluate first

mutual

/-- Reads a statement, or several on one line. -/
def statements : Nat → Reading (List Statement)
  | 0 => unexpected
  | fuel + 1 => do
    let start ← peekLexeme
    let one (action : Action) : List Statement := [.of start.line action]
    match start.token with
    | .name "if" =>
      skip
      return one (← branch fuel "if" start.line)
    | .name "while" =>
      skip
      let condition ← condition
      let body ← loopBody fuel "'while' statement" start.line
      let last ← otherwise fuel
      return one (.repeat_ condition body last)
    | .name "for" =>
      skip
      let place ← peekLexeme
      let target ← targets (← depth)
      if let some e := invalidTarget? 100 target then
        wrongSince place ("cannot assign to " ++ e.description)
      expectWord "in"
      let source ← anyRow
      let body ← loopBody fuel "'for' statement" start.line
      let last ← otherwise fuel
      return one (.forEach target source body last)
    | .name "def" =>
      skip
      let function ← name
      expectSign "("
      let parameters ← parameters (← depth) ")"
      expectSign ")"
      if ← acceptSign "->" then
        let _ ← anyExpression
      let outer ← get
      set { outer with inFunction := true, inLoop := false }
      let body ← block fuel "function definition" start.line
      modify fun reader => { reader with inFunction := outer.inFunction, inLoop := outer.inLoop }
      return one (.define function parameters body)
    | .name "try" =>
      skip
      let body ← block fuel "'try' statement" start.line
      let handlers ← handlers fuel
      let others ← otherwise fuel
      let line := (← peekLexeme).line
      let last ←
        if ← acceptWord "finally" then block fuel "'finally' statement" line else pure []
      if handlers.isEmpty ∧ last.isEmpty then wrong "expected 'except' or 'finally' block"
      return one (.attempt body handlers others last)
    | .name "with" =>
      skip
      let items ← opened fuel
      let body ← block fuel "'with' statement" start.line
      return one (.within items body)
    | _ => line fuel

/-- Reads the statements of a line. -/
def line : Nat → Reading (List Statement)
  | 0 => unexpected
  | fuel + 1 => do
    let start ← peekLexeme
    let action ← simpleAction
    let first : Statement := .of start.line action
    match ← peek with
    | .newline =>
      skip
      return [first]
    | .stop => return [first]
    | .sign ";" =>
      skip
      match ← peek with
      | .newline =>
        skip
        return [first]
      | _ => return first :: (← line fuel)
    | .sign "=" => wrong "invalid syntax"
    | _ => unexpected

/-- Reads what is done if a condition holds, and what if not. -/
def branch : Nat → String → Nat → Reading Action
  | 0, _, _ => unexpected
  | fuel + 1, word, start => do
    let condition ← condition
    let yes ← block fuel ("'" ++ word ++ "' statement") start
    let line := (← peekLexeme).line
    if ← acceptWord "elif" then
      let no ← branch fuel "elif" line
      return .branch condition yes [.of line no]
    else
      let no ← otherwise fuel
      return .branch condition yes no

/-- Reads what is done otherwise. -/
def otherwise : Nat → Reading (List Statement)
  | 0 => unexpected
  | fuel + 1 => do
    let line := (← peekLexeme).line
    if ← acceptWord "else" then block fuel "'else' statement" line else return []

/-- Reads the body of a loop. -/
def loopBody : Nat → String → Nat → Reading (List Statement)
  | 0, _, _ => unexpected
  | fuel + 1, owner, start => do
    let outer ← get
    set { outer with inLoop := true }
    let body ← block fuel owner start
    modify fun reader => { reader with inLoop := outer.inLoop }
    return body

/-- Reads what is done about failures. -/
def handlers : Nat → Reading (List Handler)
  | 0 => unexpected
  | fuel + 1 => do
    let line := (← peekLexeme).line
    if ← acceptWord "except" then
      let kinds ← if ← atExpression then pure (some (← anyExpression)) else pure none
      let given ← if ← acceptWord "as" then pure (some (← name)) else pure none
      let body ← block fuel "'except' statement" line
      return .of kinds given body :: (← handlers fuel)
    else return []

/-- Reads what is opened for some statements. -/
def opened : Nat → Reading (List Opened)
  | 0 => unexpected
  | fuel + 1 => do
    let e ← expression (← depth)
    let target ← if ← acceptWord "as" then pure (some (← signed (← depth))) else pure none
    if ← acceptSign "," then return .of e target :: (← opened fuel) else return [.of e target]

/-- Reads a block, behind the head of a statement. -/
def block : Nat → String → Nat → Reading (List Statement)
  | 0, _, _ => unexpected
  | fuel + 1, owner, start => do
    if ¬ (← acceptSign ":") then
      let isForced :=
        ["function definition", "'else' statement", "'try' statement",
          "'finally' statement"].contains owner
      match ← peek with
      | .newline => wrong "expected ':'"
      | _ => if isForced then wrong "expected ':'" else unexpected
    match ← peek with
    | .newline =>
      skip
      match ← peek with
      | .indent =>
        skip
        blockRest fuel
      | _ => do
        let lexeme ← peekLexeme
        let isEnd : Bool := match (← get).rest.find? fun lexeme => !lexeme.isDedent with
          | some ⟨.stop, _, _, _⟩ => true
          | _ => false
        refuse ⟨"IndentationError",
          "expected an indented block after " ++ owner ++ " on line " ++ toString start,
          lexeme.line, lexeme.column + 1, if lexeme.isDedent && !isEnd then 0 else 1⟩
    | _ => line fuel

/-- Reads the statements of a block up to its end. -/
def blockRest : Nat → Reading (List Statement)
  | 0 => unexpected
  | fuel + 1 => do
    match ← peek with
    | .dedent =>
      skip
      return []
    | .stop => return []
    | _ => do
      let first ← statements fuel
      return first ++ (← blockRest fuel)

end

/-- Reads all statements. -/
def allStatements : Nat → Reading (List Statement)
  | 0 => return []
  | fuel + 1 => do
    match ← peek with
    | .stop => return []
    | .newline =>
      skip
      allStatements fuel
    | _ => do
      let first ← statements fuel
      return first ++ (← allStatements fuel)

/-- The statements that a text holds. -/
def statementsOf (text : List Char) : Except SyntaxFault (List Statement) := do
  let lexemes ← lexemesOf text
  let reader : Reader := ⟨lexemes, default, false, false⟩
  let (found, _) ← (allStatements (4 * lexemes.length + 4)).run reader
  return found

end TaskRunner.Snippet
