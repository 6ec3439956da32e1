import TaskRunner.Records.Token

/-! Reading scripts for records. -/

namespace TaskRunner.Records

/-- Why a text is no script, with the line where that shows. -/
inductive Fault where
  | token (fault : TokenFault)
  | unexpected (line : Nat) (shown : Text)
  | missing (line : Nat) (mark : Char) (shown : Text)
  | regex (line : Nat) (fault : RegexFault) (text : Text)
  | undefined (line : Nat) (name : String)
  | repeated (line : Nat) (name : String)
  | extraBrace (line : Nat)
  | outside (line : Nat) (message : String)

namespace Fault

/-- The place of a fault. -/
def lineText (line : Nat) : Text := "line " ++ toString line ++ ": "

/-- The lines shown to a user. -/
def messages : Fault → List Text
  | token (.openString line text) =>
    [lineText line ++ ("runaway string constant " : String) ++ text ++ " ..."]
  | token (.openRegex line text) =>
    [lineText line ++ ("runaway regular expression " : String) ++ text ++ " ..."]
  | token (.unexpected line c) =>
    [ofString (toString line ++ ": unexpected character '") ++ c :: ['\'']]
  | unexpected line shown => [lineText line ++ ("syntax error at or near " : String) ++ shown]
  | missing line mark shown =>
    [lineText line ++ "missing ".toList ++ mark :: " near ".toList ++ shown]
  | regex line fault text =>
    [lineText line ++ ("regular expression compile failed (" ++ fault.message ++ ")\n" : String) ++
      text]
  | undefined line name => [lineText line ++ ("function " ++ name ++ " never defined" : String)]
  | repeated line name =>
    [lineText line ++ (name ++ " is duplicated in argument list" : String)]
  | extraBrace line =>
    [lineText line ++ ("extra '\x7d'" : String),
      lineText line ++ ("syntax error at or near end of line" : String)]
  | outside line message => [lineText line ++ message]

end Fault

/-- A script that is being read: the tokens that are left, the names that the present function uses
as arrays, the names that are passed to functions, how many loops and brackets are open, whether a
function is being read, and the calls. -/
structure Reader where
  rest : List Lexeme
  arrays : List String
  passed : List (String × String × Nat × String)
  calls : List String
  loops : Nat
  braces : Nat
  brackets : Nat
  function : Option String
  record : Bool

/-- What reads something off a script, or finds fault with it. -/
abbrev Reading := StateT Reader (Except Fault)

/-- The next token. -/
def peek : Reading Token := do
  return ((← get).rest.headD default).token

/-- The next token as it stands. -/
def peekLexeme : Reading Lexeme := do
  return (← get).rest.headD default

/-- Passes the next token over. -/
def skip : Reading Unit :=
  modify fun reader => { reader with rest := reader.rest.tail }

/-- Finds fault with the next token. -/
def unexpected {α : Type} : Reading α := do
  let lexeme ← peekLexeme
  let reader ← get
  match lexeme.token with
  | .stop =>
    if 0 < reader.braces then
      throw (.missing (lexeme.line + 1) '\x7d' "end of file".toList)
    else throw (.unexpected lexeme.line "end of line".toList)
  | .newline => throw (.unexpected lexeme.line "end of line".toList)
  | .sign "\x7d" =>
    if 0 < reader.brackets then throw (.missing lexeme.line ')' lexeme.shown)
    else throw (.unexpected lexeme.line lexeme.shown)
  | _ => throw (.unexpected lexeme.line lexeme.shown)

/-- The next token is a sign. -/
def atSign (symbol : String) : Reading Bool := do
  match ← peek with
  | .sign other => return other == symbol
  | _ => return false

/-- The next token is a word. -/
def atWord (name : String) : Reading Bool := do
  match ← peek with
  | .word other => return other == name
  | _ => return false

/-- Passes a sign over if it comes next. -/
def acceptSign (symbol : String) : Reading Bool := do
  if ← atSign symbol then
    skip
    return true
  else return false

/-- Passes a word over if it comes next. -/
def acceptWord (name : String) : Reading Bool := do
  if ← atWord name then
    skip
    return true
  else return false

/-- Passes over a sign that has to come next. -/
def expectSign (symbol : String) : Reading Unit := do
  if ¬ (← acceptSign symbol) then unexpected

/-- Passes over the ends of lines. -/
def skipLines : Reading Unit :=
  modify fun reader =>
    { reader with rest := reader.rest.dropWhile fun lexeme =>
        match lexeme.token with
        | .newline => true
        | _ => false }

/-- Passes over the ends of lines and of statements. -/
def skipEnds : Reading Unit :=
  modify fun reader =>
    { reader with rest := reader.rest.dropWhile fun lexeme =>
        match lexeme.token with
        | .newline => true
        | .sign ";" => true
        | _ => false }

/-- Notes that a name stands for an array. -/
def noteArray (name : String) : Reading Unit :=
  modify fun reader => { reader with arrays := name :: reader.arrays }

/-- Reads the name of something. -/
def name : Reading String := do
  match ← peek with
  | .word name =>
    skip
    return name
  | _ => unexpected

/-- Reads the name of an array. -/
def arrayName : Reading String := do
  let name ← name
  noteArray name
  return name

/-- Reads what stands between brackets. -/
def inBrackets {α : Type} (body : Reading α) : Reading α := do
  expectSign "("
  modify fun reader => { reader with brackets := reader.brackets + 1 }
  let value ← body
  expectSign ")"
  modify fun reader => { reader with brackets := reader.brackets - 1 }
  return value

/-- The expression that a text stands for. -/
def regexOf (text : Text) : Reading Regex.Matcher := do
  match matcherOf text with
  | .ok matcher => return matcher
  | .error fault => throw (.regex (← peekLexeme).line fault text)

/-- The operation of an assignment sign. -/
def assignment? (symbol : String) : Option (Option Reckoning) :=
  match symbol with
  | "=" => some none
  | "+=" => some (some .add)
  | "-=" => some (some .subtract)
  | "*=" => some (some .multiply)
  | "/=" => some (some .divide)
  | "%=" => some (some .remainder)
  | "^=" => some (some .power)
  | _ => none

/-- The comparison of a sign. -/
def comparison? (symbol : String) : Option Comparison :=
  match symbol with
  | "<" => some .less
  | "<=" => some .notMore
  | "==" => some .equal
  | "!=" => some .unequal
  | ">" => some .more
  | ">=" => some .notLess
  | _ => none

/-- What an expression may not hold on its outside: the sign that sends output to a file, and the
word that asks for a member. -/
structure Bounds where
  output : Bool
  member : Bool
deriving DecidableEq, Repr

namespace Bounds

/-- Everything may stand inside. -/
def free : Bounds := ⟨false, false⟩

end Bounds

/-- A pattern beside a text: a plain text is read as an expression at once. -/
def patternOf (e : Expr) : Reading Expr := do
  match e with
  | .text text => return .regex (← regexOf text)
  | e => return e

/-- An operand begins with the next token. -/
def atOperand : Reading Bool := do
  match ← peek with
  | .number _ => return true
  | .text _ => return true
  | .regex _ => return true
  | .call _ => return true
  | .word name =>
    if (Builtin.all.lookup name).isSome then return true
    else
      return ¬ ["BEGIN", "END", "function", "func", "if", "else", "while", "for", "do", "break",
        "continue", "next", "nextfile", "exit", "return", "delete", "in", "getline", "print",
        "printf"].contains name
  | .sign symbol => return ["(", "$", "!", "++", "--"].contains symbol
  | _ => return false

mutual

/-- Reads an expression. -/
def expression : Nat → Bounds → Reading Expr
  | 0, _ => unexpected
  | fuel + 1, bounds => do
    let condition ← disjunction fuel bounds
    if ← acceptSign "?" then
      skipLines
      let yes ← expression fuel bounds
      skipLines
      expectSign ":"
      skipLines
      let no ← expression fuel bounds
      return .choose condition yes no
    else return condition

/-- Reads expressions of which one has to hold. -/
def disjunction : Nat → Bounds → Reading Expr
  | 0, _ => unexpected
  | fuel + 1, bounds => do
    let first ← conjunction fuel bounds
    if ← acceptSign "||" then
      skipLines
      let second ← disjunction fuel bounds
      return .or first second
    else return first

/-- Reads expressions all of which have to hold. -/
def conjunction : Nat → Bounds → Reading Expr
  | 0, _ => unexpected
  | fuel + 1, bounds => do
    let first ← membership fuel bounds
    if ← acceptSign "&&" then
      skipLines
      let second ← conjunction fuel bounds
      return .and first second
    else return first

/-- Reads what may be asked for as a member of arrays. -/
def membership : Nat → Bounds → Reading Expr
  | 0, _ => unexpected
  | fuel + 1, bounds => do
    let first ← fitting fuel bounds
    membershipRest fuel bounds first

/-- Reads the arrays that something may be a member of. -/
def membershipRest : Nat → Bounds → Expr → Reading Expr
  | 0, _, first => return first
  | fuel + 1, bounds, first => do
    if ¬ bounds.member ∧ (← atWord "in") then
      skip
      let array ← arrayName
      let indices := match first with
        | .row members => members
        | first => [first]
      membershipRest fuel bounds (.member array indices)
    else return first

/-- Reads what may be compared with an expression. -/
def fitting : Nat → Bounds → Reading Expr
  | 0, _ => unexpected
  | fuel + 1, bounds => do
    let first ← comparing fuel bounds
    fittingRest fuel bounds first

/-- Reads the expressions that something may be compared with. -/
def fittingRest : Nat → Bounds → Expr → Reading Expr
  | 0, _, first => return first
  | fuel + 1, bounds, first => do
    if ← acceptSign "~" then
      let pattern ← patternOf (← comparing fuel bounds)
      fittingRest fuel bounds (.fits false first pattern)
    else if ← acceptSign "!~" then
      let pattern ← patternOf (← comparing fuel bounds)
      fittingRest fuel bounds (.fits true first pattern)
    else return first

/-- Reads what may be compared. -/
def comparing : Nat → Bounds → Reading Expr
  | 0, _ => unexpected
  | fuel + 1, bounds => do
    let first ← joining fuel bounds
    comparingRest fuel bounds first

/-- Reads what something may be compared with. -/
def comparingRest : Nat → Bounds → Expr → Reading Expr
  | 0, _, first => return first
  | fuel + 1, bounds, first => do
    match ← peek with
    | .sign symbol =>
      match comparison? symbol with
      | none => return first
      | some comparison => do
        if comparison = .more ∧ bounds.output then return first
        skip
        let second ← joining fuel bounds
        comparingRest fuel bounds (.compare comparison first second)
    | _ => return first

/-- Reads texts one after the other. -/
def joining : Nat → Bounds → Reading Expr
  | 0, _ => unexpected
  | fuel + 1, bounds => do
    let first ← adding fuel bounds
    joiningRest fuel bounds first

/-- Reads what comes after a text. -/
def joiningRest : Nat → Bounds → Expr → Reading Expr
  | 0, _, first => return first
  | fuel + 1, bounds, first => do
    if ← atOperand then
      let second ← adding fuel bounds
      joiningRest fuel bounds (.join first second)
    else return first

/-- Reads a sum. -/
def adding : Nat → Bounds → Reading Expr
  | 0, _ => unexpected
  | fuel + 1, bounds => do
    let first ← multiplying fuel bounds
    addingRest fuel bounds first

/-- Reads what is added or taken away. -/
def addingRest : Nat → Bounds → Expr → Reading Expr
  | 0, _, first => return first
  | fuel + 1, bounds, first => do
    if ← acceptSign "+" then
      let second ← multiplying fuel bounds
      addingRest fuel bounds (.reckon .add first second)
    else if ← acceptSign "-" then
      let second ← multiplying fuel bounds
      addingRest fuel bounds (.reckon .subtract first second)
    else return first

/-- Reads a product. -/
def multiplying : Nat → Bounds → Reading Expr
  | 0, _ => unexpected
  | fuel + 1, bounds => do
    let first ← signed fuel bounds
    multiplyingRest fuel bounds first

/-- Reads what something is multiplied with or divided by. -/
def multiplyingRest : Nat → Bounds → Expr → Reading Expr
  | 0, _, first => return first
  | fuel + 1, bounds, first => do
    if ← acceptSign "*" then
      let second ← signed fuel bounds
      multiplyingRest fuel bounds (.reckon .multiply first second)
    else if ← acceptSign "/" then
      let second ← signed fuel bounds
      multiplyingRest fuel bounds (.reckon .divide first second)
    else if ← acceptSign "%" then
      let second ← signed fuel bounds
      multiplyingRest fuel bounds (.reckon .remainder first second)
    else return first

/-- Reads an operand with signs in front. -/
def signed : Nat → Bounds → Reading Expr
  | 0, _ => unexpected
  | fuel + 1, bounds => do
    if ← acceptSign "!" then return .not (← signed fuel bounds)
    else if ← acceptSign "-" then return .negative (← signed fuel bounds)
    else if ← acceptSign "+" then return .positive (← signed fuel bounds)
    else raising fuel bounds

/-- Reads a power. -/
def raising : Nat → Bounds → Reading Expr
  | 0, _ => unexpected
  | fuel + 1, bounds => do
    let first ← stepping fuel bounds
    if ← acceptSign "^" then
      let second ← signed fuel bounds
      return .reckon .power first second
    else return first

/-- Reads an operand with steps or an assignment, and what is read from the commands that it
names. -/
def stepping : Nat → Bounds → Reading Expr
  | 0, _ => unexpected
  | fuel + 1, bounds => do
    let first ← operand fuel bounds
    let first ← match first with
      | .place place => do
        match ← peek with
        | .sign "++" =>
          skip
          pure (.step place 1 false)
        | .sign "--" =>
          skip
          pure (.step place (-1) false)
        | .sign symbol =>
          match assignment? symbol with
          | some reckoning => do
            skip
            skipLines
            pure (.assign place reckoning (← expression fuel bounds))
          | none => pure first
        | _ => pure first
      | first => pure first
    steppingRest fuel bounds first

/-- Reads what is read from a command. -/
def steppingRest : Nat → Bounds → Expr → Reading Expr
  | 0, _, first => return first
  | fuel + 1, bounds, first => do
    match (← get).rest with
    | ⟨.sign "|", _, _⟩ :: ⟨.word "getline", _, _⟩ :: _ =>
      skip
      skip
      let target ← target fuel bounds
      steppingRest fuel bounds (.readCommand target first)
    | _ => return first

/-- Reads the place that a line is read into, if there is one. -/
def target : Nat → Bounds → Reading (Option Place)
  | 0, _ => unexpected
  | fuel + 1, bounds => do
    match ← peek with
    | .sign "$" =>
      match ← operand fuel bounds with
      | .place place => return some place
      | _ => unexpected
    | .word _ =>
      if ← atOperand then
        match ← operand fuel bounds with
        | .place place => return some place
        | _ => unexpected
      else return none
    | _ => return none

/-- Reads an operand. -/
def operand : Nat → Bounds → Reading Expr
  | 0, _ => unexpected
  | fuel + 1, bounds => do
    match ← peek with
    | .number x =>
      skip
      return .number x
    | .text text =>
      skip
      return .text text
    | .regex text =>
      let matcher ← regexOf text
      skip
      return .regex matcher
    | .sign "(" =>
      let members ← inBrackets do
        let first ← expression fuel .free
        rowRest fuel [first]
      match members with
      | [e] => return e
      | members => return .row members
    | .sign "$" =>
      skip
      return .place (.field (← fieldNumber fuel bounds))
    | .sign "++" =>
      skip
      match ← operand fuel bounds with
      | .place place => return .step place 1 true
      | _ => unexpected
    | .sign "--" =>
      skip
      match ← operand fuel bounds with
      | .place place => return .step place (-1) true
      | _ => unexpected
    | .call name =>
      skip
      scriptCall fuel name
    | .word "getline" =>
      skip
      let target ← target fuel bounds
      if ← acceptSign "<" then return .readFile target (← operand fuel bounds)
      else return .readMain target
    | .word name =>
      match Builtin.all.lookup name with
      | some builtin => do
        skip
        builtinCall fuel builtin
      | none => do
        if ¬ (← atOperand) then unexpected
        skip
        if (← get).calls.contains name ∧ (← atSign "(") then
          scriptCall fuel name
        else if ← acceptSign "[" then
          noteArray name
          let first ← expression fuel .free
          let indices ← rowRest fuel [first]
          expectSign "]"
          return .place (.element name indices)
        else return .place (.named name)
    | _ => unexpected

/-- Reads the call of a function of the script, behind its name. -/
def scriptCall : Nat → String → Reading Expr
  | 0, _ => unexpected
  | fuel + 1, name => do
    modify fun reader => { reader with calls := name :: reader.calls }
    let arguments ← arguments fuel
    modify fun reader =>
      let named := arguments.zipIdx.filterMap fun entry =>
        match entry.1 with
        | .place (.named passed) => some (reader.function.getD "", name, entry.2, passed)
        | _ => none
      { reader with passed := named ++ reader.passed }
    return .call name arguments

/-- Reads the number of a field. -/
def fieldNumber : Nat → Bounds → Reading Expr
  | 0, _ => unexpected
  | fuel + 1, bounds => do
    if ← acceptSign "-" then return .negative (← fieldNumber fuel bounds)
    else if ← acceptSign "+" then return .positive (← fieldNumber fuel bounds)
    else operand fuel bounds

/-- Reads the rest of a row of expressions. -/
def rowRest : Nat → List Expr → Reading (List Expr)
  | 0, _ => unexpected
  | fuel + 1, before => do
    if ← acceptSign "," then
      skipLines
      let next ← expression fuel .free
      rowRest fuel (before ++ [next])
    else return before

/-- Reads the arguments of a function between brackets. -/
def arguments : Nat → Reading (List Expr)
  | 0 => unexpected
  | fuel + 1 => inBrackets do
    skipLines
    if ← atSign ")" then return []
    let first ← expression fuel .free
    rowRest fuel [first]

/-- Reads the call of a function that every script can call. -/
def builtinCall : Nat → Builtin → Reading Expr
  | 0, _ => unexpected
  | fuel + 1, builtin => do
    if ← atSign "(" then
      let arguments ← arguments fuel
      match builtin, arguments with
      | .split, _ :: .place (.named array) :: _ => noteArray array
      | .match_, [a, b] => return .builtin .match_ [a, ← patternOf b]
      | .sub, a :: rest => return .builtin .sub ((← patternOf a) :: rest)
      | .gsub, a :: rest => return .builtin .gsub ((← patternOf a) :: rest)
      | _, _ => pure ()
      return .builtin builtin arguments
    else if builtin = .length then return .builtin builtin []
    else unexpected

end

/-! ### Statements -/

/-- A statement ends here. -/
def statementEnd : Reading Unit := do
  match ← peek with
  | .newline => skip
  | .stop => return
  | .sign ";" => skip
  | .sign "\x7d" => return
  | _ => unexpected

/-- Another statement follows, without the end of one. -/
def atEnd : Reading Bool := do
  match ← peek with
  | .newline => return true
  | .stop => return true
  | .sign symbol => return symbol == ";" || symbol == "\x7d"
  | _ => return false

/-- A bound for the depth of expressions. -/
def depth : Reading Nat := do
  return 40 * (← get).rest.length + 40

/-- Reads an expression of any kind. -/
def anyExpression : Reading Expr := do
  expression (← depth) .free

/-- Reads what is written, and where it goes. -/
def outputOf : Reading (List Expr × Option (OutletKind × Expr)) := do
  let fuel ← depth
  let written : Reading Bool := do
    match ← peek with
    | .sign symbol => return [">", ">>", "|"].contains symbol
    | _ => return false
  let arguments ←
    if (← atEnd) || (← written) then pure []
    else do
      let first ← expression fuel ⟨true, false⟩
      let rest ← more fuel fuel
      pure (match first, rest with
        | .row members, [] => members
        | first, rest => first :: rest)
  if ← acceptSign ">" then return (arguments, some (.file, ← expression fuel .free))
  else if ← acceptSign ">>" then return (arguments, some (.addition, ← expression fuel .free))
  else if ← acceptSign "|" then return (arguments, some (.command, ← expression fuel .free))
  else return (arguments, none)
where
  /-- The expressions behind commas. -/
  more (depth : Nat) : Nat → Reading (List Expr)
    | 0 => return []
    | fuel + 1 => do
      if ← acceptSign "," then
        skipLines
        let next ← expression depth ⟨true, false⟩
        return next :: (← more depth fuel)
      else return []

/-- Complains that something stands where it may not. -/
def misplaced {α : Type} (message : String) : Reading α := do
  throw (.outside (← peekLexeme).line message)

/-- Reads a statement of one line, without its end. -/
def simpleStatement : Reading Statement := do
  match ← peek with
  | .word "print" =>
    skip
    let (arguments, outlet) ← outputOf
    return .print arguments outlet
  | .word "printf" =>
    skip
    let (arguments, outlet) ← outputOf
    if arguments.isEmpty then misplaced "no arguments in call to printf"
    return .printf arguments outlet
  | .word "next" =>
    if ¬ (← get).record then misplaced "improper use of next"
    skip
    return .nextRecord
  | .word "nextfile" =>
    if ¬ (← get).record then misplaced "improper use of nextfile"
    skip
    return .nextFile
  | .word "break" =>
    if (← get).loops = 0 then misplaced "break statement outside of loop"
    skip
    return .leave
  | .word "continue" =>
    if (← get).loops = 0 then misplaced "continue statement outside of loop"
    skip
    return .again
  | .word "exit" =>
    skip
    if ← atEnd then return .exit none else return .exit (some (← anyExpression))
  | .word "return" =>
    if (← get).function.isNone then misplaced "return outside function body"
    skip
    if ← atEnd then return .giveBack none else return .giveBack (some (← anyExpression))
  | .word "delete" =>
    skip
    let array ← arrayName
    if ← acceptSign "[" then
      let fuel ← depth
      let first ← expression fuel .free
      let indices ← rowRest fuel [first]
      expectSign "]"
      return .delete array (some indices)
    else return .delete array none
  | _ => return .evaluate (← anyExpression)

/-- Reads something inside of a loop. -/
def inLoop {α : Type} (body : Reading α) : Reading α := do
  modify fun reader => { reader with loops := reader.loops + 1 }
  let value ← body
  modify fun reader => { reader with loops := reader.loops - 1 }
  return value

/-- The head of a loop over the keys of an array, if one stands here. -/
def keyLoop? : Reading (Option (String × String)) := do
  match (← get).rest with
  | ⟨.sign "(", _, _⟩ :: ⟨.word key, _, _⟩ :: ⟨.word "in", _, _⟩ :: ⟨.word array, _, _⟩ ::
      ⟨.sign ")", _, _⟩ :: rest =>
    modify fun reader => { reader with rest }
    noteArray array
    return some (key, array)
  | _ => return none

/-- Reads a statement in the head of a loop, up to a sign. -/
def part (symbol : String) : Reading Statement := do
  if ← atSign symbol then return .nothing else simpleStatement

mutual

/-- Reads a statement with its end. -/
def statement : Nat → Reading Statement
  | 0 => unexpected
  | fuel + 1 => do
    match ← peek with
    | .sign "\x7b" => block fuel
    | .sign ";" =>
      skip
      return .nothing
    | .word "if" =>
      skip
      let condition ← inBrackets anyExpression
      skipLines
      let yes ← statement fuel
      let before ← get
      skipEnds
      if ← acceptWord "else" then
        skipLines
        let no ← statement fuel
        return .branch condition yes no
      else
        set before
        return .branch condition yes .nothing
    | .word "while" =>
      skip
      let condition ← inBrackets anyExpression
      let body ← loopBody fuel
      return .repeat_ false (some condition) .nothing body
    | .word "do" =>
      skip
      let body ← loopBody fuel
      skipEnds
      if ¬ (← acceptWord "while") then unexpected
      let condition ← inBrackets anyExpression
      statementEnd
      return .repeat_ true (some condition) .nothing body
    | .word "for" =>
      skip
      match ← keyLoop? with
      | some (key, array) => do
        let body ← loopBody fuel
        return .forKeys (.named key) array body
      | none => do
        let (start, condition, step) ← inBrackets do
          let start ← part ";"
          expectSign ";"
          skipLines
          let condition ← if ← atSign ";" then pure none else pure (some (← anyExpression))
          expectSign ";"
          skipLines
          let step ← part ")"
          pure (start, condition, step)
        let body ← loopBody fuel
        return .block [start, .repeat_ false condition step body]
    | _ => do
      let statement ← simpleStatement
      statementEnd
      return statement

/-- Reads the body of a loop. -/
def loopBody : Nat → Reading Statement
  | 0 => unexpected
  | fuel + 1 => do
    skipLines
    inLoop (statement fuel)

/-- Reads statements between braces. -/
def block : Nat → Reading Statement
  | 0 => unexpected
  | fuel + 1 => do
    expectSign "\x7b"
    modify fun reader => { reader with braces := reader.braces + 1 }
    let statements ← blockRest fuel
    expectSign "\x7d"
    modify fun reader => { reader with braces := reader.braces - 1 }
    return .block statements

/-- Reads statements up to a closing brace. -/
def blockRest : Nat → Reading (List Statement)
  | 0 => unexpected
  | fuel + 1 => do
    skipEnds
    if ← atSign "\x7d" then return []
    let first ← statement fuel
    return first :: (← blockRest fuel)

end

/-! ### Scripts -/

/-- Reads statements between braces, as a whole. -/
def body : Reading Statement := do
  block (← depth)

/-- Reads the names of parameters. -/
def parameters : Nat → List String → Reading (List String)
  | 0, _ => unexpected
  | fuel + 1, before => do
    skipLines
    if ← atSign ")" then return before
    let parameter ← name
    if before.contains parameter then
      throw (.repeated (← peekLexeme).line parameter)
    skipLines
    if ← acceptSign "," then parameters fuel (before ++ [parameter])
    else return before ++ [parameter]

/-- Reads a function, behind the word for it. -/
def functionDefinition : Reading (String × Function) := do
  let functionName ← match ← peek with
    | .call name => do
      skip
      pure name
    | _ => name
  let fuel ← depth
  let parameters ← inBrackets (parameters fuel [])
  skipLines
  modify fun reader =>
    { reader with
      arrays := []
      function := some functionName
      record := true
      calls := functionName :: reader.calls }
  let body ← body
  let reader ← get
  set { reader with arrays := [], function := none }
  return (functionName, ⟨parameters, parameters.filter reader.arrays.contains, body⟩)

/-- Reads a rule. -/
def rule : Reading Rule := do
  modify fun reader => { reader with record := true }
  if ← atSign "\x7b" then return ⟨.always, ← body⟩
  let first ← anyExpression
  let condition ← if ← acceptSign "," then do
      skipLines
      pure (Condition.range first (← anyExpression))
    else pure (Condition.when first)
  if ← atSign "\x7b" then return ⟨condition, ← body⟩ else return ⟨condition, .print [] none⟩

/-- Reads the parts of a script. -/
def parts : Nat → Script → Reading Script
  | 0, script => return script
  | fuel + 1, script => do
    skipEnds
    match ← peek with
    | .stop => return script
    | .word "BEGIN" =>
      skip
      modify fun reader => { reader with record := false }
      let body ← body
      parts fuel { script with begins := script.begins ++ [body] }
    | .word "END" =>
      skip
      modify fun reader => { reader with record := false }
      let body ← body
      parts fuel { script with ends := script.ends ++ [body] }
    | .word word =>
      if word = "function" ∨ word = "func" then
        skip
        let function ← functionDefinition
        parts fuel { script with functions := script.functions ++ [function] }
      else
        let rule ← rule
        parts fuel { script with rules := script.rules ++ [rule] }
    | .sign "\x7d" => throw (.extraBrace (← peekLexeme).line)
    | _ =>
      let rule ← rule
      parts fuel { script with rules := script.rules ++ [rule] }

/-- The functions with the parameters that are arrays because they are passed on as such. -/
def withPassed (passed : List (String × String × Nat × String))
    (functions : List (String × Function)) : List (String × Function) :=
  functions.map fun (name, function) =>
    let isArray (parameter : String) : Bool :=
      function.arrays.contains parameter ||
        passed.any fun (caller, callee, position, argument) =>
          caller == name && argument == parameter &&
            (functions.lookup callee).any fun callee =>
              (callee.parameters[position]?).any callee.arrays.contains
    (name, { function with arrays := function.parameters.filter isArray })

/-- Reads a script. -/
def script : Reading Script := do
  let script ← parts ((← depth)) .empty
  let reader ← get
  match reader.calls.find? fun name => (script.functions.lookup name).isNone with
  | some name => throw (.undefined ((← peekLexeme).line + 1) name)
  | none =>
    let functions := Nat.repeat (withPassed reader.passed) script.functions.length script.functions
    return { script with functions }

/-- The script that a text holds. -/
def Script.ofText (text : Text) : Except Fault Script := do
  match lexemes (text.length + 1) 1 .newline text with
  | .error fault => throw (.token fault)
  | .ok rest => do
    let (script, _) ← script.run ⟨rest, [], [], [], 0, 0, 0, none, false⟩
    return script

end TaskRunner.Records
