import TaskRunner.Statement.Parse

/-! The parser as it moves over the tokens themselves.  It knows the index of the next token and how
many braces it has opened, looks at one token at a time and never goes back.  Three of its moves
have no guard of their own: taking a token, lowering the depth, and the test at the end of a block.
Where one of them is not allowed the parser breaks down, which is not the same as to refuse the
input.  A move may also never end; it has no outcome then. -/

namespace TaskRunner

/-- The literal that a token is. -/
def Token.literal? (token : Token) : Option Literal :=
  match token.kind with
  | .string => some (.string token.text)
  | .number => some (.number token.text)
  | .identifier => some (.identifier token.text)
  | _ => none

/-- Where the parser stands: the index of the next token, the number of open braces, and the number
of blocks whose statements are being read. -/
structure Cursor where
  index : Nat
  depth : Nat
  blocks : Nat
deriving DecidableEq, Repr

namespace Cursor

/-- The place before the first token. -/
def start : Cursor := ⟨0, 0, 0⟩

/-- What no input may lead to: a token is taken where there is none, the depth is lowered where no
brace is open, or a block ends at another depth than it began at. -/
inductive Breakdown where
  | noToken
  | noBrace
  | unbalanced
deriving DecidableEq, Repr

/-- Why the parser does not come to its end. -/
inductive Ending where
  | refused (error : ParseError)
  | broken (breakdown : Breakdown)
deriving DecidableEq, Repr

/-- Where the parser stands and where it stood before, the latest place first. -/
structure Trail where
  current : Cursor
  passed : List Cursor
deriving DecidableEq, Repr

/-- The trail of a parser that has not moved. -/
def Trail.start : Trail := ⟨Cursor.start, []⟩

/-- All places where the parser has stood. -/
def Trail.cursors (trail : Trail) : List Cursor :=
  trail.current :: trail.passed

/-- A move of the parser.  It yields a value or an ending, and goes on with the trail. -/
abbrev Move := ExceptT Ending (StateT Trail Option)

namespace Move

variable {α : Type}

/-- Goes on to another place. -/
def go (next : Cursor → Cursor) : Move Unit :=
  fun trail => some (.ok (), ⟨next trail.current, trail.cursors⟩)

/-- Breaks down. -/
def breakDown (breakdown : Breakdown) : Move α :=
  fun trail => some (.error (.broken breakdown), trail)

/-- The number of open braces. -/
def depth : Move Nat :=
  fun trail => some (.ok trail.current.depth, trail)

/-- One less than the number of open braces. -/
def lowered : Move Nat := do
  match ← depth with
  | 0 => breakDown .noBrace
  | outside + 1 => return outside

/-- Begins to read the statements of a block. -/
def enter : Move Unit :=
  go fun cursor => { cursor with blocks := cursor.blocks + 1 }

/-- Is done with the statements of a block. -/
def leave : Move Unit :=
  go fun cursor => { cursor with blocks := cursor.blocks - 1 }

/-- Passes the next token by. -/
def pass : Move Unit :=
  go fun cursor => { cursor with index := cursor.index + 1 }

end Move

/-- The tokens that the parser moves over. -/
abbrev Tokens : Type := List Token

namespace Tokens

open Move

variable {α : Type}

/-- The next token, if there is one. -/
def peek? (tokens : Tokens) : Move (Option Token) :=
  fun trail => some (.ok tokens[trail.current.index]?, trail)

/-- The kind of the next token.  Past the last token the input is at its end. -/
def kind (tokens : Tokens) : Move Token.Kind := do
  return ((← tokens.peek?).map Token.kind).getD .endOfInput

/-- Whether the next token is of a kind. -/
def check (tokens : Tokens) (expected : Token.Kind) : Move Bool := do
  return (← tokens.kind) == expected

/-- Refuses the input at the next token. -/
def refuse (tokens : Tokens) (expected : Expectation) : Move α :=
  fun trail => some (.error (.refused (.ofIndex tokens trail.current.index expected)), trail)

/-- Takes the next token. -/
def advance (tokens : Tokens) : Move Token := do
  match ← tokens.peek? with
  | none => breakDown .noToken
  | some token =>
    pass
    return token

/-- Takes an opening brace. -/
def openBrace (tokens : Tokens) : Move Unit := do
  if ← tokens.check .leftBrace then
    if (← Move.depth) = maxDepth then tokens.refuse .shallowerBlock
    else go fun cursor => { cursor with index := cursor.index + 1, depth := cursor.depth + 1 }
  else tokens.refuse .openBrace

/-- Takes a closing brace. -/
def closeBrace (tokens : Tokens) : Move Unit := do
  if ← tokens.check .rightBrace then
    let outside ← lowered
    go fun cursor => { cursor with index := cursor.index + 1, depth := outside }
  else tokens.refuse .closeBrace

/-- Whether what is being read goes on, neither with a closing brace nor with the end. -/
def goesOn (tokens : Tokens) : Move Bool := do
  return !(← tokens.check .rightBrace) && !(← tokens.check .endOfInput)

/-- Passes commas by.  The value is whether another entry follows. -/
def skipCommas (tokens : Tokens) : Move Bool := do
  if ← tokens.check .comma then
    pass
    tokens |>.skipCommas
  else tokens.goesOn
partial_fixpoint

/-- Takes a literal, if one is next. -/
def literal (tokens : Tokens) : Move (Option Literal) := do
  match (← tokens.peek?).bind Token.literal? with
  | none => return none
  | some value =>
    pass
    return some value

/-- Takes a name. -/
def name (tokens : Tokens) (role : NameRole) : Move String := do
  if ← tokens.check .identifier then return (← tokens.advance).text
  else tokens.refuse (.name role)

/-- Takes a name, if one is next. -/
def name? (tokens : Tokens) : Move (Option String) := do
  if ← tokens.check .identifier then return some (← tokens.advance).text
  else return none

/-- The rest of a description and its closing brace. -/
def descriptions (tokens : Tokens) : Move (List String) := do
  if ← tokens.skipCommas then
    if ← tokens.check .string then
      let text := (← tokens.advance).text
      let more ← tokens |>.descriptions
      return text :: more
    else tokens.refuse .description
  else
    tokens.closeBrace
    return []
partial_fixpoint

/-- The rest of a list of paths and its closing brace. -/
def paths (tokens : Tokens) : Move (List Literal) := do
  if ← tokens.skipCommas then
    match ← tokens.literal with
    | some path =>
      let more ← tokens |>.paths
      return path :: more
    | none => tokens.refuse .path
  else
    tokens.closeBrace
    return []
partial_fixpoint

mutual

/-- A statement. -/
def statement (tokens : Tokens) : Move Statement := do
  match ← tokens.kind with
  | .config =>
    let _ ← tokens.advance
    tokens.openBrace
    return .config (← tokens |>.bindings .config)
  | .var =>
    let _ ← tokens.advance
    tokens.openBrace
    return .var (← tokens |>.bindings .variable)
  | .target =>
    let _ ← tokens.advance
    let name ← tokens.name .target
    return .target name (← tokens |>.block)
  | .run => return .run (← tokens |>.run)
  | .desc =>
    let _ ← tokens.advance
    tokens.openBrace
    return .describe (← tokens.descriptions)
  | .extend =>
    let _ ← tokens.advance
    tokens.openBrace
    return .extend (← tokens.paths)
  | .script => return .action (← tokens.advance).text
  | _ =>
    match ← tokens.literal with
    | some value => return .literal value
    | none => tokens.refuse .statement
partial_fixpoint

/-- The word `run` with what follows it: a name, a block, or both. -/
def run (tokens : Tokens) : Move Run := do
  let stage := (← tokens.advance).stage
  let name ← tokens.name?
  let body ← tokens |>.runBody name
  return ⟨name, body, stage⟩
partial_fixpoint

/-- The block of a run.  Only a run with a name may have none. -/
def runBody (tokens : Tokens) (name : Option String) : Move (List Statement) := do
  if ← tokens.check .leftBrace then tokens |>.block
  else if name.isSome then return []
  else tokens.refuse .runBlock
partial_fixpoint

/-- Statements between braces. -/
def block (tokens : Tokens) : Move (List Statement) := do
  tokens.openBrace
  let outside ← lowered
  enter
  let body ← tokens |>.statements
  if (← Move.depth) = outside then return body else breakDown .unbalanced
partial_fixpoint

/-- The rest of a block and its closing brace. -/
def statements (tokens : Tokens) : Move (List Statement) := do
  if ← tokens.goesOn then
    let first ← tokens |>.statement
    let more ← tokens |>.statements
    return first :: more
  else
    leave
    tokens.closeBrace
    return []
partial_fixpoint

/-- The rest of a list of bindings and its closing brace. -/
def bindings (tokens : Tokens) (role : NameRole) : Move (List Binding) := do
  if ← tokens.skipCommas then
    let name ← tokens.name role
    let value ← tokens |>.initializer name
    let more ← tokens |>.bindings role
    return ⟨name, value⟩ :: more
  else
    tokens.closeBrace
    return []
partial_fixpoint

/-- The value of a binding: a literal, or a run between braces. -/
def initializer (tokens : Tokens) (name : String) : Move Statement := do
  match ← tokens.literal with
  | some value => return .literal value
  | none =>
    if ← tokens.check .leftBrace then
      tokens.openBrace
      if ← tokens.check .run then
        let run ← tokens |>.run
        tokens.closeBrace
        return .run run
      else tokens.refuse (.initializer name)
    else tokens.refuse (.initializer name)
partial_fixpoint

end

/-- Statements up to the end of the input. -/
def program (tokens : Tokens) : Move (List Statement) := do
  if ← tokens.check .endOfInput then return []
  else
    let first ← tokens.statement
    let more ← tokens |>.program
    return first :: more
partial_fixpoint

end Tokens

/-- What the parser comes to on a list of tokens, and the trail that it leaves. -/
def outcome (tokens : List Token) : Option (Except Ending (List Statement) × Trail) :=
  Tokens.program tokens Trail.start

end Cursor

end TaskRunner
