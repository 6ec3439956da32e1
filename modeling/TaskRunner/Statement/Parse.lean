import TaskRunner.Statement.Symbol

/-! From tokens to statements.  The parser reads a list of symbols from the front and decides by the
next one.  It allows for a number of braces that may still be opened, its room. -/

namespace TaskRunner

/-- What the name at the front of a binding or a target stands for. -/
inductive NameRole where
  | config
  | variable
  | target
deriving DecidableEq, Repr

/-- What was expected where the parser stopped. -/
inductive Expectation where
  | openBrace
  | closeBrace
  | name (role : NameRole)
  | initializer (name : String)
  | runBlock
  | description
  | path
  | statement
  | shallowerBlock
deriving DecidableEq, Repr

/-- A refusal to read on: the expectation that failed, and the symbols from there on. -/
structure Stop where
  expected : Expectation
  unread : List Symbol
deriving DecidableEq, Repr

/-- A value read from the front of `input`, and what is left. -/
structure Parsed (α : Type) (input : List Symbol) where
  value : α
  rest : List Symbol
  shorter : rest.length < input.length

/-- The outcome of reading from the front of `input`. -/
abbrev Reading (α : Type) (input : List Symbol) := Except Stop (Parsed α input)

namespace Parsed

/-- The same value, read from a longer input. -/
def widen {α : Type} {input wider : List Symbol} (parsed : Parsed α input)
    (h : input.length ≤ wider.length) : Parsed α wider :=
  ⟨parsed.value, parsed.rest, Nat.lt_of_lt_of_le parsed.shorter h⟩

end Parsed

namespace Parse

/-- An opening brace.  The value is the room inside the block. -/
def opening (room : Nat) : (input : List Symbol) → Reading Nat input
  | .openBrace :: rest =>
    match room with
    | 0 => .error ⟨.shallowerBlock, .openBrace :: rest⟩
    | inner + 1 => .ok ⟨inner, rest, by simp⟩
  | input => .error ⟨.openBrace, input⟩

/-- A closing brace. -/
def closing : (input : List Symbol) → Reading Unit input
  | .closeBrace :: rest => .ok ⟨(), rest, by simp⟩
  | input => .error ⟨.closeBrace, input⟩

/-- The rest of a description, up to its closing brace. -/
def descriptions : (input : List Symbol) → Reading (List String) input
  | [] => .error ⟨.closeBrace, []⟩
  | .closeBrace :: rest => .ok ⟨[], rest, by simp⟩
  | .comma :: rest => do
    let more ← descriptions rest
    return more.widen (by simp)
  | .literal (.string text) :: rest => do
    let more ← descriptions rest
    return ⟨text :: more.value, more.rest, Nat.lt_succ_of_lt more.shorter⟩
  | input => .error ⟨.description, input⟩

/-- The rest of a list of paths, up to its closing brace. -/
def paths : (input : List Symbol) → Reading (List Literal) input
  | [] => .error ⟨.closeBrace, []⟩
  | .closeBrace :: rest => .ok ⟨[], rest, by simp⟩
  | .comma :: rest => do
    let more ← paths rest
    return more.widen (by simp)
  | .literal path :: rest => do
    let more ← paths rest
    return ⟨path :: more.value, more.rest, Nat.lt_succ_of_lt more.shorter⟩
  | input => .error ⟨.path, input⟩

mutual

/-- A statement. -/
def statement (room : Nat) (input : List Symbol) : Reading Statement input :=
  match input with
  | .config :: rest => do
    let inside ← opening room rest
    let items ← bindings inside.value .config inside.rest
    return ⟨.config items.value, items.rest, by
      have := inside.shorter; have := items.shorter; simp; omega⟩
  | .var :: rest => do
    let inside ← opening room rest
    let items ← bindings inside.value .variable inside.rest
    return ⟨.var items.value, items.rest, by
      have := inside.shorter; have := items.shorter; simp; omega⟩
  | .target :: .literal (.identifier name) :: rest => do
    let body ← block room rest
    return ⟨.target name body.value, body.rest, by have := body.shorter; simp; omega⟩
  | .target :: rest => .error ⟨.name .target, rest⟩
  | .run stage :: rest => do
    let run ← run room stage rest
    return ⟨.run run.value, run.rest, by have := run.shorter; simp; omega⟩
  | .desc :: rest => do
    let inside ← opening room rest
    let lines ← descriptions inside.rest
    return ⟨.describe lines.value, lines.rest, by
      have := inside.shorter; have := lines.shorter; simp; omega⟩
  | .extend :: rest => do
    let inside ← opening room rest
    let paths ← paths inside.rest
    return ⟨.extend paths.value, paths.rest, by
      have := inside.shorter; have := paths.shorter; simp; omega⟩
  | .script text :: rest => .ok ⟨.action text, rest, by simp⟩
  | .literal value :: rest => .ok ⟨.literal value, rest, by simp⟩
  | input => .error ⟨.statement, input⟩
termination_by 2 * input.length
decreasing_by
  all_goals simp only [List.length_cons]
  · have := inside.shorter
    omega
  · have := inside.shorter
    omega
  all_goals omega

/-- What follows the word `run`: a name, a block, or both. -/
def run (room : Nat) (stage : Stage) (input : List Symbol) : Reading Run input :=
  match input with
  | .literal (.identifier name) :: .openBrace :: rest => do
    let body ← block room (.openBrace :: rest)
    return ⟨⟨some name, body.value, stage⟩, body.rest, by have := body.shorter; simp at *; omega⟩
  | .literal (.identifier name) :: rest => .ok ⟨⟨some name, [], stage⟩, rest, by simp⟩
  | .openBrace :: rest => do
    let body ← block room (.openBrace :: rest)
    return ⟨⟨none, body.value, stage⟩, body.rest, body.shorter⟩
  | input => .error ⟨.runBlock, input⟩
termination_by 2 * input.length + 1

/-- Statements between braces. -/
def block (room : Nat) (input : List Symbol) : Reading (List Statement) input := do
  let inside ← opening room input
  let body ← statements inside.value inside.rest
  return ⟨body.value, body.rest, by have := inside.shorter; have := body.shorter; omega⟩
termination_by 2 * input.length
decreasing_by
  have := inside.shorter
  omega

/-- The rest of a block, up to its closing brace. -/
def statements (room : Nat) (input : List Symbol) : Reading (List Statement) input :=
  match input with
  | [] => .error ⟨.closeBrace, []⟩
  | .closeBrace :: rest => .ok ⟨[], rest, by simp⟩
  | symbol :: rest => do
    let first ← statement room (symbol :: rest)
    let more ← statements room first.rest
    return ⟨first.value :: more.value, more.rest, by
      have := first.shorter; have := more.shorter; omega⟩
termination_by 2 * input.length + 1
decreasing_by
  · omega
  · have := first.shorter
    omega

/-- The rest of a list of bindings, up to its closing brace. -/
def bindings (room : Nat) (role : NameRole) (input : List Symbol) : Reading (List Binding) input :=
  match input with
  | [] => .error ⟨.closeBrace, []⟩
  | .closeBrace :: rest => .ok ⟨[], rest, by simp⟩
  | .comma :: rest => do
    let more ← bindings room role rest
    return more.widen (by simp)
  | .literal (.identifier name) :: rest => do
    let value ← initializer room name rest
    let more ← bindings room role value.rest
    return ⟨⟨name, value.value⟩ :: more.value, more.rest, by
      have := value.shorter; have := more.shorter; simp; omega⟩
  | input => .error ⟨.name role, input⟩
termination_by 2 * input.length
decreasing_by
  all_goals simp only [List.length_cons]
  · omega
  · omega
  · have := value.shorter
    omega

/-- The value of a binding: a literal, or a run between braces. -/
def initializer (room : Nat) (name : String) (input : List Symbol) : Reading Statement input :=
  match input with
  | .literal value :: rest => .ok ⟨.literal value, rest, by simp⟩
  | .openBrace :: rest => do
    let inside ← opening room (.openBrace :: rest)
    match h : inside.rest with
    | .run stage :: rest' => do
      let run ← run inside.value stage rest'
      let close ← closing run.rest
      return ⟨.run run.value, close.rest, by
        have := inside.shorter; have := run.shorter; have := close.shorter
        simp [h] at *; omega⟩
    | other => .error ⟨.initializer name, other⟩
  | input => .error ⟨.initializer name, input⟩
termination_by 2 * input.length
decreasing_by
  have := inside.shorter
  simp only [h, List.length_cons] at this ⊢
  omega

end

/-- Statements up to the end of the input. -/
def program (room : Nat) (input : List Symbol) : Except Stop (List Statement) :=
  match input with
  | [] => .ok []
  | symbol :: rest => do
    let first ← statement room (symbol :: rest)
    let more ← program room first.rest
    return first.value :: more
termination_by input.length
decreasing_by exact first.shorter

end Parse

/-- The greatest number of blocks open at once. -/
def maxDepth : Nat := 128

/-- A failure to parse: what was expected, the text found instead, and the place.  At the end of the
input nothing is found. -/
structure ParseError where
  expected : Expectation
  found : Option String
  place : Place
deriving DecidableEq, Repr

namespace ParseError

/-- The error for stopping at the token with the given index.  Past the last token its place is
taken. -/
def ofIndex (tokens : List Token) (index : Nat) (expected : Expectation) : ParseError :=
  match tokens[index]? with
  | some token => ⟨expected, token.found?, token.place⟩
  | none => ⟨expected, none, (tokens.getLast?.map Token.place).getD Place.start⟩

/-- What stands where something else was expected. -/
def foundText : Option String → String
  | some text => "'" ++ text ++ "'"
  | none => "end of input"

/-- What a name stands for. -/
def roleText : NameRole → String
  | .config => "config name"
  | .variable => "variable name"
  | .target => "target name"

/-- What a failed expectation is called. -/
def causeText (expected : Expectation) (found : Option String) : String :=
  match expected with
  | .openBrace => "expected '\x7b', got " ++ foundText found
  | .closeBrace => "expected '\x7d', got " ++ foundText found
  | .name role => "expected " ++ roleText role ++ ", got " ++ foundText found
  | .initializer name =>
    "expected value or run block for '" ++ name ++ "', got " ++ foundText found
  | .runBlock => "expected target name or '\x7b', got " ++ foundText found
  | .description => "expected quoted description, got " ++ foundText found
  | .path => "expected path, got " ++ foundText found
  | .statement => "expected statement, got " ++ foundText found
  | .shallowerBlock => "blocks nested deeper than " ++ toString maxDepth ++ " levels"

/-- The text shown to a user. -/
def message (error : ParseError) : String :=
  causeText error.expected error.found ++ " at " ++ error.place.describe

end ParseError

/-- The statements of a list of tokens.  What follows the first end of the input is not looked
at. -/
def parse (tokens : List Token) : Except ParseError (List Statement) :=
  let input := symbols tokens
  match Parse.program maxDepth input with
  | .ok statements => .ok statements
  | .error stop => .error (.ofIndex tokens (input.length - stop.unread.length) stop.expected)

end TaskRunner
