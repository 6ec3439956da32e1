import TaskRunner.Statement.Symbol

/-! The grammar of statements, by its derivations.  A derivation says which rule makes each part of
a row of symbols; `symbols` is the row that it derives and `statement` the statement that it
spells.

A phrase is what stands for one statement.  Commas are free among the entries of three kinds of
block and stand nowhere else. -/

namespace TaskRunner.Grammar

mutual

/-- A derivation of a statement. -/
inductive Phrase where
  | config (entries : List Entry)
  | var (entries : List Entry)
  | target (name : String) (body : List Phrase)
  | run (stage : Stage) (call : Call)
  | describe (lines : List (Option String))
  | extend (paths : List (Option Literal))
  | script (text : String)
  | literal (value : Literal)

/-- A derivation of what follows the word `run`: a block, a name, or a name and a block. -/
inductive Call where
  | block (body : List Phrase)
  | name (name : String)
  | both (name : String) (body : List Phrase)

/-- A derivation of an entry in a block of bindings. -/
inductive Entry where
  | comma
  | binding (name : String) (value : Initial)

/-- A derivation of the value of a binding. -/
inductive Initial where
  | literal (value : Literal)
  | run (stage : Stage) (call : Call)

end

/-! ### The symbols of a derivation -/

/-- Symbols between braces. -/
def braced (inside : List Symbol) : List Symbol :=
  .openBrace :: (inside ++ [.closeBrace])

theorem braced_append (inside rest : List Symbol) :
    braced inside ++ rest = .openBrace :: (inside ++ .closeBrace :: rest) := by
  simp [braced]

/-- The symbol of a line of a description; in place of a line a comma may stand. -/
def lineSymbol : Option String → Symbol
  | none => .comma
  | some text => .literal (.string text)

/-- The symbol of a path; in place of a path a comma may stand. -/
def pathSymbol : Option Literal → Symbol
  | none => .comma
  | some path => .literal path

mutual

/-- The symbols that a phrase derives. -/
def Phrase.symbols : Phrase → List Symbol
  | .config entries => .config :: braced (Entry.rowSymbols entries)
  | .var entries => .var :: braced (Entry.rowSymbols entries)
  | .target name body =>
    .target :: .literal (.identifier name) :: braced (Phrase.rowSymbols body)
  | .run stage call => .run stage :: call.symbols
  | .describe lines => .desc :: braced (lines.map lineSymbol)
  | .extend paths => .extend :: braced (paths.map pathSymbol)
  | .script text => [.script text]
  | .literal value => [.literal value]

/-- The symbols of phrases one after the other. -/
def Phrase.rowSymbols : List Phrase → List Symbol
  | [] => []
  | phrase :: more => phrase.symbols ++ Phrase.rowSymbols more

/-- The symbols of what follows the word `run`. -/
def Call.symbols : Call → List Symbol
  | .block body => braced (Phrase.rowSymbols body)
  | .name name => [.literal (.identifier name)]
  | .both name body => .literal (.identifier name) :: braced (Phrase.rowSymbols body)

/-- The symbols of an entry. -/
def Entry.symbols : Entry → List Symbol
  | .comma => [.comma]
  | .binding name value => .literal (.identifier name) :: value.symbols

/-- The symbols of entries one after the other. -/
def Entry.rowSymbols : List Entry → List Symbol
  | [] => []
  | entry :: more => entry.symbols ++ Entry.rowSymbols more

/-- The symbols of a value. -/
def Initial.symbols : Initial → List Symbol
  | .literal value => [.literal value]
  | .run stage call => braced (.run stage :: call.symbols)

end

/-! ### The statement of a derivation -/

mutual

/-- The statement that a phrase spells. -/
def Phrase.statement : Phrase → Statement
  | .config entries => .config (Entry.bindings entries)
  | .var entries => .var (Entry.bindings entries)
  | .target name body => .target name (Phrase.statements body)
  | .run stage call => .run (call.run stage)
  | .describe lines => .describe (lines.filterMap id)
  | .extend paths => .extend (paths.filterMap id)
  | .script text => .action text
  | .literal value => .literal value

/-- The statements that a row of phrases spells. -/
def Phrase.statements : List Phrase → List Statement
  | [] => []
  | phrase :: more => phrase.statement :: Phrase.statements more

/-- The run that the word `run` and what follows it spell. -/
def Call.run (stage : Stage) : Call → Run
  | .block body => ⟨none, Phrase.statements body, stage⟩
  | .name name => ⟨some name, [], stage⟩
  | .both name body => ⟨some name, Phrase.statements body, stage⟩

/-- The bindings that a row of entries spells.  Commas spell none. -/
def Entry.bindings : List Entry → List Binding
  | [] => []
  | .comma :: more => Entry.bindings more
  | .binding name value :: more => ⟨name, value.statement⟩ :: Entry.bindings more

/-- The statement that gives the value of a binding. -/
def Initial.statement : Initial → Statement
  | .literal value => .literal value
  | .run stage call => .run (call.run stage)

end

/-! ### The depth of a derivation -/

mutual

/-- The greatest number of braces open at once in a phrase. -/
def Phrase.depth : Phrase → Nat
  | .config entries => Entry.rowDepth entries + 1
  | .var entries => Entry.rowDepth entries + 1
  | .target _ body => Phrase.rowDepth body + 1
  | .run _ call => call.depth
  | .describe _ => 1
  | .extend _ => 1
  | .script _ => 0
  | .literal _ => 0

/-- The greatest number of braces open at once in a row of phrases. -/
def Phrase.rowDepth : List Phrase → Nat
  | [] => 0
  | phrase :: more => max phrase.depth (Phrase.rowDepth more)

/-- The greatest number of braces open at once in what follows the word `run`. -/
def Call.depth : Call → Nat
  | .block body => Phrase.rowDepth body + 1
  | .name _ => 0
  | .both _ body => Phrase.rowDepth body + 1

/-- The greatest number of braces open at once in a row of entries. -/
def Entry.rowDepth : List Entry → Nat
  | [] => 0
  | .comma :: more => Entry.rowDepth more
  | .binding _ value :: more => max value.depth (Entry.rowDepth more)

/-- The greatest number of braces open at once in a value. -/
def Initial.depth : Initial → Nat
  | .literal _ => 0
  | .run _ call => call.depth + 1

end

/-! ### How the parts of a derivation begin -/

/-- The symbol may begin a statement: it is neither a brace nor a comma. -/
def beginsPhrase (symbol : Symbol) : Prop :=
  symbol ≠ .openBrace ∧ symbol ≠ .closeBrace ∧ symbol ≠ .comma

theorem Phrase.exists_symbols_eq (phrase : Phrase) :
    ∃ symbol more, phrase.symbols = symbol :: more ∧ beginsPhrase symbol := by
  cases phrase <;> simp [Phrase.symbols, beginsPhrase]

theorem Entry.exists_symbols_eq (entry : Entry) :
    ∃ symbol more, entry.symbols = symbol :: more ∧ symbol ≠ .closeBrace := by
  cases entry <;> simp [Entry.symbols]

theorem lineSymbol_ne_openBrace (line : Option String) : lineSymbol line ≠ .openBrace := by
  cases line <;> simp [lineSymbol]

theorem pathSymbol_ne_openBrace (path : Option Literal) : pathSymbol path ≠ .openBrace := by
  cases path <;> simp [pathSymbol]

theorem lineSymbol_ne_closeBrace (line : Option String) : lineSymbol line ≠ .closeBrace := by
  cases line <;> simp [lineSymbol]

theorem pathSymbol_ne_closeBrace (path : Option Literal) : pathSymbol path ≠ .closeBrace := by
  cases path <;> simp [pathSymbol]

end TaskRunner.Grammar
