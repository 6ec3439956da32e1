import TaskRunner.Proofs.Grammar.Derivation

/-! The leaves of statements: the stages, names, literals, lines, paths and scripts that they hold,
from left to right.  They are the symbols of a derivation that carry a text or a stage, each once
and in order. -/

namespace TaskRunner

/-- The symbol carries a text or a stage. -/
def Symbol.isLeaf : Symbol → Bool
  | .run _ => true
  | .script _ => true
  | .literal _ => true
  | _ => false

/-- The symbol of a token that carries a text or a stage. -/
def Token.leaf? (token : Token) : Option Symbol :=
  token.symbol?.filter Symbol.isLeaf

mutual

/-- The leaves of a statement. -/
def Statement.leaves : Statement → List Symbol
  | .config items => Binding.rowLeaves items
  | .var items => Binding.rowLeaves items
  | .target name body => .literal (.identifier name) :: Statement.rowLeaves body
  | .run run => run.leaves
  | .action script => [.script script]
  | .describe lines => lines.map fun text => .literal (.string text)
  | .extend paths => paths.map .literal
  | .literal value => [.literal value]

/-- The leaves of statements one after the other. -/
def Statement.rowLeaves : List Statement → List Symbol
  | [] => []
  | statement :: more => statement.leaves ++ Statement.rowLeaves more

/-- The leaves of a run: its stage, its name and what its body holds. -/
def Run.leaves : Run → List Symbol
  | ⟨none, body, stage⟩ => .run stage :: Statement.rowLeaves body
  | ⟨some name, body, stage⟩ =>
    .run stage :: .literal (.identifier name) :: Statement.rowLeaves body

/-- The leaves of bindings one after the other. -/
def Binding.rowLeaves : List Binding → List Symbol
  | [] => []
  | ⟨name, initializer⟩ :: more =>
    .literal (.identifier name) :: (initializer.leaves ++ Binding.rowLeaves more)

end

namespace Grammar

@[simp] theorem filter_isLeaf_braced (inside : List Symbol) :
    (braced inside).filter Symbol.isLeaf = inside.filter Symbol.isLeaf := by
  simp [braced, Symbol.isLeaf]

theorem filter_isLeaf_lines (lines : List (Option String)) :
    (lines.map lineSymbol).filter Symbol.isLeaf =
      (lines.filterMap id).map fun text => .literal (.string text) := by
  induction lines with
  | nil => rfl
  | cons line lines ih => cases line <;> simp [lineSymbol, Symbol.isLeaf, List.filter_cons, ih]

theorem filter_isLeaf_paths (paths : List (Option Literal)) :
    (paths.map pathSymbol).filter Symbol.isLeaf = (paths.filterMap id).map .literal := by
  induction paths with
  | nil => rfl
  | cons path paths ih => cases path <;> simp [pathSymbol, Symbol.isLeaf, List.filter_cons, ih]

mutual

/-- The leaves of a statement are those of the phrase that spells it. -/
theorem Phrase.leaves_statement : (phrase : Phrase) →
    phrase.symbols.filter Symbol.isLeaf = phrase.statement.leaves
  | .config entries => by
    simp [Phrase.symbols, Phrase.statement, Statement.leaves, Symbol.isLeaf,
      Entry.leaves_bindings entries]
  | .var entries => by
    simp [Phrase.symbols, Phrase.statement, Statement.leaves, Symbol.isLeaf,
      Entry.leaves_bindings entries]
  | .target name body => by
    simp [Phrase.symbols, Phrase.statement, Statement.leaves, Symbol.isLeaf, List.filter_cons,
      Phrase.leaves_statements body]
  | .run stage call => by
    simp [Phrase.symbols, Phrase.statement, Statement.leaves, Symbol.isLeaf, List.filter_cons,
      ← Call.leaves_run call stage]
  | .describe lines => by
    simp [Phrase.symbols, Phrase.statement, Statement.leaves, Symbol.isLeaf,
      filter_isLeaf_lines]
  | .extend paths => by
    simp [Phrase.symbols, Phrase.statement, Statement.leaves, Symbol.isLeaf,
      filter_isLeaf_paths]
  | .script text => rfl
  | .literal value => rfl

/-- The leaves of statements are those of the phrases that spell them. -/
theorem Phrase.leaves_statements : (phrases : List Phrase) →
    (Phrase.rowSymbols phrases).filter Symbol.isLeaf =
      Statement.rowLeaves (Phrase.statements phrases)
  | [] => rfl
  | phrase :: phrases => by
    rw [Phrase.rowSymbols, List.filter_append, Phrase.leaves_statement phrase,
      Phrase.leaves_statements phrases, Phrase.statements, Statement.rowLeaves]

/-- The leaves of a run are its stage and those of what follows the word `run`. -/
theorem Call.leaves_run : (call : Call) → (stage : Stage) →
    .run stage :: call.symbols.filter Symbol.isLeaf = (call.run stage).leaves
  | .block body, stage => by
    simp [Call.symbols, Call.run, Run.leaves, Phrase.leaves_statements body]
  | .name name, stage => rfl
  | .both name body, stage => by
    simp [Call.symbols, Call.run, Run.leaves, Symbol.isLeaf, List.filter_cons,
      Phrase.leaves_statements body]

/-- The leaves of bindings are those of the entries that spell them. -/
theorem Entry.leaves_bindings : (entries : List Entry) →
    (Entry.rowSymbols entries).filter Symbol.isLeaf =
      Binding.rowLeaves (Entry.bindings entries)
  | [] => rfl
  | .comma :: entries => by
    simp [Entry.rowSymbols, Entry.symbols, Entry.bindings, Symbol.isLeaf,
      Entry.leaves_bindings entries]
  | .binding name value :: entries => by
    simp [Entry.rowSymbols, Entry.symbols, Entry.bindings, Binding.rowLeaves, Symbol.isLeaf,
      List.filter_cons, Initial.leaves_statement value, Entry.leaves_bindings entries]

/-- The leaves of a value are those of the statement that gives it. -/
theorem Initial.leaves_statement : (value : Initial) →
    value.symbols.filter Symbol.isLeaf = value.statement.leaves
  | .literal value => rfl
  | .run stage call => by
    simp [Initial.symbols, Initial.statement, Statement.leaves, Symbol.isLeaf, List.filter_cons,
      ← Call.leaves_run call stage]

end

end Grammar

end TaskRunner
