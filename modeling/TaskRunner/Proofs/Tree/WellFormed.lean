import TaskRunner.Statement
import TaskRunner.Proofs.Scan.Word
import TaskRunner.Proofs.Text.Balance

/-! Well-formed statements: the ones that can be written down and read again.  What the body of a
run without a name may be is left open. -/

namespace TaskRunner

/-- The text fits between quotes of one of the two kinds. -/
def IsQuotable (text : String) : Prop :=
  ¬('"' ∈ text.toList ∧ '\x60' ∈ text.toList)

/-- The text is a row of digits. -/
def IsNumber (digits : String) : Prop :=
  digits.toList ≠ [] ∧ ∀ c ∈ digits.toList, c.isDigit = true

/-- The literal can be written. -/
def Literal.IsWritable : Literal → Prop
  | .string text => IsQuotable text
  | .number digits => IsNumber digits
  | .identifier word => IsWord word

/-- The statement can give the value of a binding. -/
def Statement.IsInitializer : Statement → Prop
  | .literal _ => True
  | .run _ => True
  | _ => False

section

variable (body : List Statement → Prop)

mutual

/-- Names, words and literals of the statement can be written, values of bindings are literals or
runs, and actions stand in runs without a name only, whose bodies satisfy `body`. -/
def Statement.WellFormed : Statement → Prop
  | .config items => Binding.AllWellFormed items
  | .var items => Binding.AllWellFormed items
  | .target name statements => IsWord name ∧ Statement.AllWellFormed statements
  | .run run => run.WellFormed
  | .action _ => False
  | .describe lines => ∀ line ∈ lines, IsQuotable line
  | .extend paths => ∀ path ∈ paths, path.IsWritable
  | .literal value => value.IsWritable

/-- All of the statements are well-formed. -/
def Statement.AllWellFormed : List Statement → Prop
  | [] => True
  | statement :: more => statement.WellFormed ∧ Statement.AllWellFormed more

/-- The run is well-formed. -/
def Run.WellFormed : Run → Prop
  | ⟨some name, statements, _⟩ => IsWord name ∧ Statement.AllWellFormed statements
  | ⟨none, statements, _⟩ => body statements

/-- All of the bindings are well-formed. -/
def Binding.AllWellFormed : List Binding → Prop
  | [] => True
  | ⟨name, initializer⟩ :: more =>
    (IsWord name ∧ initializer.IsInitializer ∧ initializer.WellFormed) ∧
      Binding.AllWellFormed more

end

end

/-! ### Nesting

The braces inside scripts do not count. -/

mutual

/-- The greatest number of blocks open at once in the statement. -/
def Statement.nesting : Statement → Nat
  | .config items => Binding.rowNesting items + 1
  | .var items => Binding.rowNesting items + 1
  | .target _ body => Statement.rowNesting body + 1
  | .run run => run.nesting
  | .action _ => 0
  | .describe _ => 1
  | .extend _ => 1
  | .literal _ => 0

/-- The greatest number of blocks open at once in the statements. -/
def Statement.rowNesting : List Statement → Nat
  | [] => 0
  | statement :: more => max statement.nesting (Statement.rowNesting more)

/-- The greatest number of blocks open at once in the run.  A run with a name and without statements
has no block. -/
def Run.nesting : Run → Nat
  | ⟨some _, [], _⟩ => 0
  | ⟨_, body, _⟩ => Statement.rowNesting body + 1

/-- The greatest number of blocks open at once in the bindings.  A value that is no literal stands
in a block. -/
def Binding.rowNesting : List Binding → Nat
  | [] => 0
  | ⟨_, .literal _⟩ :: more => Binding.rowNesting more
  | ⟨_, initializer⟩ :: more => max (initializer.nesting + 1) (Binding.rowNesting more)

end

end TaskRunner
