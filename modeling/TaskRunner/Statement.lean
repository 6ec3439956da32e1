import TaskRunner.Stage

/-! Statements: what a task file says once it is read. -/

namespace TaskRunner

/-- A value as it is written: quoted text, a row of digits, or a word. -/
inductive Literal where
  | string (text : String)
  | number (digits : String)
  | identifier (word : String)
deriving DecidableEq, Repr

namespace Literal

/-- The text of a literal, however it is written. -/
def value : Literal → String
  | string text => text
  | number digits => digits
  | identifier word => word

/-- The text of a literal that is no number. -/
def text? : Literal → Option String
  | string text => some text
  | number _ => none
  | identifier word => some word

end Literal

mutual

/-- A statement. -/
inductive Statement where
  | config (items : List Binding)
  | var (items : List Binding)
  | target (name : String) (body : List Statement)
  | run (run : Run)
  | action (script : String)
  | describe (lines : List String)
  | extend (paths : List Literal)
  | literal (value : Literal)

/-- A name and the statement that gives its value. -/
structure Binding where
  name : String
  initializer : Statement

/-- A block of statements to run, followed by the target that the run names. -/
structure Run where
  name : Option String
  body : List Statement
  stage : Stage

end

/-! ### Equality, decided -/

mutual

/-- The statements are the same. -/
def Statement.same : Statement → Statement → Bool
  | .config items, .config others => Binding.sameRow items others
  | .var items, .var others => Binding.sameRow items others
  | .target name body, .target other more => name == other && Statement.sameRow body more
  | .run run, .run other => Run.same run other
  | .action script, .action other => script == other
  | .describe lines, .describe others => lines == others
  | .extend paths, .extend others => paths == others
  | .literal value, .literal other => value == other
  | _, _ => false

/-- The statements of one row are those of the other. -/
def Statement.sameRow : List Statement → List Statement → Bool
  | [], [] => true
  | first :: rest, other :: more => Statement.same first other && Statement.sameRow rest more
  | _, _ => false

/-- The bindings are the same. -/
def Binding.same : Binding → Binding → Bool
  | ⟨name, initializer⟩, ⟨other, value⟩ => name == other && Statement.same initializer value

/-- The bindings of one row are those of the other. -/
def Binding.sameRow : List Binding → List Binding → Bool
  | [], [] => true
  | first :: rest, other :: more => Binding.same first other && Binding.sameRow rest more
  | _, _ => false

/-- The runs are the same. -/
def Run.same : Run → Run → Bool
  | ⟨name, body, stage⟩, ⟨other, more, mark⟩ =>
    name == other && Statement.sameRow body more && decide (stage = mark)

end

mutual

theorem Statement.same_iff : (first other : Statement) → (first.same other = true ↔ first = other)
  | .config items, other => by
    cases other <;> simp [Statement.same, Binding.sameRow_iff items]
  | .var items, other => by
    cases other <;> simp [Statement.same, Binding.sameRow_iff items]
  | .target name body, other => by
    cases other <;> simp [Statement.same, Statement.sameRow_iff body]
  | .run run, other => by
    cases other <;> simp [Statement.same, Run.same_iff run]
  | .action script, other => by
    cases other <;> simp [Statement.same]
  | .describe lines, other => by
    cases other <;> simp [Statement.same]
  | .extend paths, other => by
    cases other <;> simp [Statement.same]
  | .literal value, other => by
    cases other <;> simp [Statement.same]

theorem Statement.sameRow_iff :
    (row other : List Statement) → (Statement.sameRow row other = true ↔ row = other)
  | [], other => by cases other <;> simp [Statement.sameRow]
  | first :: rest, other => by
    cases other <;> simp [Statement.sameRow, Statement.same_iff first, Statement.sameRow_iff rest]

theorem Binding.same_iff : (first other : Binding) → (first.same other = true ↔ first = other)
  | ⟨name, initializer⟩, ⟨other, value⟩ => by
    simp [Binding.same, Statement.same_iff initializer]

theorem Binding.sameRow_iff :
    (row other : List Binding) → (Binding.sameRow row other = true ↔ row = other)
  | [], other => by cases other <;> simp [Binding.sameRow]
  | first :: rest, other => by
    cases other <;> simp [Binding.sameRow, Binding.same_iff first, Binding.sameRow_iff rest]

theorem Run.same_iff : (first other : Run) → (first.same other = true ↔ first = other)
  | ⟨name, body, stage⟩, ⟨other, more, mark⟩ => by
    simp [Run.same, Statement.sameRow_iff body, and_assoc]

end

instance : DecidableEq Statement := fun first other => decidable_of_iff _ (first.same_iff other)

instance : DecidableEq Run := fun first other => decidable_of_iff _ (first.same_iff other)

namespace Statement

/-- The stage of a run; every other statement belongs to the middle stage. -/
def stage : Statement → Stage
  | run r => r.stage
  | _ => .during

/-- The statements in the order of their stages; within a stage the order is kept. -/
def sortByStage (body : List Statement) : List Statement :=
  body.filter (fun statement => statement.stage = .before) ++
    body.filter (fun statement => statement.stage = .during) ++
    body.filter (fun statement => statement.stage = .after)

end Statement

end TaskRunner
