import TaskRunner.Proofs.Tree.Canonical
import Mathlib.Data.List.Forall2

/-! Statements that differ in their scripts only, and by how much scripts differ that are read again
from a canonical text. -/

namespace TaskRunner

mutual

/-- The statements are the same, but for scripts that the relation holds between. -/
inductive Statement.Alike (S : String → String → Prop) : Statement → Statement → Prop where
  | config {items others : List Binding} (h : List.Forall₂ (Binding.Alike S) items others) :
      Statement.Alike S (.config items) (.config others)
  | var {items others : List Binding} (h : List.Forall₂ (Binding.Alike S) items others) :
      Statement.Alike S (.var items) (.var others)
  | target (name : String) {body other : List Statement}
      (h : List.Forall₂ (Statement.Alike S) body other) :
      Statement.Alike S (.target name body) (.target name other)
  | run {run other : Run} (h : Run.Alike S run other) : Statement.Alike S (.run run) (.run other)
  | action {script other : String} (h : S script other) :
      Statement.Alike S (.action script) (.action other)
  | describe (lines : List String) : Statement.Alike S (.describe lines) (.describe lines)
  | extend (paths : List Literal) : Statement.Alike S (.extend paths) (.extend paths)
  | literal (value : Literal) : Statement.Alike S (.literal value) (.literal value)

/-- The runs are the same, but for scripts that the relation holds between. -/
inductive Run.Alike (S : String → String → Prop) : Run → Run → Prop where
  | mk (name : Option String) {body other : List Statement} (stage : Stage)
      (h : List.Forall₂ (Statement.Alike S) body other) :
      Run.Alike S ⟨name, body, stage⟩ ⟨name, other, stage⟩

/-- The bindings are the same, but for scripts that the relation holds between. -/
inductive Binding.Alike (S : String → String → Prop) : Binding → Binding → Prop where
  | mk (name : String) {initializer other : Statement}
      (h : Statement.Alike S initializer other) :
      Binding.Alike S ⟨name, initializer⟩ ⟨name, other⟩

end

section Refl

variable {S : String → String → Prop}

mutual

theorem Statement.Alike.refl (h : ∀ script, S script script) :
    (statement : Statement) → Statement.Alike S statement statement
  | .config items => .config (Binding.alike_refl_row h items)
  | .var items => .var (Binding.alike_refl_row h items)
  | .target name body => .target name (Statement.alike_refl_row h body)
  | .run run => .run (Run.Alike.refl h run)
  | .action script => .action (h script)
  | .describe lines => .describe lines
  | .extend paths => .extend paths
  | .literal value => .literal value

theorem Statement.alike_refl_row (h : ∀ script, S script script) :
    (statements : List Statement) → List.Forall₂ (Statement.Alike S) statements statements
  | [] => .nil
  | statement :: more =>
    .cons (Statement.Alike.refl h statement) (Statement.alike_refl_row h more)

theorem Run.Alike.refl (h : ∀ script, S script script) : (run : Run) → Run.Alike S run run
  | ⟨name, body, stage⟩ => .mk name stage (Statement.alike_refl_row h body)

theorem Binding.alike_refl_row (h : ∀ script, S script script) :
    (items : List Binding) → List.Forall₂ (Binding.Alike S) items items
  | [] => .nil
  | ⟨name, initializer⟩ :: more =>
    .cons (.mk name (Statement.Alike.refl h initializer)) (Binding.alike_refl_row h more)

end

theorem Statement.Alike.stage_eq {statement other : Statement}
    (h : Statement.Alike S statement other) : statement.stage = other.stage := by
  cases h with
  | run hrun => cases hrun with | mk name stage hbody => rfl
  | _ => rfl

/-- The order of stages does not look at scripts. -/
theorem Statement.alike_sortByStage {body other : List Statement}
    (h : List.Forall₂ (Statement.Alike S) body other) :
    List.Forall₂ (Statement.Alike S) (Statement.sortByStage body)
      (Statement.sortByStage other) := by
  have hfilter (stage : Stage) : List.Forall₂ (Statement.Alike S)
      (body.filter fun statement => statement.stage = stage)
      (other.filter fun statement => statement.stage = stage) := by
    refine List.rel_filter (fun a b hab => ?_) h
    simp only [hab.stage_eq]
  exact List.rel_append (List.rel_append (hfilter .before) (hfilter .during)) (hfilter .after)

end Refl

/-! ### Scripts that are laid out anew -/

/-- The scripts are the same without their margins, be it as they stand or trimmed. -/
structure SameDedent (script other : String) : Prop where
  standing : dedent script.toList = dedent other.toList
  trimmed : dedent (trim script.toList) = dedent (trim other.toList)

theorem SameDedent.refl (script : String) : SameDedent script script := ⟨rfl, rfl⟩

theorem dedent_trim_eq_nil_iff {text : List Char} : dedent (trim text) = [] ↔ trim text = [] := by
  constructor
  · intro hnil
    have hsolid := solid_dedent (trim text)
    rw [hnil, solid_nil, solid_trim] at hsolid
    have hblank := trim_append_of_blank (solid_eq_nil_iff.1 hsolid.symm)
      (isTrimmed_trim []) (show isBlankText [] = true by rfl)
    simpa using hblank
  · intro hnil
    rw [hnil]
    rfl

theorem SameDedent.of_isTrimmed {script other : String} (h : IsTrimmed script.toList)
    (hother : IsTrimmed other.toList) (hdedent : dedent script.toList = dedent other.toList) :
    SameDedent script other where
  standing := hdedent
  trimmed := by rw [h.trim_eq, hother.trim_eq, hdedent]

/-- The body of a run as it was read, and as it is read again. -/
theorem IsCapturedBody.alike_relaidBody {body : List Statement} (h : IsCapturedBody body)
    (level : Nat) : List.Forall₂ (Statement.Alike SameDedent) body (relaidBody level body) := by
  rcases h with rfl | ⟨script, rfl, hscript⟩
  · exact .nil
  · have hjoin : joinLines (Layout.scripts [.action script]) = script.toList := by
      simp [Layout.scripts, joinLines]
    have hne : dedent (trim script.toList) ≠ [] := by
      rw [Ne, dedent_trim_eq_nil_iff, hscript.trimmed.trim_eq]
      exact hscript.ne_nil
    have hhang := isTrimmed_hang (level + 1) script.toList
    rw [relaidBody, hjoin, if_neg (by simpa using hne)]
    refine .cons (.action (.of_isTrimmed hscript.trimmed ?_ ?_)) .nil <;> rw [String.toList_ofList]
    · exact hhang
    · have hback := dedent_trim_hang (level + 1) script.toList
      rw [hhang.trim_eq, hscript.trimmed.trim_eq] at hback
      rw [hscript.trimmed.trim_eq, hback]

mutual

/-- A statement as it was read, and as it is read again. -/
theorem Statement.alike_relaid : (statement : Statement) → (level : Nat) →
    statement.WellFormed IsCapturedBody →
    Statement.Alike SameDedent statement (statement.relaid level)
  | .config items, level, h => .config (Binding.alike_rowRelaid items (level + 1) h)
  | .var items, level, h => .var (Binding.alike_rowRelaid items (level + 1) h)
  | .target name body, level, h => .target name (Statement.alike_rowRelaid body (level + 1) h.2)
  | .run run, level, h => .run (Run.alike_relaid run level h)
  | .action script, _, _ => .action (SameDedent.refl script)
  | .describe lines, _, _ => .describe lines
  | .extend paths, _, _ => .extend paths
  | .literal value, _, _ => .literal value

/-- Statements as they were read, and as they are read again. -/
theorem Statement.alike_rowRelaid : (statements : List Statement) → (level : Nat) →
    Statement.AllWellFormed IsCapturedBody statements →
    List.Forall₂ (Statement.Alike SameDedent) statements (Statement.rowRelaid level statements)
  | [], _, _ => .nil
  | statement :: more, level, h =>
    .cons (Statement.alike_relaid statement level h.1) (Statement.alike_rowRelaid more level h.2)

/-- A run as it was read, and as it is read again. -/
theorem Run.alike_relaid : (run : Run) → (level : Nat) → run.WellFormed IsCapturedBody →
    Run.Alike SameDedent run (run.relaid level)
  | ⟨none, _, stage⟩, level, h => .mk none stage (IsCapturedBody.alike_relaidBody h level)
  | ⟨some name, body, stage⟩, level, h =>
    .mk (some name) stage (Statement.alike_rowRelaid body (level + 1) h.2)

/-- Bindings as they were read, and as they are read again. -/
theorem Binding.alike_rowRelaid : (items : List Binding) → (level : Nat) →
    Binding.AllWellFormed IsCapturedBody items →
    List.Forall₂ (Binding.Alike SameDedent) items (Binding.rowRelaid level items)
  | [], _, _ => .nil
  | ⟨name, initializer⟩ :: more, level, h =>
    .cons (.mk name (Statement.alike_relaid initializer (level + 1) h.1.2.2))
      (Binding.alike_rowRelaid more level h.2)

end

end TaskRunner
