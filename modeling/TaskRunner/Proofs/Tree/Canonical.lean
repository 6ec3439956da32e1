import TaskRunner.Proofs.Tree.Reading
import TaskRunner.Proofs.Tree.RoundTrip

/-! The canonical form is a fixed point.  Laying the scripts of runs out anew changes nothing about
how the statements are written, and whatever is read from a source text can be written and read
again. -/

namespace TaskRunner

open Grammar

/-! ### Scripts that are laid out anew -/

theorem scriptBlock_relaidBody (level : Nat) (body : List Statement) :
    Layout.scriptBlock level (joinLines (Layout.scripts (relaidBody level body))) =
      Layout.scriptBlock level (joinLines (Layout.scripts body)) := by
  refine scriptBlock_congr ?_ level
  generalize hscript : dedent (trim (joinLines (Layout.scripts body))) = script
  by_cases hne : script = []
  · rw [relaidBody, hscript, hne]
    rfl
  · rw [relaidBody, hscript, if_neg (by simpa using hne), ← hscript]
    have hjoin (text : List Char) :
        joinLines (Layout.scripts [.action (String.ofList text)]) = text := by
      simp [Layout.scripts, joinLines]
    rw [hjoin, dedent_trim_hang]

theorem isEmpty_rowRelaid (level : Nat) (statements : List Statement) :
    (Statement.rowRelaid level statements).isEmpty = statements.isEmpty := by
  cases statements <;> rfl

theorem isEmpty_rowRelaid_bindings (level : Nat) (items : List Binding) :
    (Binding.rowRelaid level items).isEmpty = items.isEmpty := by
  rcases items with _ | ⟨⟨name, initializer⟩, more⟩ <;> rfl

theorem block_eq {level : Nat} {body other : List Statement}
    (hempty : body.isEmpty = other.isEmpty)
    (h : Layout.statements (level + 1) body = Layout.statements (level + 1) other) :
    Layout.block level body = Layout.block level other := by
  cases body <;> cases other <;> simp_all [Layout.block]

theorem bindingBlock_eq {level : Nat} {items other : List Binding}
    (hempty : items.isEmpty = other.isEmpty)
    (h : Layout.bindings (level + 1) items = Layout.bindings (level + 1) other) :
    Layout.bindingBlock level items = Layout.bindingBlock level other := by
  cases items <;> cases other <;> simp_all [Layout.bindingBlock]

theorem binding_eq {level : Nat} (name : String) {initializer other : Statement}
    (hinitializer : ∀ value, initializer = .literal value → False)
    (hother : ∀ value, other = .literal value → False)
    (h : Layout.statement (level + 1) initializer = Layout.statement (level + 1) other) :
    Layout.binding level ⟨name, initializer⟩ = Layout.binding level ⟨name, other⟩ := by
  rw [Layout.binding.eq_2 _ _ _ hinitializer, Layout.binding.eq_2 _ _ _ hother, h]

mutual

/-- A statement and the one that is read again are written alike. -/
theorem Statement.layout_relaid : (statement : Statement) → (level : Nat) →
    Layout.statement level (statement.relaid level) = Layout.statement level statement
  | .config items, level => by
    rw [Statement.relaid, Layout.statement, Layout.statement,
      bindingBlock_eq (isEmpty_rowRelaid_bindings _ items)
        (Binding.layout_rowRelaid items (level + 1))]
  | .var items, level => by
    rw [Statement.relaid, Layout.statement, Layout.statement,
      bindingBlock_eq (isEmpty_rowRelaid_bindings _ items)
        (Binding.layout_rowRelaid items (level + 1))]
  | .target name body, level => by
    rw [Statement.relaid, Layout.statement, Layout.statement,
      block_eq (isEmpty_rowRelaid _ body) (Statement.layout_rowRelaid body (level + 1))]
  | .run run, level => by
    rw [Statement.relaid, Layout.statement, Layout.statement, Run.layout_relaid run level]
  | .action script, level => rfl
  | .describe lines, level => rfl
  | .extend paths, level => rfl
  | .literal value, level => rfl

/-- Statements and those that are read again are written alike. -/
theorem Statement.layout_rowRelaid : (statements : List Statement) → (level : Nat) →
    Layout.statements level (Statement.rowRelaid level statements) =
      Layout.statements level statements
  | [], level => rfl
  | statement :: more, level => by
    rw [Statement.rowRelaid, Layout.statements, Layout.statements,
      Statement.layout_relaid statement level, Statement.layout_rowRelaid more level]

/-- A run and the one that is read again are written alike. -/
theorem Run.layout_relaid : (run : Run) → (level : Nat) →
    Layout.run level (run.relaid level) = Layout.run level run
  | ⟨none, body, stage⟩, level => by
    rw [Run.relaid, Layout.run, Layout.run, scriptBlock_relaidBody]
  | ⟨some name, body, stage⟩, level => by
    rw [Run.relaid, Layout.run, Layout.run, isEmpty_rowRelaid,
      block_eq (isEmpty_rowRelaid _ body) (Statement.layout_rowRelaid body (level + 1))]

/-- Bindings and those that are read again are written alike. -/
theorem Binding.layout_rowRelaid : (items : List Binding) → (level : Nat) →
    Layout.bindings level (Binding.rowRelaid level items) = Layout.bindings level items
  | [], level => rfl
  | ⟨name, initializer⟩ :: more, level => by
    have hinitializer := Statement.layout_relaid initializer (level + 1)
    rw [Binding.rowRelaid, Layout.bindings, Layout.bindings, Binding.layout_rowRelaid more level]
    cases initializer with
    | literal value => rfl
    | _ => rw [binding_eq name (by simp [Statement.relaid]) (by simp) hinitializer]

end

theorem isTarget_relaid (level : Nat) (statement : Statement) :
    Layout.isTarget (statement.relaid level) = Layout.isTarget statement := by
  cases statement <;> rfl

theorem continued_rowRelaid (statements : List Statement) (afterTarget : Bool) :
    Layout.continued afterTarget (Statement.rowRelaid 0 statements) =
      Layout.continued afterTarget statements := by
  induction statements generalizing afterTarget with
  | nil => rfl
  | cons statement more ih =>
    rw [Statement.rowRelaid, Layout.continued, Layout.continued, isTarget_relaid,
      Statement.layout_relaid, ih]

/-- The statements that are read again have the same canonical form. -/
theorem format_rowRelaid (statements : List Statement) :
    format (Statement.rowRelaid 0 statements) = format statements := by
  cases statements with
  | nil => rfl
  | cons statement more =>
    rw [format, format, Statement.rowRelaid, Layout.file, Layout.file, isTarget_relaid,
      Statement.layout_relaid, continued_rowRelaid]

/-! ### What is read can be written -/

/-- The body of a run as it is read can be written and read again. -/
theorem IsCapturedBody.isScriptBody {body : List Statement} (h : IsCapturedBody body) :
    IsScriptBody body := by
  rcases h with rfl | ⟨script, rfl, hscript⟩
  · exact ⟨by simp, by decide⟩
  · refine ⟨by simp, ?_⟩
    simpa [Layout.scripts, joinLines] using hscript.balanced

section Mono

variable {p q : List Statement → Prop}

mutual

theorem Statement.WellFormed.mono (hbody : ∀ body, p body → q body) :
    (statement : Statement) → statement.WellFormed p → statement.WellFormed q
  | .config items, h => Binding.AllWellFormed.mono hbody items h
  | .var items, h => Binding.AllWellFormed.mono hbody items h
  | .target _ body, h => ⟨h.1, Statement.AllWellFormed.mono hbody body h.2⟩
  | .run run, h => Run.WellFormed.mono hbody run h
  | .action _, h => h
  | .describe _, h => h
  | .extend _, h => h
  | .literal _, h => h

theorem Statement.AllWellFormed.mono (hbody : ∀ body, p body → q body) :
    (statements : List Statement) → Statement.AllWellFormed p statements →
    Statement.AllWellFormed q statements
  | [], _ => trivial
  | statement :: more, h =>
    ⟨Statement.WellFormed.mono hbody statement h.1, Statement.AllWellFormed.mono hbody more h.2⟩

theorem Run.WellFormed.mono (hbody : ∀ body, p body → q body) :
    (run : Run) → run.WellFormed p → run.WellFormed q
  | ⟨none, body, _⟩, h => hbody body h
  | ⟨some _, body, _⟩, h => ⟨h.1, Statement.AllWellFormed.mono hbody body h.2⟩

theorem Binding.AllWellFormed.mono (hbody : ∀ body, p body → q body) :
    (items : List Binding) → Binding.AllWellFormed p items → Binding.AllWellFormed q items
  | [], _ => trivial
  | ⟨_, initializer⟩ :: more, h =>
    ⟨⟨h.1.1, h.1.2.1, Statement.WellFormed.mono hbody initializer h.1.2.2⟩,
      Binding.AllWellFormed.mono hbody more h.2⟩

end

end Mono

/-- What is read from a source text is read again from its canonical form, but for the layout of
scripts. -/
theorem parseSource_format_of_parseSource {source : String} {statements : List Statement}
    (h : parseSource source = .ok statements) :
    parseSource (format statements) = .ok (Statement.rowRelaid 0 statements) := by
  obtain ⟨phrases, hsymbols, hdepth, rfl⟩ := parseSource_eq_ok_iff.1 h
  have hwell := Statement.AllWellFormed.mono (fun _ => IsCapturedBody.isScriptBody) _
    (Phrase.allWellFormed hsymbols)
  have hderivation :=
    exists_derivation_format hwell ((Phrase.rowNesting_le phrases).trans hdepth)
  exact parseSource_eq_ok_iff.2 hderivation

/-- What is read from a source text is read again from its canonical form, which stays the same. -/
theorem exists_parseSource_format {source : String} {statements : List Statement}
    (h : parseSource source = .ok statements) :
    ∃ again, parseSource (format statements) = .ok again ∧ format again = format statements :=
  ⟨_, parseSource_format_of_parseSource h, format_rowRelaid _⟩

end TaskRunner
