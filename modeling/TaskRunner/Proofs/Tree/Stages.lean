import Mathlib.Data.List.Forall2
import TaskRunner.Statement

/-! The stages in the body of a target.  Its statements are sorted by stage and nothing else moves
them, so all that matters of a body is what it says in each stage; how the stages are interleaved
does not. -/

namespace TaskRunner

namespace Statement

/-- The statements of a stage, in the order in which they stand. -/
def ofStage (stage : Stage) (body : List Statement) : List Statement :=
  body.filter fun statement => statement.stage = stage

/-- No statement of a later stage stands before one of an earlier stage. -/
def IsStaged (body : List Statement) : Prop :=
  body.Pairwise fun first second => first.stage.rank ≤ second.stage.rank

theorem sortByStage_eq_append (body : List Statement) :
    sortByStage body = ofStage .before body ++ ofStage .during body ++ ofStage .after body := rfl

theorem stage_of_mem_ofStage {stage : Stage} {body : List Statement} {statement : Statement}
    (h : statement ∈ ofStage stage body) : statement.stage = stage := by
  simpa using (List.mem_filter.1 h).2

theorem ofStage_eq_nil {stage : Stage} {body : List Statement}
    (h : ∀ statement ∈ body, statement.stage ≠ stage) : ofStage stage body = [] :=
  List.filter_eq_nil_iff.2 fun statement hstatement => by simpa using h statement hstatement

theorem ofStage_append (stage : Stage) (body more : List Statement) :
    ofStage stage (body ++ more) = ofStage stage body ++ ofStage stage more :=
  List.filter_append body more

theorem ofStage_ofStage (stage other : Stage) (body : List Statement) :
    ofStage stage (ofStage other body) = if other = stage then ofStage other body else [] := by
  split
  next heq =>
    exact List.filter_eq_self.2 fun statement hstatement => by
      simpa using (stage_of_mem_ofStage hstatement).trans heq
  next hne =>
    exact ofStage_eq_nil fun statement hstatement heq =>
      hne ((stage_of_mem_ofStage hstatement).symm.trans heq)

/-- The statements of a stage stay in order. -/
theorem ofStage_sortByStage (stage : Stage) (body : List Statement) :
    ofStage stage (sortByStage body) = ofStage stage body := by
  simp only [sortByStage_eq_append, ofStage_append, ofStage_ofStage]
  cases stage <;> simp

theorem isStaged_sortByStage (body : List Statement) : IsStaged (sortByStage body) := by
  have hbetween {stage other : Stage} (hle : stage.rank ≤ other.rank) :
      ∀ first ∈ ofStage stage body, ∀ second ∈ ofStage other body,
        first.stage.rank ≤ second.stage.rank := by
    intro first hfirst second hsecond
    rwa [stage_of_mem_ofStage hfirst, stage_of_mem_ofStage hsecond]
  have hwithin (stage : Stage) : IsStaged (ofStage stage body) :=
    List.pairwise_of_forall_mem_list (hbetween (Nat.le_refl _))
  rw [sortByStage_eq_append, IsStaged, List.pairwise_append, List.pairwise_append]
  refine ⟨⟨hwithin _, hwithin _, hbetween (by decide)⟩, hwithin _, fun first hfirst => ?_⟩
  rcases List.mem_append.1 hfirst with hbefore | hduring
  · exact hbetween (by decide) first hbefore
  · exact hbetween (by decide) first hduring

/-- What is in the order of the stages is not moved. -/
theorem IsStaged.sortByStage_eq {body : List Statement} (h : IsStaged body) :
    sortByStage body = body := by
  induction body with
  | nil => rfl
  | cons first rest ih =>
    obtain ⟨hfirst, hrest⟩ := List.pairwise_cons.1 h
    have hkept := ih hrest
    have hnone (stage : Stage) (hlt : stage.rank < first.stage.rank) : ofStage stage rest = [] :=
      ofStage_eq_nil fun second hsecond heq =>
        absurd (hfirst second hsecond) (by rw [heq]; omega)
    have hcons (stage : Stage) : ofStage stage (first :: rest) =
        if first.stage = stage then first :: ofStage stage rest else ofStage stage rest := by
      simp only [ofStage, List.filter_cons, decide_eq_true_eq]
    rw [sortByStage_eq_append] at hkept
    rw [sortByStage_eq_append, hcons, hcons, hcons]
    cases hstage : first.stage with
    | before => simpa using hkept
    | during =>
      rw [hstage] at hnone
      simpa [hnone .before (by decide)] using hkept
    | after =>
      rw [hstage] at hnone
      simpa [hnone .before (by decide), hnone .during (by decide)] using hkept

/-- What is in the order of the stages is known by its statements of each stage. -/
theorem IsStaged.eq_of_ofStage_eq {body other : List Statement} (h : IsStaged body)
    (hother : IsStaged other) (hstages : ∀ stage, ofStage stage body = ofStage stage other) :
    body = other := by
  rw [← h.sortByStage_eq, ← hother.sortByStage_eq, sortByStage_eq_append, sortByStage_eq_append,
    hstages, hstages, hstages]

/-- The stored body is the stable sort of the written one by stage. -/
theorem sortByStage_eq_mergeSort (body : List Statement) :
    sortByStage body =
      body.mergeSort fun first second => first.stage.rank ≤ second.stage.rank := by
  let le (first second : Statement) : Bool := first.stage.rank ≤ second.stage.rank
  have htrans (a b c : Statement) (hab : le a b) (hbc : le b c) : le a c := by
    simp only [le, decide_eq_true_eq] at hab hbc ⊢
    omega
  have htotal (a b : Statement) : (le a b || le b a) = true := by
    simp only [le, Bool.or_eq_true, decide_eq_true_eq]
    omega
  have hsorted : IsStaged (body.mergeSort le) :=
    (List.pairwise_mergeSort htrans htotal body).imp fun hle => by simpa [le] using hle
  have hstage (stage : Stage) : ofStage stage (body.mergeSort le) = ofStage stage body := by
    have hequal : (ofStage stage body).Pairwise fun a b => le a b :=
      List.pairwise_of_forall_mem_list fun a ha b hb => by
        simp [le, stage_of_mem_ofStage ha, stage_of_mem_ofStage hb]
    have hsublist := (List.sublist_mergeSort htrans htotal hequal List.filter_sublist).filter
      fun statement => statement.stage = stage
    have hperm : (ofStage stage (body.mergeSort le)).Perm (ofStage stage body) :=
      (List.mergeSort_perm body le).filter _
    refine (List.Sublist.eq_of_length ?_ hperm.length_eq.symm).symm
    rwa [← ofStage, ofStage_ofStage, if_pos rfl] at hsublist
  exact (isStaged_sortByStage body).eq_of_ofStage_eq hsorted fun stage =>
    (ofStage_sortByStage stage body).trans (hstage stage).symm

end Statement

/-! ### Bodies with the same stages -/

mutual

/-- The statements are the same, but for the order between the stages of targets. -/
inductive Statement.Restaged : Statement → Statement → Prop where
  | config {items others : List Binding} (h : List.Forall₂ Binding.Restaged items others) :
      Statement.Restaged (.config items) (.config others)
  | var {items others : List Binding} (h : List.Forall₂ Binding.Restaged items others) :
      Statement.Restaged (.var items) (.var others)
  | target (name : String) {body other : List Statement}
      (h : ∀ stage, List.Forall₂ Statement.Restaged (Statement.ofStage stage body)
        (Statement.ofStage stage other)) :
      Statement.Restaged (.target name body) (.target name other)
  | run {run other : Run} (h : Run.Restaged run other) : Statement.Restaged (.run run) (.run other)
  | action (script : String) : Statement.Restaged (.action script) (.action script)
  | describe (lines : List String) : Statement.Restaged (.describe lines) (.describe lines)
  | extend (paths : List Literal) : Statement.Restaged (.extend paths) (.extend paths)
  | literal (value : Literal) : Statement.Restaged (.literal value) (.literal value)

/-- The runs are the same, but for the order between the stages of targets. -/
inductive Run.Restaged : Run → Run → Prop where
  | mk (name : Option String) {body other : List Statement} (stage : Stage)
      (h : List.Forall₂ Statement.Restaged body other) :
      Run.Restaged ⟨name, body, stage⟩ ⟨name, other, stage⟩

/-- The bindings are the same, but for the order between the stages of targets. -/
inductive Binding.Restaged : Binding → Binding → Prop where
  | mk (name : String) {initializer other : Statement}
      (h : Statement.Restaged initializer other) :
      Binding.Restaged ⟨name, initializer⟩ ⟨name, other⟩

end

theorem Statement.Restaged.stage_eq {statement other : Statement}
    (h : Statement.Restaged statement other) : statement.stage = other.stage := by
  cases h with
  | run hrun => cases hrun with | mk name stage hbody => rfl
  | _ => rfl

theorem Statement.restaged_ofStage {body other : List Statement}
    (h : List.Forall₂ Statement.Restaged body other) (stage : Stage) :
    List.Forall₂ Statement.Restaged (Statement.ofStage stage body)
      (Statement.ofStage stage other) := by
  refine List.rel_filter (fun statement statement' hstatement => ?_) h
  simp only [hstatement.stage_eq]

/-- What is stored of two bodies is the same, but for the order between the stages of targets that
they declare. -/
theorem Statement.restaged_sortByStage {body other : List Statement}
    (h : ∀ stage, List.Forall₂ Statement.Restaged (Statement.ofStage stage body)
      (Statement.ofStage stage other)) :
    List.Forall₂ Statement.Restaged (Statement.sortByStage body) (Statement.sortByStage other) :=
  List.rel_append (List.rel_append (h .before) (h .during)) (h .after)

mutual

theorem Statement.Restaged.refl : (statement : Statement) → Statement.Restaged statement statement
  | .config items => .config (Binding.restaged_refl_row items)
  | .var items => .var (Binding.restaged_refl_row items)
  | .target name body =>
    .target name (Statement.restaged_ofStage (Statement.restaged_refl_row body))
  | .run run => .run (Run.Restaged.refl run)
  | .action script => .action script
  | .describe lines => .describe lines
  | .extend paths => .extend paths
  | .literal value => .literal value

theorem Statement.restaged_refl_row :
    (statements : List Statement) → List.Forall₂ Statement.Restaged statements statements
  | [] => .nil
  | statement :: more =>
    .cons (Statement.Restaged.refl statement) (Statement.restaged_refl_row more)

theorem Run.Restaged.refl : (run : Run) → Run.Restaged run run
  | ⟨name, body, stage⟩ => .mk name stage (Statement.restaged_refl_row body)

theorem Binding.restaged_refl_row :
    (items : List Binding) → List.Forall₂ Binding.Restaged items items
  | [] => .nil
  | ⟨name, initializer⟩ :: more =>
    .cons (.mk name (Statement.Restaged.refl initializer)) (Binding.restaged_refl_row more)

end

/-- Two bodies that say the same in each stage make the same target, however the stages are
interleaved. -/
theorem Statement.restaged_target (name : String) {body other : List Statement}
    (h : ∀ stage, Statement.ofStage stage body = Statement.ofStage stage other) :
    Statement.Restaged (.target name body) (.target name other) :=
  .target name fun stage => h stage ▸ Statement.restaged_refl_row _

end TaskRunner
