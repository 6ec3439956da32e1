import TaskRunner.Proofs.Session.Simulation
import TaskRunner.Statement.Select

/-! What becomes of a file that is rewritten in its canonical form.  Its scripts get another margin
and nothing else changes, so that in surroundings that do not tell scripts by their margin it does
what it did before; and so does the part of it that runs one target. -/

namespace TaskRunner

open Grammar

variable {ω η : Type}

/-! ### The part that runs one target -/

section

variable {S : String → String → Prop}

theorem Statement.Alike.declares_eq {statement other : Statement}
    (h : Statement.Alike S statement other) (name : String) :
    statement.declares name = other.declares name := by
  cases h <;> rfl

theorem Statement.Alike.isRun_eq {statement other : Statement}
    (h : Statement.Alike S statement other) : statement.isRun = other.isRun := by
  cases h <;> rfl

/-- Among statements that differ in scripts only, the same targets can be selected. -/
theorem Statement.select_alike (hS : ∀ script, S script script) {statements other : List Statement}
    (h : List.Forall₂ (Statement.Alike S) statements other) (name : String) :
    Agree (List.Forall₂ (Statement.Alike S)) (Statement.select statements name)
      (Statement.select other name) := by
  have hdeclares : statements.any (Statement.declares name) =
      other.any (Statement.declares name) := by
    induction h with
    | nil => rfl
    | cons hstatement _ ih => rw [List.any_cons, List.any_cons, hstatement.declares_eq, ih]
  have hkept : List.Forall₂ (Statement.Alike S) (statements.filter fun s => !s.isRun)
      (other.filter fun s => !s.isRun) := by
    refine List.rel_filter (fun a b hab => ?_) h
    simp only [hab.isRun_eq]
  unfold Statement.select
  rw [hdeclares]
  split
  · exact .ok (List.rel_append hkept (Statement.alike_refl_row hS _))
  · exact .error _

end

/-! ### Canonical files -/

/-- Whatever can go on before them, and with every sink, the statements do the same: their
evaluations end alike, or neither ends. -/
def ActAlike (host : Host ω η) (due : ω → η → Option Outcome) (S : String → String → Prop)
    (statements other : List Statement) : Prop :=
  ∀ (fuel : Nat) (session : Session ω η) (sink : Sink), session.IsReady due →
    Option.Rel (Session.Evaluation.Alike S) (Session.evaluate host fuel statements session sink)
      (Session.evaluate host fuel other session sink)

theorem actAlike_of_forall₂ {host : Host ω η} {outcome : Invocation → Except Fault Outcome}
    {due : ω → η → Option Outcome} {S : String → String → Prop}
    (h : host.TreatsAlike outcome due S) {statements other : List Statement}
    (hstatements : List.Forall₂ (Statement.Alike S) statements other) :
    ActAlike host due S statements other :=
  fun fuel _ sink hready =>
    Session.evaluate_alike h fuel hstatements (hready.alike h.shows.refl) sink

/-- In steady surroundings, in which the margin of a script does not matter to what it does, a file
and its canonical form do the same.  So do the parts that run a target, which can be selected from
both or from neither. -/
theorem actAlike_format {host : Host ω η} {outcome : Invocation → Except Fault Outcome}
    {due : ω → η → Option Outcome} (hsteady : host.IsSteady outcome due)
    (hsame : ∀ (shell : String) (exports : List (String × String)) (script other : String),
      dedent script.toList = dedent other.toList →
        outcome ⟨shell, script, exports⟩ = outcome ⟨shell, other, exports⟩)
    {source : String} {statements : List Statement}
    (hsource : parseSource source = .ok statements) :
    ∃ again, parseSource (format statements) = .ok again ∧
      ActAlike host due SameDedent statements again ∧
      ∀ name, Agree (ActAlike host due SameDedent) (Statement.select statements name)
        (Statement.select again name) := by
  have htreats : host.TreatsAlike outcome due SameDedent :=
    { steady := hsteady
      shows := SameDedent.showsAlike
      same := fun shell exports h => hsame shell exports _ _ h.standing }
  have hwell : Statement.AllWellFormed IsCapturedBody statements := by
    obtain ⟨phrases, hsymbols, -, rfl⟩ := parseSource_eq_ok_iff.1 hsource
    exact Phrase.allWellFormed hsymbols
  have halike := Statement.alike_rowRelaid statements 0 hwell
  refine ⟨_, parseSource_format_of_parseSource hsource, actAlike_of_forall₂ htreats halike,
    fun name => ?_⟩
  exact (Statement.select_alike SameDedent.refl halike name).imp fun _ _ =>
    actAlike_of_forall₂ htreats

/-- A script that fails in its second line, whatever the margin of that line. -/
theorem actAlike_format_script :
    let outcome : Invocation → Outcome := fun invocation =>
      ⟨⟨utf8 "said\n", utf8 "so\n", [.stderr, .stdout]⟩,
        .code (if dedent invocation.script.toList = "true\nfalse".toList then 1 else 0)⟩
    let statements : List Statement := [.run ⟨none, [.action "true\n  false"], .during⟩]
    let due : List (Option Outcome) → Nat → Option Outcome :=
      fun world process => world[process]?.join
    (Host.recorded outcome).IsSteady (fun invocation => .ok (outcome invocation)) due ∧
      parseSource "run \x7btrue\n  false\x7d" = .ok statements ∧
      ∃ again, parseSource (format statements) = .ok again ∧
        ActAlike (Host.recorded outcome) due SameDedent statements again ∧
        ∀ name, Agree (ActAlike (Host.recorded outcome) due SameDedent)
          (Statement.select statements name) (Statement.select again name) := by
  intro outcome statements due
  have hsource : parseSource "run \x7btrue\n  false\x7d" = .ok statements :=
    @parseSource_script "true\n  false".toList (by decide) (by decide)
  have hsteady := Host.isSteady_recorded outcome
  refine ⟨hsteady, hsource, actAlike_format hsteady ?_ hsource⟩
  intro shell exports script other h
  simp only [outcome, h]

end TaskRunner
