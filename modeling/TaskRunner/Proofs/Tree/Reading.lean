import TaskRunner.Proofs.Scan.Pieces
import TaskRunner.Proofs.Scan.Readable
import Mathlib.Order.MinMax

/-! What a source text is read as is well-formed.  The scanner decides by the words that it has met
whether it takes a script along, and the parser by the grammar what a block belongs to; here it is
shown that on every text that is accepted the two agree. -/

namespace TaskRunner

/-- The body of a run without a name, as it is read: nothing, or one script as the scanner takes it
along. -/
def IsCapturedBody (body : List Statement) : Prop :=
  body = [] ∨ ∃ script : String, body = [.action script] ∧ IsCaptured script.toList

namespace Grammar

theorem isPlain_of_braced {inside rest : List Symbol} (h : IsPlain (braced inside ++ rest)) :
    IsPlain (inside ++ .closeBrace :: rest) := by
  rw [braced_append] at h
  exact h.tail (by simp)

theorem isPlain_of_closeBrace {rest : List Symbol} (h : IsPlain (.closeBrace :: rest)) :
    IsPlain rest :=
  h.tail (by simp)

theorem isQuotable_of_lines (lines : List (Option String)) {rest : List Symbol}
    (h : IsPlain (lines.map lineSymbol ++ rest)) :
    (∀ line ∈ lines.filterMap id, IsQuotable line) ∧ IsPlain rest := by
  induction lines with
  | nil => exact ⟨by simp, h⟩
  | cons line lines ih =>
    rw [List.map_cons, List.cons_append] at h
    cases line with
    | none => exact ih (h.tail (by simp [lineSymbol]))
    | some text =>
      obtain ⟨hlines, hrest⟩ := ih (h.tail (by simp [lineSymbol]))
      exact ⟨List.forall_mem_cons.2 ⟨h.isWritable, hlines⟩, hrest⟩

theorem isWritable_of_paths (paths : List (Option Literal)) {rest : List Symbol}
    (h : IsPlain (paths.map pathSymbol ++ rest)) :
    (∀ path ∈ paths.filterMap id, path.IsWritable) ∧ IsPlain rest := by
  induction paths with
  | nil => exact ⟨by simp, h⟩
  | cons path paths ih =>
    rw [List.map_cons, List.cons_append] at h
    cases path with
    | none => exact ih (h.tail (by simp [pathSymbol]))
    | some value =>
      obtain ⟨hpaths, hrest⟩ := ih (h.tail (by simp [pathSymbol]))
      exact ⟨List.forall_mem_cons.2 ⟨h.isWritable, hpaths⟩, hrest⟩

/-- The block of a run without a name. -/
theorem isCapturedBody_of_block {body : List Phrase} {rest : List Symbol}
    (h : FollowsRun (braced (Phrase.rowSymbols body) ++ rest)) :
    IsCapturedBody (Phrase.statements body) ∧ IsPlain rest := by
  rw [braced_append] at h
  rcases h.block (by simp) with ⟨after, hmore, hafter⟩ | ⟨script, after, hmore, hscript, hafter⟩
  · obtain ⟨rfl, rfl⟩ := Phrase.rowSymbols_append_inj body [] hmore
    exact ⟨.inl rfl, hafter⟩
  · obtain ⟨rfl, rfl⟩ := Phrase.rowSymbols_append_inj body [.script script] hmore
    exact ⟨.inr ⟨script, rfl, hscript⟩, hafter⟩

mutual

/-- A phrase among the symbols of a text spells a well-formed statement. -/
theorem Phrase.wellFormed : (phrase : Phrase) → {rest : List Symbol} →
    IsPlain (phrase.symbols ++ rest) →
    phrase.statement.WellFormed IsCapturedBody ∧ IsPlain rest
  | .config entries, rest, h => by
    obtain ⟨hentries, hrest⟩ :=
      Entry.wellFormed_row entries (isPlain_of_braced (h.tail (by simp)))
    exact ⟨hentries, isPlain_of_closeBrace hrest⟩
  | .var entries, rest, h => by
    obtain ⟨hentries, hrest⟩ :=
      Entry.wellFormed_row entries (isPlain_of_braced (h.tail (by simp)))
    exact ⟨hentries, isPlain_of_closeBrace hrest⟩
  | .target name body, rest, h => by
    have hname := h.tail (by simp)
    obtain ⟨hbody, hrest⟩ :=
      Phrase.wellFormed_row body (isPlain_of_braced (hname.tail (by simp)))
    exact ⟨⟨hname.isWritable, hbody⟩, isPlain_of_closeBrace hrest⟩
  | .run stage call, rest, h => Call.wellFormed call stage h.followsRun
  | .describe lines, rest, h => by
    obtain ⟨hlines, hrest⟩ := isQuotable_of_lines lines (isPlain_of_braced (h.tail (by simp)))
    exact ⟨hlines, isPlain_of_closeBrace hrest⟩
  | .extend paths, rest, h => by
    obtain ⟨hpaths, hrest⟩ := isWritable_of_paths paths (isPlain_of_braced (h.tail (by simp)))
    exact ⟨hpaths, isPlain_of_closeBrace hrest⟩
  | .script text, rest, h => absurd h (not_isPlain_script text rest)
  | .literal value, rest, h => ⟨h.isWritable, h.tail (by simp)⟩

/-- A row of phrases among the symbols of a text spells well-formed statements. -/
theorem Phrase.wellFormed_row : (phrases : List Phrase) → {rest : List Symbol} →
    IsPlain (Phrase.rowSymbols phrases ++ rest) →
    Statement.AllWellFormed IsCapturedBody (Phrase.statements phrases) ∧ IsPlain rest
  | [], rest, h => ⟨trivial, h⟩
  | phrase :: phrases, rest, h => by
    rw [Phrase.rowSymbols, List.append_assoc] at h
    obtain ⟨hphrase, hmore⟩ := Phrase.wellFormed phrase h
    obtain ⟨hphrases, hrest⟩ := Phrase.wellFormed_row phrases hmore
    exact ⟨⟨hphrase, hphrases⟩, hrest⟩

/-- What follows `run` in a text spells a well-formed run. -/
theorem Call.wellFormed : (call : Call) → (stage : Stage) → {rest : List Symbol} →
    FollowsRun (call.symbols ++ rest) →
    (call.run stage).WellFormed IsCapturedBody ∧ IsPlain rest
  | .block body, stage, rest, h => isCapturedBody_of_block h
  | .name name, stage, rest, h => ⟨⟨h.name.1, trivial⟩, h.name.2⟩
  | .both name body, stage, rest, h => by
    obtain ⟨hname, hblock⟩ := h.name
    obtain ⟨hbody, hrest⟩ := Phrase.wellFormed_row body (isPlain_of_braced hblock)
    exact ⟨⟨hname, hbody⟩, isPlain_of_closeBrace hrest⟩

/-- A row of entries among the symbols of a text spells well-formed bindings. -/
theorem Entry.wellFormed_row : (entries : List Entry) → {rest : List Symbol} →
    IsPlain (Entry.rowSymbols entries ++ rest) →
    Binding.AllWellFormed IsCapturedBody (Entry.bindings entries) ∧ IsPlain rest
  | [], rest, h => ⟨trivial, h⟩
  | .comma :: entries, rest, h => Entry.wellFormed_row entries (h.tail (by simp))
  | .binding name value :: entries, rest, h => by
    rw [Entry.rowSymbols, Entry.symbols, List.append_assoc, List.cons_append] at h
    obtain ⟨hinitial, hvalue, hmore⟩ := Initial.wellFormed value (h.tail (by simp))
    obtain ⟨hentries, hrest⟩ := Entry.wellFormed_row entries hmore
    exact ⟨⟨⟨h.isWritable, hinitial, hvalue⟩, hentries⟩, hrest⟩

/-- A value among the symbols of a text spells a well-formed literal or run. -/
theorem Initial.wellFormed : (value : Initial) → {rest : List Symbol} →
    IsPlain (value.symbols ++ rest) →
    value.statement.IsInitializer ∧ value.statement.WellFormed IsCapturedBody ∧ IsPlain rest
  | .literal value, rest, h => ⟨trivial, h.isWritable, h.tail (by simp)⟩
  | .run stage call, rest, h => by
    obtain ⟨hcall, hrest⟩ := Call.wellFormed call stage (isPlain_of_braced h).followsRun
    exact ⟨trivial, hcall, isPlain_of_closeBrace hrest⟩

end

mutual

/-- A statement nests no deeper than the phrase that spells it. -/
theorem Phrase.nesting_le : (phrase : Phrase) → phrase.statement.nesting ≤ phrase.depth
  | .config entries => Nat.succ_le_succ (Entry.rowNesting_le entries)
  | .var entries => Nat.succ_le_succ (Entry.rowNesting_le entries)
  | .target _ body => Nat.succ_le_succ (Phrase.rowNesting_le body)
  | .run stage call => Call.nesting_le call stage
  | .describe _ => Nat.le_refl 1
  | .extend _ => Nat.le_refl 1
  | .script _ => Nat.le_refl 0
  | .literal _ => Nat.le_refl 0

/-- Statements nest no deeper than the phrases that spell them. -/
theorem Phrase.rowNesting_le : (phrases : List Phrase) →
    Statement.rowNesting (Phrase.statements phrases) ≤ Phrase.rowDepth phrases
  | [] => Nat.le_refl 0
  | phrase :: phrases =>
    max_le_max (Phrase.nesting_le phrase) (Phrase.rowNesting_le phrases)

/-- A run nests no deeper than what follows `run`. -/
theorem Call.nesting_le : (call : Call) → (stage : Stage) →
    (call.run stage).nesting ≤ call.depth
  | .block body, _ => Nat.succ_le_succ (Phrase.rowNesting_le body)
  | .name _, _ => Nat.le_refl 0
  | .both _ [], _ => Nat.zero_le 1
  | .both _ (phrase :: body), _ => Nat.succ_le_succ (Phrase.rowNesting_le (phrase :: body))

/-- Bindings nest no deeper than the entries that spell them. -/
theorem Entry.rowNesting_le : (entries : List Entry) →
    Binding.rowNesting (Entry.bindings entries) ≤ Entry.rowDepth entries
  | [] => Nat.le_refl 0
  | .comma :: entries => Entry.rowNesting_le entries
  | .binding _ (.literal _) :: entries =>
    (Entry.rowNesting_le entries).trans (Nat.le_max_right _ _)
  | .binding _ (.run stage call) :: entries =>
    max_le_max (Nat.succ_le_succ (Call.nesting_le call stage)) (Entry.rowNesting_le entries)

end

/-- The phrases that a text is read as spell well-formed statements. -/
theorem Phrase.allWellFormed {text : List Char} {phrases : List Phrase}
    (h : plainSymbols text = some (Phrase.rowSymbols phrases)) :
    Statement.AllWellFormed IsCapturedBody (Phrase.statements phrases) := by
  have hplain : IsPlain (Phrase.rowSymbols phrases ++ []) :=
    ⟨text, by rw [h, List.append_nil]⟩
  exact (Phrase.wellFormed_row phrases hplain).1

end Grammar

open Grammar

/-- Every source text that is accepted is read as well-formed statements: a run without a name has
an empty body or a single action, whose script is not empty, has no white space at its ends and is
balanced, and actions stand nowhere else; values of bindings are literals or runs; names, words,
numbers and quoted texts can be written.  Blocks nest no deeper than the limit. -/
theorem wellFormed_of_parseSource {source : String} {statements : List Statement}
    (h : parseSource source = .ok statements) :
    Statement.AllWellFormed IsCapturedBody statements ∧
      Statement.rowNesting statements ≤ maxDepth := by
  obtain ⟨phrases, hsymbols, hdepth, rfl⟩ := parseSource_eq_ok_iff.1 h
  exact ⟨Phrase.allWellFormed hsymbols, (Phrase.rowNesting_le phrases).trans hdepth⟩

/-- A value that a script prints, and a run with a body of its own inside a target. -/
theorem wellFormed_of_parseSource_nested :
    let source := "var \x7b v \x7b run:before \x7b echo \x7bx\x7d \x7d \x7d, n 7 \x7d\n" ++
      "target t \x7b\n\trun u \x7b run \x7b make all\n\t\x7d" ++
      " desc \x7b \"a\" \x60b\x60 \x7d \x7d\n\x7d\n"
    let statements : List Statement :=
      [.var [⟨"v", .run ⟨none, [.action "echo \x7bx\x7d"], .before⟩⟩,
          ⟨"n", .literal (.number "7")⟩],
        .target "t" [.run ⟨some "u", [.run ⟨none, [.action "make all"], .during⟩,
          .describe ["a", "b"]], .during⟩]]
    parseSource source = .ok statements ∧ Statement.AllWellFormed IsCapturedBody statements ∧
      Statement.rowNesting statements ≤ maxDepth := by
  intro source statements
  have h : parseSource source = .ok statements := by decide +kernel
  exact ⟨h, wellFormed_of_parseSource h⟩

end TaskRunner
