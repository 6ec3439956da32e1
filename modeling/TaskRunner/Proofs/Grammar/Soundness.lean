import TaskRunner.Proofs.Grammar.Derivation
import TaskRunner.Proofs.Grammar.Reading

/-! What the parser reads has a derivation.  Every reading of a statement takes from the front of
its input the symbols of a phrase that spells the statement, and the phrase is no deeper than the
room allows; and so for the other parts.  Each theorem follows one function of the parser, and the
mutual induction is that of the parser itself. -/

namespace TaskRunner.Grammar

open Parse

theorem descriptions_sound {input rest : List Symbol} {texts : List String}
    (h : (descriptions input).Yields texts rest) :
    ∃ lines : List (Option String),
      lines.filterMap id = texts ∧ input = lines.map lineSymbol ++ .closeBrace :: rest := by
  fun_induction descriptions input generalizing texts rest with
  | case1 => simp at h
  | case2 tail =>
    obtain ⟨rfl, rfl⟩ := Reading.yields_ok.1 h
    exact ⟨[], rfl, rfl⟩
  | case3 tail ih =>
    simp only [Reading.yields_bind, Reading.yields_pure] at h
    obtain ⟨texts', left, _, hmore, rfl, rfl⟩ := h
    obtain ⟨lines, rfl, rfl⟩ := ih hmore
    exact ⟨none :: lines, rfl, rfl⟩
  | case4 text tail ih =>
    simp only [Reading.yields_bind, Reading.yields_pure] at h
    obtain ⟨texts', left, _, hmore, rfl, rfl⟩ := h
    obtain ⟨lines, rfl, rfl⟩ := ih hmore
    exact ⟨some text :: lines, rfl, rfl⟩
  | case5 => simp at h

theorem paths_sound {input rest : List Symbol} {values : List Literal}
    (h : (paths input).Yields values rest) :
    ∃ entries : List (Option Literal),
      entries.filterMap id = values ∧ input = entries.map pathSymbol ++ .closeBrace :: rest := by
  fun_induction paths input generalizing values rest with
  | case1 => simp at h
  | case2 tail =>
    obtain ⟨rfl, rfl⟩ := Reading.yields_ok.1 h
    exact ⟨[], rfl, rfl⟩
  | case3 tail ih =>
    simp only [Reading.yields_bind, Reading.yields_pure] at h
    obtain ⟨values', left, _, hmore, rfl, rfl⟩ := h
    obtain ⟨entries, rfl, rfl⟩ := ih hmore
    exact ⟨none :: entries, rfl, rfl⟩
  | case4 path tail ih =>
    simp only [Reading.yields_bind, Reading.yields_pure] at h
    obtain ⟨values', left, _, hmore, rfl, rfl⟩ := h
    obtain ⟨entries, rfl, rfl⟩ := ih hmore
    exact ⟨some path :: entries, rfl, rfl⟩
  | case5 => simp at h

/-- A phrase at the front of `input` spells `value` and leaves `rest`. -/
def SpellsStatement (room : Nat) (input : List Symbol) (value : Statement)
    (rest : List Symbol) : Prop :=
  ∃ phrase : Phrase,
    phrase.statement = value ∧ input = phrase.symbols ++ rest ∧ phrase.depth ≤ room

/-- A row of phrases and a closing brace at the front of `input` spell `values` and leave `rest`. -/
def SpellsStatements (room : Nat) (input : List Symbol) (values : List Statement)
    (rest : List Symbol) : Prop :=
  ∃ phrases : List Phrase,
    Phrase.statements phrases = values ∧
      input = Phrase.rowSymbols phrases ++ .closeBrace :: rest ∧ Phrase.rowDepth phrases ≤ room

/-- What follows `run` at the front of `input` spells `value` and leaves `rest`. -/
def SpellsRun (room : Nat) (stage : Stage) (input : List Symbol) (value : Run)
    (rest : List Symbol) : Prop :=
  ∃ call : Call, call.run stage = value ∧ input = call.symbols ++ rest ∧ call.depth ≤ room

/-- A row of entries and a closing brace at the front of `input` spell `values` and leave `rest`. -/
def SpellsBindings (room : Nat) (input : List Symbol) (values : List Binding)
    (rest : List Symbol) : Prop :=
  ∃ entries : List Entry,
    Entry.bindings entries = values ∧
      input = Entry.rowSymbols entries ++ .closeBrace :: rest ∧ Entry.rowDepth entries ≤ room

/-- The value of a binding at the front of `input` spells `value` and leaves `rest`. -/
def SpellsInitial (room : Nat) (input : List Symbol) (value : Statement)
    (rest : List Symbol) : Prop :=
  ∃ initial : Initial,
    initial.statement = value ∧ input = initial.symbols ++ rest ∧ initial.depth ≤ room

/-- The parser is sound on inputs of fewer than `n` symbols. -/
structure SoundBelow (n : Nat) : Prop where
  statement : ∀ {room input value rest}, input.length < n →
    (Parse.statement room input).Yields value rest → SpellsStatement room input value rest
  run : ∀ {room stage input value rest}, input.length < n →
    (Parse.run room stage input).Yields value rest → SpellsRun room stage input value rest
  statements : ∀ {room input values rest}, input.length < n →
    (Parse.statements room input).Yields values rest → SpellsStatements room input values rest
  bindings : ∀ {room role input values rest}, input.length < n →
    (Parse.bindings room role input).Yields values rest → SpellsBindings room input values rest
  initializer : ∀ {room name input value rest}, input.length < n →
    (Parse.initializer room name input).Yields value rest → SpellsInitial room input value rest

theorem SoundBelow.mono {m n : Nat} (h : SoundBelow n) (hmn : m ≤ n) : SoundBelow m where
  statement hlt := h.statement (Nat.lt_of_lt_of_le hlt hmn)
  run hlt := h.run (Nat.lt_of_lt_of_le hlt hmn)
  statements hlt := h.statements (Nat.lt_of_lt_of_le hlt hmn)
  bindings hlt := h.bindings (Nat.lt_of_lt_of_le hlt hmn)
  initializer hlt := h.initializer (Nat.lt_of_lt_of_le hlt hmn)

section Steps

variable {room : Nat} {input rest : List Symbol}

/-- A block is a row of phrases between braces. -/
theorem block_sound (ih : SoundBelow input.length) {values : List Statement}
    (h : (block room input).Yields values rest) :
    ∃ phrases : List Phrase,
      Phrase.statements phrases = values ∧ input = braced (Phrase.rowSymbols phrases) ++ rest ∧
        Phrase.rowDepth phrases + 1 ≤ room := by
  rw [block] at h
  simp only [Reading.yields_bind, yields_opening, Reading.yields_pure] at h
  obtain ⟨inner, left, _, ⟨rfl, rfl⟩, values', left', _, hbody, rfl, rfl⟩ := h
  obtain ⟨phrases, rfl, rfl, hdepth⟩ := ih.statements (Nat.lt_succ_self _) hbody
  exact ⟨phrases, rfl, by rw [braced_append], Nat.succ_le_succ hdepth⟩

theorem statement_sound (ih : SoundBelow input.length) {value : Statement}
    (h : (statement room input).Yields value rest) : SpellsStatement room input value rest := by
  rw [statement.eq_def] at h
  split at h
  next tail =>
    simp only [Reading.yields_bind, yields_opening, Reading.yields_pure] at h
    obtain ⟨inner, left, _, ⟨rfl, rfl⟩, items, left', _, hitems, rfl, rfl⟩ := h
    obtain ⟨entries, rfl, rfl, hdepth⟩ :=
      ih.bindings (by simp only [List.length_cons]; omega) hitems
    exact ⟨.config entries, rfl, by simp [Phrase.symbols, braced], Nat.succ_le_succ hdepth⟩
  next tail =>
    simp only [Reading.yields_bind, yields_opening, Reading.yields_pure] at h
    obtain ⟨inner, left, _, ⟨rfl, rfl⟩, items, left', _, hitems, rfl, rfl⟩ := h
    obtain ⟨entries, rfl, rfl, hdepth⟩ :=
      ih.bindings (by simp only [List.length_cons]; omega) hitems
    exact ⟨.var entries, rfl, by simp [Phrase.symbols, braced], Nat.succ_le_succ hdepth⟩
  next name tail =>
    simp only [Reading.yields_bind, Reading.yields_pure] at h
    obtain ⟨body, left, _, hbody, rfl, rfl⟩ := h
    obtain ⟨phrases, rfl, rfl, hdepth⟩ :=
      block_sound (ih.mono (by simp only [List.length_cons]; omega)) hbody
    exact ⟨.target name phrases, rfl, rfl, hdepth⟩
  · simp at h
  next stage tail =>
    simp only [Reading.yields_bind, Reading.yields_pure] at h
    obtain ⟨value, left, _, hrun, rfl, rfl⟩ := h
    obtain ⟨call, rfl, rfl, hdepth⟩ := ih.run (by simp) hrun
    exact ⟨.run stage call, rfl, rfl, hdepth⟩
  next tail =>
    simp only [Reading.yields_bind, yields_opening, Reading.yields_pure] at h
    obtain ⟨inner, left, _, ⟨rfl, rfl⟩, texts, left', _, htexts, rfl, rfl⟩ := h
    obtain ⟨lines, rfl, rfl⟩ := descriptions_sound htexts
    exact ⟨.describe lines, rfl, by simp [Phrase.symbols, braced], Nat.succ_le_succ inner.zero_le⟩
  next tail =>
    simp only [Reading.yields_bind, yields_opening, Reading.yields_pure] at h
    obtain ⟨inner, left, _, ⟨rfl, rfl⟩, values, left', _, hvalues, rfl, rfl⟩ := h
    obtain ⟨entries, rfl, rfl⟩ := paths_sound hvalues
    exact ⟨.extend entries, rfl, by simp [Phrase.symbols, braced], Nat.succ_le_succ inner.zero_le⟩
  next text tail =>
    obtain ⟨rfl, rfl⟩ := Reading.yields_ok.1 h
    exact ⟨.script text, rfl, rfl, room.zero_le⟩
  next value tail =>
    obtain ⟨rfl, rfl⟩ := Reading.yields_ok.1 h
    exact ⟨.literal value, rfl, rfl, room.zero_le⟩
  · simp at h

theorem run_sound (ih : SoundBelow input.length) {stage : Stage} {value : Run}
    (h : (run room stage input).Yields value rest) : SpellsRun room stage input value rest := by
  rw [run.eq_def] at h
  split at h
  next name tail =>
    simp only [Reading.yields_bind, Reading.yields_pure] at h
    obtain ⟨body, left, _, hbody, rfl, rfl⟩ := h
    obtain ⟨phrases, rfl, hinput, hdepth⟩ := block_sound (ih.mono (by simp)) hbody
    exact ⟨.both name phrases, rfl, by rw [hinput]; rfl, hdepth⟩
  next name tail _ =>
    obtain ⟨rfl, rfl⟩ := Reading.yields_ok.1 h
    exact ⟨.name name, rfl, rfl, room.zero_le⟩
  next tail =>
    simp only [Reading.yields_bind, Reading.yields_pure] at h
    obtain ⟨body, left, _, hbody, rfl, rfl⟩ := h
    obtain ⟨phrases, rfl, hinput, hdepth⟩ := block_sound ih hbody
    exact ⟨.block phrases, rfl, by rw [hinput]; rfl, hdepth⟩
  · simp at h

theorem statements_sound (ih : SoundBelow input.length) {values : List Statement}
    (h : (statements room input).Yields values rest) :
    SpellsStatements room input values rest := by
  rw [statements.eq_def] at h
  split at h
  · simp at h
  next tail =>
    obtain ⟨rfl, rfl⟩ := Reading.yields_ok.1 h
    exact ⟨[], rfl, rfl, room.zero_le⟩
  next symbol tail _ =>
    simp only [Reading.yields_bind, Reading.yields_pure] at h
    obtain ⟨first, left, hlt, hfirst, more, left', _, hmore, rfl, rfl⟩ := h
    obtain ⟨phrase, rfl, hinput, hdepth⟩ := statement_sound ih hfirst
    obtain ⟨phrases, rfl, rfl, hdepths⟩ := ih.statements hlt hmore
    exact ⟨phrase :: phrases, rfl, by rw [hinput, Phrase.rowSymbols, List.append_assoc],
      Nat.max_le.2 ⟨hdepth, hdepths⟩⟩

theorem initializer_sound (ih : SoundBelow input.length) {name : String} {value : Statement}
    (h : (initializer room name input).Yields value rest) :
    SpellsInitial room input value rest := by
  rw [initializer.eq_def] at h
  split at h
  next value tail =>
    obtain ⟨rfl, rfl⟩ := Reading.yields_ok.1 h
    exact ⟨.literal value, rfl, rfl, room.zero_le⟩
  next tail =>
    rw [Reading.yields_bind] at h
    obtain ⟨inner, left, _, hopen, h⟩ := h
    obtain ⟨hinput, rfl⟩ := yields_opening.1 hopen
    obtain rfl := (List.cons.inj hinput).2
    split at h
    next stage tail' hleft =>
      simp only [Reading.yields_bind, yields_closing, Reading.yields_pure] at h
      obtain ⟨value, left', _, hrun, _, left'', _, rfl, rfl, rfl⟩ := h
      obtain rfl : tail = .run stage :: tail' := hleft
      obtain ⟨call, rfl, rfl, hdepth⟩ := ih.run (by simp only [List.length_cons]; omega) hrun
      exact ⟨.run stage call, rfl, by simp [Initial.symbols, braced], Nat.succ_le_succ hdepth⟩
    · simp at h
  · simp at h

theorem bindings_sound (ih : SoundBelow input.length) {role : NameRole} {values : List Binding}
    (h : (bindings room role input).Yields values rest) :
    SpellsBindings room input values rest := by
  rw [bindings.eq_def] at h
  split at h
  · simp at h
  next tail =>
    obtain ⟨rfl, rfl⟩ := Reading.yields_ok.1 h
    exact ⟨[], rfl, rfl, room.zero_le⟩
  next tail =>
    simp only [Reading.yields_bind, Reading.yields_pure, Parsed.widen] at h
    obtain ⟨more, left, _, hmore, rfl, rfl⟩ := h
    obtain ⟨entries, rfl, rfl, hdepth⟩ := ih.bindings (by simp) hmore
    exact ⟨.comma :: entries, rfl, rfl, hdepth⟩
  next name tail =>
    simp only [Reading.yields_bind, Reading.yields_pure] at h
    obtain ⟨value, left, hlt, hvalue, more, left', _, hmore, rfl, rfl⟩ := h
    obtain ⟨initial, rfl, rfl, hdepth⟩ := initializer_sound (ih.mono (by simp)) hvalue
    obtain ⟨entries, rfl, rfl, hdepths⟩ := ih.bindings (Nat.lt_succ_of_lt hlt) hmore
    exact ⟨.binding name initial :: entries, rfl, by simp [Entry.rowSymbols, Entry.symbols],
      Nat.max_le.2 ⟨hdepth, hdepths⟩⟩
  · simp at h

end Steps

theorem soundBelow (n : Nat) : SoundBelow n := by
  induction n with
  | zero => constructor <;> intros <;> contradiction
  | succ n ih =>
    have below {input : List Symbol} (h : input.length < n + 1) : SoundBelow input.length :=
      ih.mono (Nat.le_of_lt_succ h)
    exact
      { statement := fun hlt => statement_sound (below hlt)
        run := fun hlt => run_sound (below hlt)
        statements := fun hlt => statements_sound (below hlt)
        bindings := fun hlt => bindings_sound (below hlt)
        initializer := fun hlt => initializer_sound (below hlt) }

/-- A program that is read is spelled by a row of phrases no deeper than the room allows. -/
theorem program_sound {room : Nat} {input : List Symbol} {values : List Statement}
    (h : program room input = .ok values) :
    ∃ phrases : List Phrase,
      Phrase.statements phrases = values ∧ Phrase.rowSymbols phrases = input ∧
        Phrase.rowDepth phrases ≤ room := by
  fun_induction program room input generalizing values with
  | case1 =>
    cases h
    exact ⟨[], rfl, rfl, room.zero_le⟩
  | case2 symbol tail ih =>
    obtain ⟨first, hfirst, h⟩ := bind_eq_ok_iff.1 h
    obtain ⟨more, hmore, h⟩ := bind_eq_ok_iff.1 h
    cases h
    obtain ⟨phrase, hvalue, hinput, hdepth⟩ :=
      statement_sound (soundBelow _) ⟨first.shorter, hfirst⟩
    obtain ⟨phrases, rfl, hrest, hdepths⟩ := ih first hmore
    exact ⟨phrase :: phrases, by rw [Phrase.statements, hvalue],
      by rw [Phrase.rowSymbols, hrest]; exact hinput.symm, Nat.max_le.2 ⟨hdepth, hdepths⟩⟩

end TaskRunner.Grammar
