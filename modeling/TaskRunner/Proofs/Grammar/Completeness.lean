import TaskRunner.Proofs.Grammar.Uniqueness
import TaskRunner.Proofs.Grammar.Reading

/-! What has a derivation is read.  The parser reads the symbols of a phrase as the statement that
the phrase spells, whatever follows them, as long as the phrase is no deeper than the room allows
and no block follows that would belong to it. -/

namespace TaskRunner.Grammar

open Parse

theorem descriptions_complete (lines : List (Option String)) (rest : List Symbol) :
    (descriptions (lines.map lineSymbol ++ .closeBrace :: rest)).Yields (lines.filterMap id)
      rest := by
  induction lines with
  | nil =>
    rw [List.map_nil, List.nil_append, descriptions]
    exact Reading.yields_ok.2 ⟨rfl, rfl⟩
  | cons line lines ih =>
    rw [List.map_cons, List.cons_append]
    cases line with
    | none =>
      rw [lineSymbol, descriptions, Reading.yields_bind]
      exact ⟨_, _, ih.length_lt, ih, Reading.yields_pure.2 ⟨rfl, rfl⟩⟩
    | some text =>
      rw [lineSymbol, descriptions, Reading.yields_bind]
      exact ⟨_, _, ih.length_lt, ih, Reading.yields_pure.2 ⟨rfl, rfl⟩⟩

theorem paths_complete (entries : List (Option Literal)) (rest : List Symbol) :
    (paths (entries.map pathSymbol ++ .closeBrace :: rest)).Yields (entries.filterMap id)
      rest := by
  induction entries with
  | nil =>
    rw [List.map_nil, List.nil_append, paths]
    exact Reading.yields_ok.2 ⟨rfl, rfl⟩
  | cons entry entries ih =>
    rw [List.map_cons, List.cons_append]
    cases entry with
    | none =>
      rw [pathSymbol, paths, Reading.yields_bind]
      exact ⟨_, _, ih.length_lt, ih, Reading.yields_pure.2 ⟨rfl, rfl⟩⟩
    | some path =>
      rw [pathSymbol, paths, Reading.yields_bind]
      exact ⟨_, _, ih.length_lt, ih, Reading.yields_pure.2 ⟨rfl, rfl⟩⟩

/-- An opening brace is read where the block behind it has room. -/
theorem opening_complete {room depth : Nat} (h : depth + 1 ≤ room) (rest : List Symbol) :
    ∃ inner, depth ≤ inner ∧ (opening room (.openBrace :: rest)).Yields inner rest := by
  obtain ⟨inner, rfl⟩ : ∃ inner, room = inner + 1 := ⟨room - 1, by omega⟩
  exact ⟨inner, by omega, yields_opening.2 ⟨rfl, rfl⟩⟩

/-- A block is read if what stands between its braces is. -/
theorem block_complete {room depth : Nat} {inside rest : List Symbol} {values : List Statement}
    (hdepth : depth + 1 ≤ room)
    (h : ∀ inner, depth ≤ inner →
      (statements inner (inside ++ .closeBrace :: rest)).Yields values rest) :
    (block room (braced inside ++ rest)).Yields values rest := by
  obtain ⟨inner, hinner, hopen⟩ := opening_complete hdepth (inside ++ .closeBrace :: rest)
  rw [braced_append, block, Reading.yields_bind]
  refine ⟨inner, _, hopen.length_lt, hopen, ?_⟩
  rw [Reading.yields_bind]
  exact ⟨_, _, (h inner hinner).length_lt, h inner hinner, Reading.yields_pure.2 ⟨rfl, rfl⟩⟩

mutual

/-- A phrase is read as the statement that it spells. -/
theorem Phrase.read : (phrase : Phrase) → {room : Nat} → {rest : List Symbol} →
    phrase.depth ≤ room → NoBlock rest →
    (statement room (phrase.symbols ++ rest)).Yields phrase.statement rest
  | .config entries, room, rest, hdepth, _ => by
    obtain ⟨inner, hinner, hopen⟩ :=
      opening_complete hdepth (Entry.rowSymbols entries ++ .closeBrace :: rest)
    have hitems := Entry.read_row entries .config rest hinner
    rw [Phrase.symbols, List.cons_append, braced_append, statement]
    simp only [Reading.yields_bind]
    exact ⟨_, _, hopen.length_lt, hopen, _, _, hitems.length_lt, hitems,
      Reading.yields_pure.2 ⟨rfl, rfl⟩⟩
  | .var entries, room, rest, hdepth, _ => by
    obtain ⟨inner, hinner, hopen⟩ :=
      opening_complete hdepth (Entry.rowSymbols entries ++ .closeBrace :: rest)
    have hitems := Entry.read_row entries .variable rest hinner
    rw [Phrase.symbols, List.cons_append, braced_append, statement]
    simp only [Reading.yields_bind]
    exact ⟨_, _, hopen.length_lt, hopen, _, _, hitems.length_lt, hitems,
      Reading.yields_pure.2 ⟨rfl, rfl⟩⟩
  | .target name body, room, rest, hdepth, _ => by
    have hbody := block_complete hdepth fun inner hinner =>
      Phrase.read_row body rest hinner
    rw [Phrase.symbols, List.cons_append, List.cons_append, statement, Reading.yields_bind]
    exact ⟨_, _, hbody.length_lt, hbody, Reading.yields_pure.2 ⟨rfl, rfl⟩⟩
  | .run stage call, room, rest, hdepth, hrest => by
    have hrun := Call.read call stage hdepth hrest
    rw [Phrase.symbols, List.cons_append, statement, Reading.yields_bind]
    exact ⟨_, _, hrun.length_lt, hrun, Reading.yields_pure.2 ⟨rfl, rfl⟩⟩
  | .describe lines, room, rest, hdepth, _ => by
    obtain ⟨inner, _, hopen⟩ :=
      opening_complete hdepth (lines.map lineSymbol ++ .closeBrace :: rest)
    have hlines := descriptions_complete lines rest
    rw [Phrase.symbols, List.cons_append, braced_append, statement]
    simp only [Reading.yields_bind]
    exact ⟨_, _, hopen.length_lt, hopen, _, _, hlines.length_lt, hlines,
      Reading.yields_pure.2 ⟨rfl, rfl⟩⟩
  | .extend entries, room, rest, hdepth, _ => by
    obtain ⟨inner, _, hopen⟩ :=
      opening_complete hdepth (entries.map pathSymbol ++ .closeBrace :: rest)
    have hpaths := paths_complete entries rest
    rw [Phrase.symbols, List.cons_append, braced_append, statement]
    simp only [Reading.yields_bind]
    exact ⟨_, _, hopen.length_lt, hopen, _, _, hpaths.length_lt, hpaths,
      Reading.yields_pure.2 ⟨rfl, rfl⟩⟩
  | .script text, room, rest, _, _ => by
    rw [Phrase.symbols, List.cons_append, statement]
    exact Reading.yields_ok.2 ⟨rfl, rfl⟩
  | .literal value, room, rest, _, _ => by
    rw [Phrase.symbols, List.cons_append, statement]
    exact Reading.yields_ok.2 ⟨rfl, rfl⟩

/-- A row of phrases is read up to its closing brace. -/
theorem Phrase.read_row : (phrases : List Phrase) → (rest : List Symbol) → {room : Nat} →
    Phrase.rowDepth phrases ≤ room →
    (statements room (Phrase.rowSymbols phrases ++ .closeBrace :: rest)).Yields
      (Phrase.statements phrases) rest
  | [], rest, room, _ => by
    rw [Phrase.rowSymbols, List.nil_append, statements]
    exact Reading.yields_ok.2 ⟨rfl, rfl⟩
  | phrase :: phrases, rest, room, hdepth => by
    obtain ⟨hphrase, hphrases⟩ := Nat.max_le.1 hdepth
    have hfirst := Phrase.read phrase hphrase
      (NoBlock.rowSymbols_append phrases (NoBlock.closeBrace rest))
    have hmore := Phrase.read_row phrases rest hphrases
    obtain ⟨symbol, more, hsymbols, hbegins⟩ := phrase.exists_symbols_eq
    rw [Phrase.rowSymbols, List.append_assoc]
    rw [hsymbols, List.cons_append] at hfirst ⊢
    rw [statements.eq_3 _ _ _ hbegins.2.1]
    simp only [Reading.yields_bind]
    exact ⟨_, _, hfirst.length_lt, hfirst, _, _, hmore.length_lt, hmore,
      Reading.yields_pure.2 ⟨rfl, rfl⟩⟩

/-- What follows `run` is read as the run that it spells. -/
theorem Call.read : (call : Call) → (stage : Stage) → {room : Nat} → {rest : List Symbol} →
    call.depth ≤ room → NoBlock rest →
    (run room stage (call.symbols ++ rest)).Yields (call.run stage) rest
  | .block body, stage, room, rest, hdepth, _ => by
    have hbody := block_complete hdepth fun inner hinner =>
      Phrase.read_row body rest hinner
    rw [braced_append] at hbody
    rw [Call.symbols, braced_append, run, Reading.yields_bind]
    exact ⟨_, _, hbody.length_lt, hbody, Reading.yields_pure.2 ⟨rfl, rfl⟩⟩
  | .name name, stage, room, rest, _, hrest => by
    rw [Call.symbols, List.cons_append, List.nil_append, run.eq_2 _ _ _ _ hrest]
    exact Reading.yields_ok.2 ⟨rfl, rfl⟩
  | .both name body, stage, room, rest, hdepth, _ => by
    have hbody := block_complete hdepth fun inner hinner =>
      Phrase.read_row body rest hinner
    rw [braced_append] at hbody
    rw [Call.symbols, List.cons_append, braced_append, run, Reading.yields_bind]
    exact ⟨_, _, hbody.length_lt, hbody, Reading.yields_pure.2 ⟨rfl, rfl⟩⟩

/-- A row of entries is read up to its closing brace. -/
theorem Entry.read_row : (entries : List Entry) → (role : NameRole) → (rest : List Symbol) →
    {room : Nat} → Entry.rowDepth entries ≤ room →
    (bindings room role (Entry.rowSymbols entries ++ .closeBrace :: rest)).Yields
      (Entry.bindings entries) rest
  | [], role, rest, room, _ => by
    rw [Entry.rowSymbols, List.nil_append, bindings]
    exact Reading.yields_ok.2 ⟨rfl, rfl⟩
  | .comma :: entries, role, rest, room, hdepth => by
    have hmore := Entry.read_row entries role rest hdepth
    rw [Entry.rowSymbols, Entry.symbols, List.append_assoc, List.cons_append, List.nil_append,
      bindings, Reading.yields_bind]
    exact ⟨_, _, hmore.length_lt, hmore, Reading.yields_pure.2 ⟨rfl, rfl⟩⟩
  | .binding name value :: entries, role, rest, room, hdepth => by
    obtain ⟨hvalue, hentries⟩ := Nat.max_le.1 hdepth
    have hfirst := Initial.read value name (Entry.rowSymbols entries ++ .closeBrace :: rest) hvalue
    have hmore := Entry.read_row entries role rest hentries
    rw [Entry.rowSymbols, Entry.symbols, List.append_assoc, List.cons_append, bindings]
    simp only [Reading.yields_bind]
    exact ⟨_, _, hfirst.length_lt, hfirst, _, _, hmore.length_lt, hmore,
      Reading.yields_pure.2 ⟨rfl, rfl⟩⟩

/-- The value of a binding is read as the statement that it spells. -/
theorem Initial.read : (value : Initial) → (name : String) → (rest : List Symbol) →
    {room : Nat} → value.depth ≤ room →
    (initializer room name (value.symbols ++ rest)).Yields value.statement rest
  | .literal value, name, rest, room, _ => by
    rw [Initial.symbols, List.cons_append, initializer]
    exact Reading.yields_ok.2 ⟨rfl, rfl⟩
  | .run stage call, name, rest, room, hdepth => by
    obtain ⟨inner, hinner, hopen⟩ :=
      opening_complete hdepth (.run stage :: call.symbols ++ .closeBrace :: rest)
    have hrun := Call.read call stage hinner (NoBlock.closeBrace rest)
    have hclose : (closing (.closeBrace :: rest)).Yields () rest := yields_closing.2 rfl
    rw [Initial.symbols, braced_append, initializer, Reading.yields_bind]
    refine ⟨_, _, hopen.length_lt, hopen, ?_⟩
    simp only [List.cons_append, Reading.yields_bind]
    exact ⟨_, _, hrun.length_lt, hrun, _, _, hclose.length_lt, hclose,
      Reading.yields_pure.2 ⟨rfl, rfl⟩⟩

end

/-- A row of phrases is read as a program. -/
theorem program_complete {room : Nat} {phrases : List Phrase}
    (hdepth : Phrase.rowDepth phrases ≤ room) :
    program room (Phrase.rowSymbols phrases) = .ok (Phrase.statements phrases) := by
  induction phrases with
  | nil => rw [Phrase.rowSymbols, program, Phrase.statements]
  | cons phrase phrases ih =>
    obtain ⟨hphrase, hphrases⟩ := Nat.max_le.1 hdepth
    have hnext : NoBlock (Phrase.rowSymbols phrases) := by
      simpa using NoBlock.rowSymbols_append phrases NoBlock.nil
    have hread := Phrase.read phrase hphrase hnext
    obtain ⟨symbol, more, hsymbols, -⟩ := phrase.exists_symbols_eq
    rw [Phrase.rowSymbols]
    rw [hsymbols, List.cons_append] at hread ⊢
    obtain ⟨shorter, hfirst⟩ := hread
    rw [program, hfirst]
    show (do let more ← program room (Phrase.rowSymbols phrases); _) = _
    rw [ih hphrases]
    rfl

end TaskRunner.Grammar
