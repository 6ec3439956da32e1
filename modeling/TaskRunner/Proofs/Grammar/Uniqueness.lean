import TaskRunner.Proofs.Grammar.Derivation

/-! A row of symbols has one derivation at most.  Where the derivation of a part ends can be told
from the next symbol: a block and a row of lines or paths end at their brace, and the block that may
follow `run` and a name is there exactly if an opening brace is next. -/

namespace TaskRunner.Grammar

/-- The symbols do not go on with an opening brace. -/
def NoBlock (rest : List Symbol) : Prop :=
  ∀ more, rest ≠ .openBrace :: more

theorem NoBlock.nil : NoBlock [] := fun _ => nofun

theorem NoBlock.cons {symbol : Symbol} (h : symbol ≠ .openBrace) (rest : List Symbol) :
    NoBlock (symbol :: rest) := by
  rintro more heq
  exact h (List.cons.inj heq).1

theorem NoBlock.closeBrace (rest : List Symbol) : NoBlock (.closeBrace :: rest) :=
  NoBlock.cons (by simp) rest

theorem NoBlock.rowSymbols_append (phrases : List Phrase) {rest : List Symbol}
    (h : NoBlock rest) : NoBlock (Phrase.rowSymbols phrases ++ rest) := by
  cases phrases with
  | nil => exact h
  | cons phrase more =>
    obtain ⟨symbol, tail, heq, hbegins⟩ := phrase.exists_symbols_eq
    rw [Phrase.rowSymbols, heq]
    exact NoBlock.cons hbegins.1 _

/-- What follows `run` may end before `rest`: a name without a block is followed by no block. -/
def Call.EndsBefore : Call → List Symbol → Prop
  | .name _, rest => NoBlock rest
  | _, _ => True

/-- The phrase may end before `rest`. -/
def Phrase.EndsBefore : Phrase → List Symbol → Prop
  | .run _ call, rest => call.EndsBefore rest
  | _, _ => True

/-- The next symbol alone decides whether a part may end before it. -/
theorem Call.EndsBefore.congr {call : Call} {rest rest' : List Symbol}
    (h : call.EndsBefore rest) (hrest : rest'.head? = rest.head?) : call.EndsBefore rest' := by
  cases call with
  | name name =>
    rintro more rfl
    obtain ⟨more', rfl⟩ := List.head?_eq_some_iff.1 hrest.symm
    exact h more' rfl
  | _ => trivial

theorem Phrase.EndsBefore.congr {phrase : Phrase} {rest rest' : List Symbol}
    (h : phrase.EndsBefore rest) (hrest : rest'.head? = rest.head?) : phrase.EndsBefore rest' := by
  cases phrase with
  | run stage call => exact Call.EndsBefore.congr h hrest
  | _ => trivial

theorem NoBlock.endsBefore_call {rest : List Symbol} (h : NoBlock rest) (call : Call) :
    call.EndsBefore rest := by
  cases call with
  | name name => exact h
  | _ => trivial

theorem NoBlock.endsBefore {rest : List Symbol} (h : NoBlock rest) (phrase : Phrase) :
    phrase.EndsBefore rest := by
  cases phrase with
  | run stage call => exact h.endsBefore_call call
  | _ => trivial

/-- A row of symbols none of which is a closing brace ends at the first one. -/
theorem map_append_closeBrace_inj {α : Type} {f : α → Symbol} (hf : Function.Injective f)
    (hclose : ∀ a, f a ≠ .closeBrace) {as bs : List α} {rest rest' : List Symbol}
    (h : as.map f ++ .closeBrace :: rest = bs.map f ++ .closeBrace :: rest') :
    as = bs ∧ rest = rest' := by
  induction as generalizing bs with
  | nil =>
    cases bs with
    | nil => simpa using h
    | cons b bs => exact absurd (List.cons.inj h).1.symm (hclose b)
  | cons a as ih =>
    cases bs with
    | nil => exact absurd (List.cons.inj h).1 (hclose a)
    | cons b bs =>
      obtain ⟨hab, htail⟩ := List.cons.inj h
      obtain ⟨rfl, hrest⟩ := ih htail
      exact ⟨by rw [hf hab], hrest⟩

theorem lineSymbol_injective : Function.Injective lineSymbol := by
  intro a b h
  cases a <;> cases b <;> simp_all [lineSymbol]

theorem pathSymbol_injective : Function.Injective pathSymbol := by
  intro a b h
  cases a <;> cases b <;> simp_all [pathSymbol]

mutual

/-- Two phrases whose symbols agree up to what follows them are the same. -/
theorem Phrase.symbols_append_inj : (phrase phrase' : Phrase) → {rest rest' : List Symbol} →
    phrase.EndsBefore rest → NoBlock rest' →
    phrase.symbols ++ rest = phrase'.symbols ++ rest' → phrase = phrase' ∧ rest = rest'
  | .config entries, phrase', rest, rest', _, _, h => by
    cases phrase' <;> simp [Phrase.symbols, braced_append] at h
    obtain ⟨rfl, rfl⟩ := Entry.rowSymbols_append_inj _ _ h
    exact ⟨rfl, rfl⟩
  | .var entries, phrase', rest, rest', _, _, h => by
    cases phrase' <;> simp [Phrase.symbols, braced_append] at h
    obtain ⟨rfl, rfl⟩ := Entry.rowSymbols_append_inj _ _ h
    exact ⟨rfl, rfl⟩
  | .target name body, phrase', rest, rest', _, _, h => by
    cases phrase' <;> simp [Phrase.symbols, braced_append] at h
    obtain ⟨rfl, hbody⟩ := h
    obtain ⟨rfl, rfl⟩ := Phrase.rowSymbols_append_inj _ _ hbody
    exact ⟨rfl, rfl⟩
  | .run stage call, phrase', rest, rest', hrest, hrest', h => by
    cases phrase' <;> simp [Phrase.symbols, braced_append] at h
    obtain ⟨rfl, hcall⟩ := h
    obtain ⟨rfl, rfl⟩ := Call.symbols_append_inj _ _ hrest hrest' hcall
    exact ⟨rfl, rfl⟩
  | .describe lines, phrase', rest, rest', _, _, h => by
    cases phrase' <;> simp [Phrase.symbols, braced_append] at h
    obtain ⟨rfl, rfl⟩ :=
      map_append_closeBrace_inj lineSymbol_injective lineSymbol_ne_closeBrace h
    exact ⟨rfl, rfl⟩
  | .extend paths, phrase', rest, rest', _, _, h => by
    cases phrase' <;> simp [Phrase.symbols, braced_append] at h
    obtain ⟨rfl, rfl⟩ :=
      map_append_closeBrace_inj pathSymbol_injective pathSymbol_ne_closeBrace h
    exact ⟨rfl, rfl⟩
  | .script text, phrase', rest, rest', _, _, h => by
    cases phrase' <;> simp [Phrase.symbols, braced_append] at h
    simpa using h
  | .literal value, phrase', rest, rest', _, _, h => by
    cases phrase' <;> simp [Phrase.symbols, braced_append] at h
    simpa using h

/-- Two rows of phrases that end at a closing brace and have the same symbols are the same. -/
theorem Phrase.rowSymbols_append_inj : (phrases phrases' : List Phrase) →
    {rest rest' : List Symbol} →
    Phrase.rowSymbols phrases ++ .closeBrace :: rest =
      Phrase.rowSymbols phrases' ++ .closeBrace :: rest' →
    phrases = phrases' ∧ rest = rest'
  | [], [], _, _, h => by simpa [Phrase.rowSymbols] using h
  | [], phrase :: _, _, _, h => by
    obtain ⟨symbol, more, heq, hbegins⟩ := phrase.exists_symbols_eq
    simp only [Phrase.rowSymbols, heq, List.nil_append, List.cons_append, List.cons.injEq] at h
    exact absurd h.1.symm hbegins.2.1
  | phrase :: _, [], _, _, h => by
    obtain ⟨symbol, more, heq, hbegins⟩ := phrase.exists_symbols_eq
    simp only [Phrase.rowSymbols, heq, List.nil_append, List.cons_append, List.cons.injEq] at h
    exact absurd h.1 hbegins.2.1
  | phrase :: phrases, phrase' :: phrases', rest, rest', h => by
    have hblock (row : List Phrase) (tail : List Symbol) :
        NoBlock (Phrase.rowSymbols row ++ .closeBrace :: tail) :=
      NoBlock.rowSymbols_append row (NoBlock.closeBrace tail)
    simp only [Phrase.rowSymbols, List.append_assoc] at h
    obtain ⟨rfl, hmore⟩ :=
      Phrase.symbols_append_inj _ _ ((hblock _ _).endsBefore phrase) (hblock _ _) h
    obtain ⟨rfl, rfl⟩ := Phrase.rowSymbols_append_inj _ _ hmore
    exact ⟨rfl, rfl⟩

/-- What follows `run` is decided by its symbols if no block is to follow them. -/
theorem Call.symbols_append_inj : (call call' : Call) → {rest rest' : List Symbol} →
    call.EndsBefore rest → NoBlock rest' →
    call.symbols ++ rest = call'.symbols ++ rest' → call = call' ∧ rest = rest'
  | .block body, call', rest, rest', _, _, h => by
    cases call' <;> simp [Call.symbols, braced_append] at h
    obtain ⟨rfl, rfl⟩ := Phrase.rowSymbols_append_inj _ _ h
    exact ⟨rfl, rfl⟩
  | .name name, call', rest, rest', hrest, _, h => by
    cases call' <;> simp [Call.symbols, braced_append] at h
    · simpa using h
    · exact absurd h.2 (hrest _)
  | .both name body, call', rest, rest', _, hrest', h => by
    cases call' <;> simp [Call.symbols, braced_append] at h
    · exact absurd h.2.symm (hrest' _)
    · obtain ⟨rfl, hbody⟩ := h
      obtain ⟨rfl, rfl⟩ := Phrase.rowSymbols_append_inj _ _ hbody
      exact ⟨rfl, rfl⟩

/-- Two entries whose symbols agree up to what follows them are the same. -/
theorem Entry.symbols_append_inj : (entry entry' : Entry) → {rest rest' : List Symbol} →
    entry.symbols ++ rest = entry'.symbols ++ rest' → entry = entry' ∧ rest = rest'
  | .comma, entry', rest, rest', h => by
    cases entry' <;> simp [Entry.symbols] at h
    exact ⟨rfl, h⟩
  | .binding name value, entry', rest, rest', h => by
    cases entry' <;> simp [Entry.symbols] at h
    obtain ⟨rfl, hvalue⟩ := h
    obtain ⟨rfl, rfl⟩ := Initial.symbols_append_inj _ _ hvalue
    exact ⟨rfl, rfl⟩

/-- Two rows of entries that end at a closing brace and have the same symbols are the same. -/
theorem Entry.rowSymbols_append_inj : (entries entries' : List Entry) →
    {rest rest' : List Symbol} →
    Entry.rowSymbols entries ++ .closeBrace :: rest =
      Entry.rowSymbols entries' ++ .closeBrace :: rest' →
    entries = entries' ∧ rest = rest'
  | [], [], _, _, h => by simpa [Entry.rowSymbols] using h
  | [], entry :: _, _, _, h => by
    obtain ⟨symbol, more, heq, hne⟩ := entry.exists_symbols_eq
    simp only [Entry.rowSymbols, heq, List.nil_append, List.cons_append, List.cons.injEq] at h
    exact absurd h.1.symm hne
  | entry :: _, [], _, _, h => by
    obtain ⟨symbol, more, heq, hne⟩ := entry.exists_symbols_eq
    simp only [Entry.rowSymbols, heq, List.nil_append, List.cons_append, List.cons.injEq] at h
    exact absurd h.1 hne
  | entry :: entries, entry' :: entries', rest, rest', h => by
    simp only [Entry.rowSymbols, List.append_assoc] at h
    obtain ⟨rfl, hmore⟩ := Entry.symbols_append_inj _ _ h
    obtain ⟨rfl, rfl⟩ := Entry.rowSymbols_append_inj _ _ hmore
    exact ⟨rfl, rfl⟩

/-- Two values whose symbols agree up to what follows them are the same. -/
theorem Initial.symbols_append_inj : (value value' : Initial) → {rest rest' : List Symbol} →
    value.symbols ++ rest = value'.symbols ++ rest' → value = value' ∧ rest = rest'
  | .literal value, value', rest, rest', h => by
    cases value' <;> simp [Initial.symbols, braced_append] at h
    simpa using h
  | .run stage call, value', rest, rest', h => by
    cases value' <;> simp [Initial.symbols, braced_append] at h
    obtain ⟨rfl, hcall⟩ := h
    obtain ⟨rfl, hrest⟩ :=
      Call.symbols_append_inj _ _ ((NoBlock.closeBrace rest).endsBefore_call call)
        (NoBlock.closeBrace rest') hcall
    exact ⟨rfl, (List.cons.inj hrest).2⟩

end

/-- A row of symbols has one derivation at most. -/
theorem Phrase.rowSymbols_injective : Function.Injective Phrase.rowSymbols := by
  intro phrases phrases' h
  have hclosed : Phrase.rowSymbols phrases ++ [.closeBrace] =
      Phrase.rowSymbols phrases' ++ [.closeBrace] := by rw [h]
  exact (Phrase.rowSymbols_append_inj phrases phrases' hclosed).1

end TaskRunner.Grammar
