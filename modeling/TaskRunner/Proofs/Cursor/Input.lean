import TaskRunner.Proofs.Cursor.Safety

/-! What the parser depends on: the kinds and the texts of the tokens up to the first end of the
input, and the stages of runs.  A list that has no end of its input is read like the one with an end
behind its last token. -/

namespace TaskRunner

open Grammar

/-- The tokens have the same kind and text and, if they are runs, the same stage. -/
structure Token.Resembles (token other : Token) : Prop where
  kind_eq : token.kind = other.kind
  text_eq : token.text = other.text
  stage_eq : token.kind = .run → token.stage = other.stage

/-- The tokens up to and with the first end of the input resemble each other.  Whatever is behind
such an end may differ. -/
inductive ResembleToEnd : List Token → List Token → Prop where
  | nil : ResembleToEnd [] []
  | endOfInput {token other : Token} (h : token.Resembles other) (hend : token.kind = .endOfInput)
      (tokens others : List Token) : ResembleToEnd (token :: tokens) (other :: others)
  | cons {token other : Token} {tokens others : List Token} (h : token.Resembles other)
      (hrest : ResembleToEnd tokens others) : ResembleToEnd (token :: tokens) (other :: others)

/-- The parser refuses the tokens with the error, which it raises at the index. -/
def RefusedAt (tokens : List Token) (i : Nat) (error : ParseError) : Prop :=
  parse tokens = .error error ∧
    ∃ trail : Cursor.Trail, Cursor.outcome tokens = some (.error (.refused error), trail) ∧
      trail.current.index = i

/-- The parser returns the same statements, or refuses both lists at the same index, with the same
expectation and the same text found.  `P` is what holds between the places of the errors. -/
inductive ParseAlike (P : Place → Place → Prop) (tokens others : List Token) : Prop where
  | ok (statements : List Statement) (h : parse tokens = .ok statements)
      (hother : parse others = .ok statements)
  | refused (i : Nat) {error other : ParseError} (h : RefusedAt tokens i error)
      (hother : RefusedAt others i other) (expected_eq : error.expected = other.expected)
      (found_eq : error.found = other.found) (hplace : P error.place other.place)

theorem Token.Resembles.symbol?_eq {token other : Token} (h : token.Resembles other) :
    token.symbol? = other.symbol? := by
  obtain ⟨kind, text, place, depth, stage⟩ := token
  obtain ⟨kind', text', place', depth', stage'⟩ := other
  obtain ⟨rfl, rfl, hstage⟩ := h
  cases kind with
  | run =>
    obtain rfl : stage = stage' := hstage rfl
    rfl
  | _ => rfl

theorem ResembleToEnd.symbols_eq {tokens others : List Token} (h : ResembleToEnd tokens others) :
    symbols tokens = symbols others := by
  induction h with
  | nil => rfl
  | endOfInput h hend tokens others =>
    have hnone := symbol?_eq_none_iff.2 hend
    rw [symbols, symbols, ← h.symbol?_eq, hnone]
  | cons h _ ih => rw [symbols, symbols, h.symbol?_eq, ih]

/-- Up to the end of the input, the texts that are found are the same. -/
theorem ResembleToEnd.found_eq {tokens others : List Token} (h : ResembleToEnd tokens others)
    {i : Nat} (hi : i ≤ (symbols tokens).length) :
    (tokenAt? tokens i).map Token.text = (tokenAt? others i).map Token.text := by
  induction h generalizing i with
  | nil => rfl
  | @endOfInput token other h hend tokens others =>
    have hnone := symbol?_eq_none_iff.2 hend
    rw [symbols, hnone] at hi
    obtain rfl : i = 0 := Nat.le_zero.1 hi
    simp [tokenAt?, Option.filter_some, hend, ← h.kind_eq]
  | @cons token other tokens others h _ ih =>
    cases i with
    | zero => simp [tokenAt?, Option.filter_some, ← h.kind_eq, ← h.text_eq, apply_ite]
    | succ i =>
      refine ih ?_
      rw [symbols] at hi
      split at hi
      · cases hi
      · exact Nat.le_of_succ_le_succ hi

/-- An end of the input behind the last token is not seen. -/
theorem symbols_append_end {tokens : List Token} (h : ∀ token ∈ tokens, token.kind ≠ .endOfInput)
    {last : Token} (hlast : last.kind = .endOfInput) :
    symbols (tokens ++ [last]) = symbols tokens ∧ (symbols tokens).length = tokens.length := by
  induction tokens with
  | nil => simp [symbols, symbol?_eq_none_iff.2 hlast]
  | cons token tokens ih =>
    obtain ⟨hkind, hrest⟩ := List.forall_mem_cons.1 h
    obtain ⟨symbol, hsymbol⟩ :=
      Option.ne_none_iff_exists'.1 fun hnone => hkind (symbol?_eq_none_iff.1 hnone)
    obtain ⟨hsame, hlength⟩ := ih hrest
    rw [List.cons_append, symbols, symbols, hsymbol]
    dsimp only
    rw [hsame, List.length_cons, List.length_cons, hlength]
    exact ⟨rfl, rfl⟩

/-- Lists with the same symbols are parsed alike if the same is found in both where the reading may
stop. -/
theorem parseAlike_of_symbols_eq {P : Place → Place → Prop} {tokens others : List Token}
    (hsymbols : symbols tokens = symbols others)
    (hfound : ∀ i ≤ (symbols tokens).length,
      (tokenAt? tokens i).map Token.text = (tokenAt? others i).map Token.text)
    (hplace : ∀ i ≤ (symbols tokens).length, ∀ expected : Expectation,
      P (ParseError.ofIndex tokens i expected).place
        (ParseError.ofIndex others i expected).place) :
    ParseAlike P tokens others := by
  rcases Cursor.outcome_cases tokens with
    ⟨statements, -, hprogram, hparse, -⟩ |
      ⟨stop, trail, error, hprogram, hlength, herror, hparse, houtcome, -⟩
  all_goals
    rcases Cursor.outcome_cases others with
      ⟨statements', -, hprogram', hparse', -⟩ |
        ⟨stop', trail', error', hprogram', hlength', herror', hparse', houtcome', -⟩
    all_goals
      rw [← hsymbols, hprogram] at hprogram'
      cases hprogram'
  · exact .ok statements hparse hparse'
  · rw [← hsymbols, hlength] at hlength'
    have hindex : trail.current.index = trail'.current.index := Nat.add_right_cancel hlength'
    have hle : trail.current.index ≤ (symbols tokens).length := by omega
    rw [← hindex] at herror'
    refine .refused trail.current.index ⟨hparse, trail, houtcome, rfl⟩
      ⟨hparse', trail', houtcome', hindex.symm⟩ ?_ ?_ ?_
    · rw [herror, herror', ParseError.ofIndex_expected, ParseError.ofIndex_expected]
    · rw [herror, herror', ParseError.ofIndex_found, ParseError.ofIndex_found]
      exact hfound _ hle
    · rw [herror, herror']
      exact hplace _ hle _

/-- The places have the same line and column. -/
def Place.SameSpan (place other : Place) : Prop :=
  place.line = other.line ∧ place.column = other.column

/-- The parser depends on nothing but the kinds, the texts and the stages of runs up to the first
end of the input: lists that resemble each other so far are parsed alike.  A list without an end is
parsed like the list with one that stands where its last token does, or at the start if there is
none; the errors have the same line and column. -/
theorem parseAlike_of_resemble :
    (∀ tokens others, ResembleToEnd tokens others →
      ParseAlike (fun _ _ => True) tokens others) ∧
    ∀ (tokens : List Token) (last : Token), (∀ token ∈ tokens, token.kind ≠ .endOfInput) →
      last.kind = .endOfInput →
        last.place.SameSpan ((tokens.getLast?.map Token.place).getD Place.start) →
          ParseAlike Place.SameSpan (tokens ++ [last]) tokens := by
  refine ⟨fun tokens others h => ?_, fun tokens last htokens hlast hplace => ?_⟩
  · exact parseAlike_of_symbols_eq h.symbols_eq (fun i hi => h.found_eq hi) fun _ _ _ => trivial
  · obtain ⟨hsymbols, hlength⟩ := symbols_append_end htokens hlast
    refine parseAlike_of_symbols_eq hsymbols (fun i hi => ?_) fun i hi expected => ?_
    all_goals rw [hsymbols, hlength] at hi
    · rcases Nat.lt_or_eq_of_le hi with hlt | rfl
      · rw [tokenAt?, tokenAt?, List.getElem?_append_left hlt]
      · simp [tokenAt?, hlast]
    · rw [ParseError.ofIndex_place, ParseError.ofIndex_place]
      rcases Nat.lt_or_eq_of_le hi with hlt | rfl
      · rw [List.getElem?_append_left hlt, List.getElem?_eq_getElem hlt]
        exact ⟨rfl, rfl⟩
      · simpa using hplace

/-- A target without a name: elsewhere, with something behind the end, and with no end. -/
theorem parseAlike_of_resemble_target :
    let target : Token := ⟨.target, "target", ⟨1, 1, 0⟩, 0, .during⟩
    let other : Token := ⟨.target, "target", ⟨4, 2, 9⟩, 3, .after⟩
    let last : Token := ⟨.endOfInput, "", ⟨1, 1, 6⟩, 0, .during⟩
    let comma : Token := ⟨.comma, ",", ⟨1, 7, 6⟩, 0, .during⟩
    parse [target] = .error ⟨.name .target, none, ⟨1, 1, 0⟩⟩ ∧
      ResembleToEnd [target, last] [other, last, comma] ∧
        ParseAlike (fun _ _ => True) [target, last] [other, last, comma] ∧
          ParseAlike Place.SameSpan [target, last] [target] := by
  intro target other last comma
  have hresemble : ResembleToEnd [target, last] [other, last, comma] :=
    .cons ⟨rfl, rfl, fun h => nomatch h⟩ (.endOfInput ⟨rfl, rfl, fun _ => rfl⟩ rfl [] [comma])
  have hparse : parse [target] = .error ⟨.name .target, none, ⟨1, 1, 0⟩⟩ := by
    simp [target, parse, symbols, Token.symbol?, Parse.program, Parse.statement, bind,
      Except.bind, ParseError.ofIndex]
  exact ⟨hparse, hresemble, parseAlike_of_resemble.1 _ _ hresemble,
    parseAlike_of_resemble.2 [target] last (by simp [target]) rfl ⟨rfl, rfl⟩⟩

end TaskRunner
