import TaskRunner.Proofs.Grammar.Pairing
import TaskRunner.Proofs.Scan.Location

/-! The depths that tokens tell.  The scanner counts open braces, but never below zero.  What the
parser accepts has its braces paired, so there the count is right; and a source text in which it is
not is refused. -/

namespace TaskRunner

open Grammar

/-! ### The scanner's count -/

/-- The number of open braces that the scanner counts behind a token, if it counts `n` before. -/
def Token.openBehind (n : Nat) (token : Token) : Nat :=
  match token.kind with
  | .leftBrace => n + 1
  | .rightBrace => n - 1
  | _ => n

/-- Each token tells the number of open braces that the scanner counts there, `n` before the first.
A brace tells that of the blocks around its own. -/
def TellDepths (n : Nat) : List Token → Prop
  | [] => True
  | token :: more => token.depth = min n (token.openBehind n) ∧ TellDepths (token.openBehind n) more

namespace Scanner

/-- The tokens of a lexeme tell the depth at which it is read, and the scanner goes on from the
depth behind them. -/
theorem tellDepths_tokens_append (scanner : Scanner) (lexeme : Lexeme) {more : List Token}
    (h : TellDepths (scanner.advance lexeme).depth more) :
    TellDepths scanner.depth (scanner.tokens lexeme ++ more) := by
  cases lexeme with
  | openBrace script =>
    have hdepth : (scanner.advance (.openBrace script)).depth = scanner.depth + 1 := rfl
    rw [hdepth] at h
    by_cases hscript : (trim script).isEmpty = true <;>
      simpa [tokens, token, scriptTokens, hscript, TellDepths, Token.openBehind] using h
  | word text =>
    -- A word is a name or a reserved word, and no brace.
    have hopen : (scanner.token (classifyWord text).1 text (classifyWord text).2).openBehind
        scanner.depth = scanner.depth := by
      rcases classifyWord_kind text with hkind | ⟨keyword, hkind⟩
      · simp [Token.openBehind, token, hkind]
      · cases hcase : (classifyWord text).1 <;>
          simp_all [Token.openBehind, token, Token.Kind.keyword?]
    refine ⟨by rw [hopen, Nat.min_self]; rfl, ?_⟩
    rw [hopen]
    exact h
  | space c => exact h
  | comment text => exact h
  | closeBrace => exact ⟨(Nat.min_eq_right (Nat.sub_le _ _)).symm, h⟩
  | comma => exact ⟨(Nat.min_self _).symm, h⟩
  | quoted quote text => exact ⟨(Nat.min_self _).symm, h⟩
  | number digits => exact ⟨(Nat.min_self _).symm, h⟩

theorem tellDepths_tokensOf (scanner : Scanner) (lexemes : List Lexeme) :
    TellDepths scanner.depth (scanner.tokensOf lexemes) := by
  induction lexemes generalizing scanner with
  | nil => exact ⟨(Nat.min_self _).symm, trivial⟩
  | cons lexeme more ih => exact scanner.tellDepths_tokens_append lexeme (ih _)

end Scanner

/-- Where there is an open brace to close, the count is exact. -/
theorem Token.openBehind_add {n : Nat} {token : Token}
    (h : [token].countP (·.kind == .rightBrace) ≤ [token].countP (·.kind == .leftBrace) + n) :
    token.openBehind n + [token].countP (·.kind == .rightBrace) =
      [token].countP (·.kind == .leftBrace) + n := by
  cases hkind : token.kind <;> simp_all [openBehind]
  omega

theorem Token.min_openBehind_add {n : Nat} {token : Token}
    (h : [token].countP (·.kind == .rightBrace) ≤ [token].countP (·.kind == .leftBrace) + n) :
    min n (token.openBehind n) + [token].countP (·.kind == .rightBrace) = n := by
  cases hkind : token.kind <;> simp_all [openBehind]

/-- Where no brace closes more than are open, each token tells how many are. -/
theorem TellDepths.depth_add {n : Nat} {front rest : List Token} {token : Token}
    (h : TellDepths n (front ++ token :: rest))
    (hwithin : ∀ part, part <+: front ++ token :: rest →
      part.countP (·.kind == .rightBrace) ≤ part.countP (·.kind == .leftBrace) + n) :
    token.depth + (front ++ [token]).countP (·.kind == .rightBrace) =
      front.countP (·.kind == .leftBrace) + n := by
  induction front generalizing n with
  | nil =>
    rw [h.1, List.nil_append, Token.min_openBehind_add (hwithin [token] ⟨rest, rfl⟩)]
    exact (Nat.zero_add n).symm
  | cons first front ih =>
    have hfirst := Token.openBehind_add (hwithin [first] ⟨front ++ token :: rest, rfl⟩)
    have hmore := ih h.2 fun part hpart => by
      have hpart := hwithin ([first] ++ part) ((List.prefix_cons_inj first).2 hpart)
      rw [List.countP_append, List.countP_append] at hpart
      omega
    rw [← List.singleton_append]
    simp only [List.countP_append] at hmore ⊢
    omega

/-! ### Right depths -/

/-- Every token tells the number of braces open where it stands.  A closing brace counts as closed
there, an opening one not yet as open. -/
def TellOpenBraces (tokens : List Token) : Prop :=
  ∀ front token rest, tokens = front ++ token :: rest →
    token.depth + (front ++ [token]).countP (·.kind == .rightBrace) =
      front.countP (·.kind == .leftBrace)

section OpenBraces

variable {tokens : List Token}

/-- Where braces are paired, the scanner's count is right. -/
theorem TellDepths.tellOpenBraces (h : TellDepths 0 tokens) (hpaired : IsPaired tokens) :
    TellOpenBraces tokens := by
  rintro front token rest rfl
  exact h.depth_add hpaired.within

/-- A closing brace tells the depth of the opening one that it belongs to: between the two every
brace is paired. -/
theorem TellOpenBraces.exists_opening (h : TellOpenBraces tokens) {front rest : List Token}
    {closing : Token} (htokens : tokens = front ++ closing :: rest)
    (hclosing : closing.kind = .rightBrace) :
    ∃ before opening inside, front = before ++ opening :: inside ∧ opening.kind = .leftBrace ∧
      IsPaired inside ∧ closing.depth = opening.depth := by
  have hdepth := h front closing rest htokens
  rw [List.countP_append, List.countP_singleton, if_pos (by simp [hclosing])] at hdepth
  obtain ⟨before, opening, inside, rfl, hopening, hinside⟩ :=
    Grammar.exists_opening ⟨front, List.suffix_rfl, by omega⟩
  have hdepth' := h before opening (inside ++ closing :: rest) (by rw [htokens]; simp)
  have hsettled := hinside.settled
  simp [hopening] at hdepth hdepth'
  exact ⟨before, opening, inside, rfl, hopening, hinside, by omega⟩

/-- No token tells a depth beyond the room within which the tokens before the last one nest. -/
theorem TellOpenBraces.depth_le {room : Nat} {init : List Token} {last : Token}
    (h : TellOpenBraces (init ++ [last])) (hnests : NestsWithin room init) :
    ∀ token ∈ init ++ [last], token.depth ≤ room := by
  intro token htoken
  obtain ⟨front, rest, htokens⟩ := List.append_of_mem htoken
  have hdepth := h front token rest htokens
  have hfront : front <+: init := by
    rcases List.prefix_concat_iff.1 ⟨token :: rest, htokens.symm⟩ with rfl | hfront
    · simp at htokens
    · exact hfront
  have hmost := hnests front hfront
  rw [List.countP_append] at hdepth
  omega

end OpenBraces

/-! ### Accepted sources -/

/-- The braces of the tokens are paired and nest no deeper than the limit, and every token tells how
many are open. -/
structure IsNested (tokens : List Token) : Prop where
  paired : IsPaired tokens
  depths : TellOpenBraces tokens
  /-- A closing brace tells the depth of the opening one that it belongs to. -/
  matching : ∀ front closing rest, tokens = front ++ closing :: rest →
    closing.kind = .rightBrace →
      ∃ before opening inside, front = before ++ opening :: inside ∧ opening.kind = .leftBrace ∧
        IsPaired inside ∧ closing.depth = opening.depth
  depth_le : ∀ token ∈ tokens, token.depth ≤ maxDepth
  /-- The last token is the end of the input, and nothing is open there. -/
  ends : ∃ last, tokens.getLast? = some last ∧ last.kind = .endOfInput ∧ last.depth = 0

/-- The depths in a scanned text are the scanner's count, and its one end of the input is last. -/
theorem exists_tellDepths_of_scan {source : String} {tokens : List Token}
    (h : scan source = .ok tokens) :
    TellDepths 0 tokens ∧
      ∃ last, tokens = beforeEnd tokens ++ [last] ∧ last.kind = .endOfInput := by
  rw [scan_eq_scan_withoutMark] at h
  generalize hscanner : Scanner.initial (Place.behind (leadingMark source.toList) []) = scanner at h
  obtain ⟨lexemes, hlexemes, rfl⟩ := Scanner.exists_lexemes_of_scan h
  have hdepth : scanner.depth = 0 := by rw [← hscanner]; rfl
  have htiling : IsTiling (leadingMark source.toList) [] none (scanner.tiles lexemes) :=
    Scanner.isTiling_tiles hlexemes [] (by rw [← hscanner]; rfl)
  obtain ⟨init, final, htiles, hfinal, hinit, -⟩ := htiling.exists_last (by simp)
  refine ⟨hdepth ▸ scanner.tellDepths_tokensOf lexemes, final.token, ?_, hfinal⟩
  have hbefore : beforeEnd (init.map Tile.token ++ [final.token]) = init.map Tile.token := by
    rw [beforeEnd, List.takeWhile_append_of_pos (by simpa using hinit)]
    simp [hfinal]
  rw [← Scanner.map_token_tiles, htiles, List.map_append, List.map_singleton, hbefore]

/-- The tokens that the parser accepts are paired up to their end and nest within the limit. -/
theorem isPaired_beforeEnd_of_parse {tokens : List Token} {statements : List Statement}
    (h : parse tokens = .ok statements) :
    IsPaired (beforeEnd tokens) ∧ NestsWithin maxDepth (beforeEnd tokens) := by
  obtain ⟨phrases, hsymbols, hdepth, -⟩ := program_eq_ok_iff.1 (parse_eq_ok_iff_program.1 h)
  refine ⟨(derives_beforeEnd_iff.2 hsymbols).isPaired, ?_⟩
  rw [nestsWithin_iff (map_symbol?_beforeEnd tokens), ← hsymbols]
  exact (Phrase.fits_rowSymbols_iff phrases maxDepth).2 hdepth

theorem isNested_of_parse {source : String} {tokens : List Token} {statements : List Statement}
    (hscan : scan source = .ok tokens) (hparse : parse tokens = .ok statements) :
    IsNested tokens := by
  obtain ⟨hdepths, last, htokens, hlast⟩ := exists_tellDepths_of_scan hscan
  obtain ⟨hbefore, hnests⟩ := isPaired_beforeEnd_of_parse hparse
  have hpaired : IsPaired tokens := htokens ▸ hbefore.concat (by simp [hlast]) (by simp [hlast])
  have hopen := hdepths.tellOpenBraces hpaired
  have hend : last.depth = 0 := by
    have hdepth := hopen _ last [] htokens
    have hsettled := hbefore.settled
    simp [hlast] at hdepth
    omega
  refine ⟨hpaired, hopen, fun front closing rest => hopen.exists_opening, ?_,
    last, by rw [htokens, List.getLast?_concat], hlast, hend⟩
  rw [htokens] at hopen ⊢
  exact hopen.depth_le hnests

/-- A source text is accepted only if the braces of its tokens are paired and nest no deeper than
the limit, and then the depths that its tokens tell are right.  Any other text is refused, at the
latest by the parser. -/
theorem isNested_of_parseSource (source : String) :
    (∀ statements, parseSource source = .ok statements →
      ∃ tokens, scan source = .ok tokens ∧ IsNested tokens) ∧
    (∀ tokens, scan source = .ok tokens → ¬IsNested tokens →
      ∃ error, parseSource source = .error (.parse error)) := by
  unfold parseSource
  cases hscan : scan source with
  | error error => simp
  | ok tokens =>
    cases hparse : parse tokens with
    | error error => simp [hparse]
    | ok statements => simpa [hparse] using isNested_of_parse hscan hparse

/-- A script with braces of its own, which are no tokens, and one that runs to the end of the text
and leaves its block open. -/
theorem isNested_of_parseSource_script :
    let source := "target a \x7b run \x7b \x7b\x7d \x7d \x7d"
    let unclosed := "run \x7b \x7b\x7d"
    (parseSource source =
        .ok [.target "a" [.run ⟨none, [.action "\x7b\x7d"], .during⟩]] ∧
      ∃ tokens, scan source = .ok tokens ∧ IsNested tokens) ∧
    ∃ tokens error, scan unclosed = .ok tokens ∧ ¬IsNested tokens ∧
      parseSource unclosed = .error (.parse error) := by
  intro source unclosed
  have hparse : parseSource source =
      .ok [.target "a" [.run ⟨none, [.action "\x7b\x7d"], .during⟩]] :=
    parseSource_eq_ok_iff.2 ⟨[.target "a" [.run .during (.block [.script "\x7b\x7d"])]],
      by decide +kernel, by decide +kernel, by rfl⟩
  refine ⟨⟨hparse, (isNested_of_parseSource source).1 _ hparse⟩, ?_⟩
  obtain ⟨tokens, hscan, hcount⟩ : ∃ tokens, scan unclosed = .ok tokens ∧
      tokens.countP (·.kind == .rightBrace) ≠ tokens.countP (·.kind == .leftBrace) :=
    ⟨[⟨.run, "run", ⟨1, 1, 0⟩, 0, .during⟩, ⟨.leftBrace, "\x7b", ⟨1, 5, 4⟩, 0, .during⟩,
      ⟨.script, "\x7b\x7d", ⟨1, 6, 5⟩, 1, .during⟩, ⟨.endOfInput, "", ⟨1, 9, 8⟩, 1, .during⟩],
      by decide +kernel, by decide⟩
  have hnested : ¬IsNested tokens := fun h => hcount h.paired.settled
  obtain ⟨error, herror⟩ := (isNested_of_parseSource unclosed).2 tokens hscan hnested
  exact ⟨tokens, error, hscan, hnested, herror⟩

end TaskRunner
