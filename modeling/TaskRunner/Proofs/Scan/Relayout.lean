import TaskRunner.Proofs.Scan.Location
import TaskRunner.Proofs.Scan.Rows

/-! The same tokens laid out anew.  Tokens may be written again with any white space and any
comments between them: what is scanned then are the same tokens at other places.  So the kinds and
the texts of the tokens, in their order, tell everything that the scanner has to know of the
text. -/

namespace TaskRunner

/-! ### Layouts -/

/-- What a token says, apart from its place. -/
def Token.content (token : Token) : Token.Kind × String × Nat × Stage :=
  (token.kind, token.text, token.depth, token.stage)

/-- A token as it is written: the text of a string stands between quotes, in backquotes if it holds
a double quote. -/
def Token.written (token : Token) : List Char :=
  if token.kind = .string then quote token.text.toList else token.text.toList

/-- White space, and comments each of which ends with its line. -/
inductive IsFiller : List Char → Prop where
  | nil : IsFiller []
  | space {c : Char} {more : List Char} (hspace : isSpace c = true) (hmore : IsFiller more) :
      IsFiller (c :: more)
  | comment {text more : List Char} (hinside : '\n' ∉ text) (hmore : IsFiller more) :
      IsFiller ('#' :: text ++ '\n' :: more)

/-- The text separates a token of the kind `last` from the next one.  Behind an opening brace and
behind a script there may be no comments, which would be taken for a part of the script. -/
structure Separates (last : Option Token.Kind) (gap : List Char) : Prop where
  ne_nil : gap ≠ []
  filler : IsFiller gap
  blank : last = some .leftBrace ∨ last = some .script → ∀ c ∈ gap, isSpace c = true

/-- The text is that of the tokens, each of them written down and followed by a separator.  The end
of the input is not written. -/
inductive LaysOut : List Token → List Char → Prop where
  | endOfInput {token : Token} (hend : token.kind = .endOfInput) : LaysOut [token] []
  | cons {token : Token} {more : List Token} {gap text : List Char}
      (hgap : Separates (some token.kind) gap) (hmore : LaysOut more text) :
      LaysOut (token :: more) (token.written ++ (gap ++ text))

/-- The text is that of the tokens with separators before, between and after them. -/
def IsRelaid (tokens : List Token) (text : List Char) : Prop :=
  ∃ gap rest, text = gap ++ rest ∧ Separates none gap ∧ LaysOut tokens rest

theorem LaysOut.exists_gap {token : Token} {more : List Token} {text : List Char}
    (h : LaysOut (token :: more) text) (hkind : token.kind ≠ .endOfInput) :
    ∃ gap rest, text = token.written ++ (gap ++ rest) ∧ Separates (some token.kind) gap ∧
      LaysOut more rest := by
  cases h with
  | endOfInput hend => exact absurd hend hkind
  | cons hgap hmore => exact ⟨_, _, rfl, hgap, hmore⟩

theorem IsFiller.head {gap : List Char} (h : IsFiller gap) :
    ∀ c ∈ gap.head?, isSpace c = true ∨ c = '#' := by
  cases h with
  | nil => nofun
  | space hspace hmore => simpa using .inl hspace
  | comment hinside hmore => simp

/-- No word and no number goes on with a separator. -/
theorem Separates.not_isWordChar {last : Option Token.Kind} {gap : List Char}
    (h : Separates last gap) (text : List Char) :
    ∀ c ∈ (gap ++ text).head?, isWordChar c = false := by
  obtain ⟨d, gap', rfl⟩ := List.exists_cons_of_ne_nil h.ne_nil
  intro c hc
  obtain rfl : d = c := by simpa using hc
  rcases h.filler.head d rfl with hspace | rfl
  · exact not_isWordChar_of_isSpace hspace
  · decide +kernel

theorem isBlank_of_isSpace {c : Char} (h : isSpace c = true) : isBlank c = true := by
  simp only [isSpace, Bool.or_eq_true, beq_iff_eq] at h
  rcases h with ((rfl | rfl) | rfl) | rfl <;> decide

theorem isBlankText_of_isSpace {gap : List Char} (h : ∀ c ∈ gap, isSpace c = true) :
    isBlankText gap = true :=
  List.all_eq_true.2 fun c hc => isBlank_of_isSpace (h c hc)

/-! ### Scanners at different places -/

namespace Scanner

/-- The scanners agree in all but their places. -/
structure Matches (scanner other : Scanner) : Prop where
  depth : scanner.depth = other.depth
  modes : scanner.modes = other.modes
  afterRun : scanner.afterRun = other.afterRun

variable {scanner other : Scanner} {lexeme : Lexeme} {text rest : List Char}

theorem Matches.symm (h : scanner.Matches other) : other.Matches scanner :=
  ⟨h.depth.symm, h.modes.symm, h.afterRun.symm⟩

theorem Matches.trans {third : Scanner} (h : scanner.Matches other) (h' : other.Matches third) :
    scanner.Matches third :=
  ⟨h.depth.trans h'.depth, h.modes.trans h'.modes, h.afterRun.trans h'.afterRun⟩

theorem Matches.expectsScript (h : scanner.Matches other) :
    scanner.expectsScript = other.expectsScript := by
  rw [Scanner.expectsScript, Scanner.expectsScript, h.modes]

theorem Matches.advance (h : scanner.Matches other) (lexeme : Lexeme) :
    (scanner.advance lexeme).Matches (other.advance lexeme) := by
  obtain ⟨hdepth, hmodes, hrun⟩ := h
  cases lexeme <;> constructor <;> simp [Scanner.advance, modesAfterWord, hdepth, hmodes, hrun]

theorem Matches.contents_tokens (h : scanner.Matches other) (lexeme : Lexeme) :
    (scanner.tokens lexeme).map Token.content = (other.tokens lexeme).map Token.content := by
  cases lexeme with
  | openBrace script =>
    by_cases hblank : (trim script).isEmpty = true <;>
      simp [tokens, token, scriptTokens, hblank, Token.content, h.depth]
  | _ => simp [tokens, token, Token.content, h.depth]

/-- The tokens of the text have these contents, wherever the text stands. -/
def Gives (scanner : Scanner) (text : List Char)
    (contents : List (Token.Kind × String × Nat × Stage)) : Prop :=
  ∀ other : Scanner, other.Matches scanner →
    ∃ tokens, other.scan text = .ok tokens ∧ tokens.map Token.content = contents

variable {contents : List (Token.Kind × String × Nat × Stage)}

theorem Gives.of_matches (h : scanner.Gives text contents) (hother : scanner.Matches other) :
    other.Gives text contents :=
  fun third hthird => h third (hthird.trans hother.symm)

theorem gives_nil (scanner : Scanner) :
    scanner.Gives [] [(.endOfInput, "", scanner.depth, .during)] := by
  intro other hother
  rw [← hother.depth]
  exact ⟨_, by rw [scan, lexemes_nil]; rfl, rfl⟩

/-- The contents of a lexeme go before those of the text behind it. -/
theorem Gives.read (h : (scanner.advance lexeme).Gives rest contents)
    (hread : lexeme.IsRead scanner.expectsScript rest) :
    scanner.Gives (lexeme.spelling ++ rest)
      ((scanner.tokens lexeme).map Token.content ++ contents) := by
  intro other hother
  rw [← hother.expectsScript] at hread
  obtain ⟨tokens, hscan, rfl⟩ := h _ (hother.advance lexeme)
  obtain ⟨more, hmore, rfl⟩ := exists_lexemes_of_scan hscan
  refine ⟨other.tokensOf (lexeme :: more), ?_, ?_⟩
  · rw [scan, lexemes_of_isRead hread, hmore]
    rfl
  · rw [tokensOf, List.map_append, hother.contents_tokens]

/-- White space and comments are skipped. -/
theorem Gives.skip (h : scanner.Gives rest contents) (hskip : lexeme.symbols = [])
    (hread : lexeme.IsRead scanner.expectsScript rest) :
    scanner.Gives (lexeme.spelling ++ rest) contents := by
  cases lexeme with
  | space c =>
    have hnext : scanner.Matches (scanner.advance (.space c)) := ⟨rfl, rfl, rfl⟩
    exact (h.of_matches hnext).read hread
  | comment text =>
    have hnext : scanner.Matches (scanner.advance (.comment text)) := ⟨rfl, rfl, rfl⟩
    exact (h.of_matches hnext).read hread
  | _ => simp [Lexeme.symbols] at hskip

theorem Gives.filler {gap : List Char} (h : scanner.Gives text contents) (hgap : IsFiller gap) :
    scanner.Gives (gap ++ text) contents := by
  induction hgap with
  | nil => exact h
  | @space c more hspace _ ih =>
    have hread (raw : Bool) : (Lexeme.space c).IsRead raw (more ++ text) :=
      Lexeme.isRead_iff.2 ⟨trivial, hspace⟩
    exact ih.skip rfl (hread _)
  | @comment inside more hinside _ ih =>
    have hline (raw : Bool) : (Lexeme.space '\n').IsRead raw (more ++ text) :=
      Lexeme.isRead_iff.2 ⟨trivial, show isSpace '\n' = true by decide⟩
    have hcomment (raw : Bool) : (Lexeme.comment inside).IsRead raw ('\n' :: (more ++ text)) :=
      Lexeme.isRead_iff.2 ⟨trivial, hinside, by simp⟩
    simpa [Lexeme.spelling] using (ih.skip rfl (hline _)).skip rfl (hcomment _)

end Scanner

/-! ### Lexemes written anew -/

/-- The lexeme as its token is written: quoted text in double quotes if it can be. -/
def Lexeme.rewritten : Lexeme → Lexeme
  | .quoted _ text => .quoted (if '"' ∈ text then '\x60' else '"') text
  | lexeme => lexeme

/-- In front of a separator, a lexeme that was read somewhere is read as it is written anew. -/
theorem Lexeme.IsRead.rewritten {raw : Bool} {lexeme : Lexeme} {rest rest' : List Char}
    (h : lexeme.IsRead raw rest) (htoken : lexeme.symbols ≠ [])
    (hbrace : raw = false ∨ ∀ script, lexeme ≠ .openBrace script)
    (hrest' : ∀ c ∈ rest'.head?, isWordChar c = false) : lexeme.rewritten.IsRead raw rest' := by
  obtain ⟨hspelled, hends⟩ := Lexeme.isRead_iff.1 h
  rw [Lexeme.isRead_iff]
  cases lexeme with
  | space c => exact absurd rfl htoken
  | comment text => exact absurd rfl htoken
  | openBrace script =>
    obtain rfl := hbrace.resolve_right fun hne => hne script rfl
    exact ⟨trivial, hends⟩
  | quoted mark text =>
    refine ⟨?_, trivial⟩
    obtain ⟨hmark, hnone⟩ := hspelled
    rw [Lexeme.rewritten]
    split
    next hdouble =>
      refine ⟨by decide, fun hback => ?_⟩
      simp only [isQuote, Bool.or_eq_true, beq_iff_eq] at hmark
      rcases hmark with rfl | rfl
      · exact hnone hdouble
      · exact hnone hback
    next hdouble => exact ⟨by decide, hdouble⟩
  | number digits =>
    refine ⟨hspelled, fun c hc => Bool.eq_false_iff.2 fun hdigit => ?_⟩
    exact Bool.noConfusion ((hrest' c hc).symm.trans (isWordChar_of_isDigit hdigit))
  | word text => exact ⟨hspelled, hrest'⟩
  | _ => exact ⟨trivial, trivial⟩

namespace Scanner

variable {scanner : Scanner} {lexeme : Lexeme} {text rest : List Char} {lexemes : List Lexeme}

/-- A lexeme that does not take a script along has one token, which is written as the lexeme is. -/
theorem exists_token (scanner : Scanner) {raw : Bool} (h : lexeme.IsRead raw rest)
    (htoken : lexeme.symbols ≠ [])
    (hbrace : raw = false ∨ ∀ script, lexeme ≠ .openBrace script) :
    ∃ token, scanner.tokens lexeme = [token] ∧ token.written = lexeme.rewritten.spelling ∧
      token.kind ≠ .endOfInput := by
  cases lexeme with
  | space c => exact absurd rfl htoken
  | comment text => exact absurd rfl htoken
  | openBrace script =>
    obtain rfl := hbrace.resolve_right fun hne => hne script rfl
    obtain rfl : script = [] := (Lexeme.isRead_iff.1 h).2
    exact ⟨_, rfl, by simp [token, Token.written, Lexeme.rewritten, Lexeme.spelling],
      Token.Kind.noConfusion⟩
  | quoted mark text =>
    refine ⟨_, rfl, ?_, Token.Kind.noConfusion⟩
    simp only [token, Token.written, if_true, String.toList_ofList, quote, Lexeme.rewritten]
    split <;> rfl
  | word text =>
    have hkind : (classifyWord text).1 ≠ .string ∧ (classifyWord text).1 ≠ .endOfInput := by
      rcases classifyWord_kind text with hkind | ⟨keyword, hkind⟩
      · simp [hkind]
      · constructor <;> intro heq <;> simp [heq, Token.Kind.keyword?] at hkind
    exact ⟨_, rfl, by simp [token, Token.written, hkind.1, Lexeme.rewritten, Lexeme.spelling],
      hkind.2⟩
  | _ =>
    exact ⟨_, rfl, by simp [token, Token.written, Lexeme.rewritten, Lexeme.spelling],
      Token.Kind.noConfusion⟩

variable {tokens : List Token} {contents : List (Token.Kind × String × Nat × Stage)}

/-- A token that is written anew is scanned again. -/
theorem gives_rewritten (hread : lexeme.IsRead scanner.expectsScript rest)
    (htoken : lexeme.symbols ≠ [])
    (hbrace : scanner.expectsScript = false ∨ ∀ script, lexeme ≠ .openBrace script)
    (hlaid : LaysOut (scanner.tokens lexeme ++ tokens) text)
    (hmore : ∀ text, LaysOut tokens text → (scanner.advance lexeme).Gives text contents) :
    scanner.Gives text ((scanner.tokens lexeme).map Token.content ++ contents) := by
  obtain ⟨token, htokens, hwritten, hkind⟩ := scanner.exists_token hread htoken hbrace
  have hsame : scanner.tokens lexeme = scanner.tokens lexeme.rewritten := by
    cases lexeme <;> rfl
  have hadvance : (scanner.advance lexeme).Matches (scanner.advance lexeme.rewritten) := by
    cases lexeme <;> exact ⟨rfl, rfl, rfl⟩
  rw [htokens] at hlaid
  obtain ⟨gap, after, rfl, hgap, hafter⟩ := hlaid.exists_gap hkind
  rw [hwritten, hsame]
  refine Gives.read (((hmore after hafter).filler hgap.filler).of_matches hadvance) ?_
  exact hread.rewritten htoken hbrace (hgap.not_isWordChar after)

/-- The script of a block that is written anew, with white space around it. -/
theorem exists_script_of_laysOut {script : List Char}
    (hlaid : LaysOut (scanner.tokens (.openBrace script) ++ tokens) text) :
    ∃ script' rest, text = '\x7b' :: (script' ++ rest) ∧ trim script' = trim script ∧
      LaysOut tokens rest := by
  obtain ⟨gap, rest, rfl, hgap, hrest⟩ := hlaid.exists_gap Token.Kind.noConfusion
  have hblank := isBlankText_of_isSpace (hgap.blank (.inl rfl))
  by_cases hscript : trim script = []
  · have htokens : scanner.scriptTokens script = [] := if_pos (by simp [hscript])
    rw [htokens] at hrest
    have htrim :=
      trim_append_of_blank hblank (isTrimmed_trim []) (show isBlankText [] = true from rfl)
    refine ⟨gap, rest, by simp [token, Token.written], ?_, hrest⟩
    simpa [hscript] using htrim
  · have htokens : scanner.scriptTokens script =
        [⟨.script, String.ofList (trim script), scanner.place.next '\x7b', scanner.depth + 1,
          .during⟩] := if_neg (by simp [hscript])
    rw [htokens] at hrest
    obtain ⟨gap', rest, rfl, hgap', hrest⟩ := hrest.exists_gap Token.Kind.noConfusion
    have hblank' := isBlankText_of_isSpace (hgap'.blank (.inr rfl))
    refine ⟨gap ++ (trim script ++ gap'), rest, by simp [token, Token.written], ?_, hrest⟩
    exact trim_append_of_blank hblank (isTrimmed_trim script) hblank'

/-- The text behind a script that is written anew begins as the text behind the script did. -/
theorem endsBefore_of_laysOut {script : List Char}
    (hends : (Lexeme.openBrace script).EndsBefore true rest)
    (hmore : scanner.lexemes rest = .ok lexemes) (hlaid : LaysOut (scanner.tokensOf lexemes) text)
    {script' : List Char} (htrim : trim script' = trim script) :
    (Lexeme.openBrace script').EndsBefore true text := by
  have hsolid : solid script = solid script' := by
    rw [← solid_trim script, ← htrim, solid_trim]
  obtain ⟨hopen, hrest⟩ := hends
  refine ⟨hopen.congr hsolid, ?_⟩
  rcases hrest with rfl | ⟨hclose, after, rfl⟩
  · rw [lexemes_nil] at hmore
    cases hmore
    cases hlaid with
    | endOfInput => exact .inl rfl
    | cons _ hnone => nomatch hnone
  · have hread : Lexeme.closeBrace.IsRead scanner.expectsScript after :=
      Lexeme.isRead_iff.2 ⟨trivial, trivial⟩
    have hlexemes := (lexemes_of_isRead hread).symm.trans hmore
    cases hnext : (scanner.advance .closeBrace).lexemes after with
    | error error => simp [hnext, Except.map] at hlexemes
    | ok more =>
      obtain rfl : .closeBrace :: more = lexemes := by simpa [hnext, Except.map] using hlexemes
      obtain ⟨gap, rest, rfl, -, -⟩ := hlaid.exists_gap Token.Kind.noConfusion
      exact .inr ⟨hclose.congr hsolid, gap ++ rest, by simp [Token.written]⟩

/-- A block that is taken as it stands is scanned again, whatever white space is around its
script. -/
theorem gives_openBrace {script : List Char}
    (hread : (Lexeme.openBrace script).IsRead true rest) (hraw : scanner.expectsScript = true)
    (hmore : (scanner.advance (.openBrace script)).lexemes rest = .ok lexemes)
    (hlaid : LaysOut (scanner.tokensOf (.openBrace script :: lexemes)) text)
    (ih : ∀ text, LaysOut ((scanner.advance (.openBrace script)).tokensOf lexemes) text →
      (scanner.advance (.openBrace script)).Gives text contents) :
    scanner.Gives text ((scanner.tokens (.openBrace script)).map Token.content ++ contents) := by
  obtain ⟨script', after, rfl, htrim, hafter⟩ := exists_script_of_laysOut hlaid
  have htokens : scanner.tokens (.openBrace script) = scanner.tokens (.openBrace script') := by
    simp only [tokens, scriptTokens, htrim]
  have hgives : (scanner.advance (.openBrace script')).Gives after contents :=
    (ih after hafter).of_matches ⟨rfl, rfl, rfl⟩
  have hends := endsBefore_of_laysOut (Lexeme.isRead_iff.1 hread).2 hmore hafter htrim
  rw [htokens]
  refine hgives.read (Lexeme.isRead_iff.2 ⟨trivial, ?_⟩)
  rw [hraw]
  exact hends

/-- The tokens of a text that are written anew are scanned again. -/
theorem gives_of_laysOut (h : scanner.lexemes text = .ok lexemes) :
    ∀ text', LaysOut (scanner.tokensOf lexemes) text' →
      scanner.Gives text' ((scanner.tokensOf lexemes).map Token.content) := by
  refine lexemes_induction (motive := fun scanner _ lexemes => ∀ text',
    LaysOut (scanner.tokensOf lexemes) text' →
      scanner.Gives text' ((scanner.tokensOf lexemes).map Token.content)) ?_ ?_ h
  · intro scanner text' hlaid
    cases hlaid with
    | endOfInput => exact scanner.gives_nil
    | cons _ hnone => nomatch hnone
  intro scanner c cs rest lexeme more hread hmore ih text' hlaid
  have hisRead := Lexeme.isRead_of_read hread
  rw [tokensOf, List.map_append]
  by_cases hskip : lexeme.symbols = []
  · cases lexeme with
    | space c => exact (ih text' hlaid).of_matches ⟨rfl, rfl, rfl⟩
    | comment text => exact (ih text' hlaid).of_matches ⟨rfl, rfl, rfl⟩
    | _ => simp [Lexeme.symbols] at hskip
  by_cases hraw : scanner.expectsScript = false
  · exact gives_rewritten hisRead hskip (.inl hraw) hlaid ih
  rw [Bool.not_eq_false] at hraw
  cases lexeme with
  | openBrace script => exact gives_openBrace (hraw ▸ hisRead) hraw hmore hlaid ih
  | _ => exact gives_rewritten hisRead hskip (.inr fun _ => Lexeme.noConfusion) hlaid ih

end Scanner

/-- Layout does not matter: the tokens of a source, written anew with any separators, are scanned
again. -/
theorem exists_scan_of_isRelaid {source other : String} {tokens : List Token}
    (h : scan source = .ok tokens) (hother : IsRelaid tokens other.toList) :
    ∃ others, scan other = .ok others ∧
      others.map Token.content = tokens.map Token.content := by
  rw [scan_eq_scan_withoutMark] at h
  obtain ⟨lexemes, hlexemes, rfl⟩ := Scanner.exists_lexemes_of_scan h
  obtain ⟨gap, rest, htext, hseparates, hlaid⟩ := hother
  have hhead : other.toList.head? ≠ some byteOrderMark := by
    intro hmark
    obtain ⟨c, cs, rfl⟩ := List.exists_cons_of_ne_nil hseparates.ne_nil
    obtain rfl : c = byteOrderMark := by simpa [htext] using hmark
    exact absurd (hseparates.filler.head byteOrderMark rfl) (by decide)
  have hgives := (Scanner.gives_of_laysOut hlexemes rest hlaid).filler hseparates.filler
  rw [scan_eq_scan_withoutMark, withoutMark_of_head hhead, htext]
  exact hgives _ ⟨rfl, rfl, rfl⟩

/-- A comment before a block, a string that holds a double quote, and a block that is left open. -/
theorem exists_scan_of_isRelaid_open :
    let source := "desc\x7b\x60\"\x60\x7drun\x7ba"
    let other := "\ndesc#\n\x7b \x60\"\x60 \x7d run \x7b a "
    let tokens : List Token :=
      [⟨.desc, "desc", ⟨1, 1, 0⟩, 0, .during⟩, ⟨.leftBrace, "\x7b", ⟨1, 5, 4⟩, 0, .during⟩,
        ⟨.string, "\"", ⟨1, 6, 5⟩, 1, .during⟩, ⟨.rightBrace, "\x7d", ⟨1, 9, 8⟩, 0, .during⟩,
        ⟨.run, "run", ⟨1, 10, 9⟩, 0, .during⟩, ⟨.leftBrace, "\x7b", ⟨1, 13, 12⟩, 0, .during⟩,
        ⟨.script, "a", ⟨1, 14, 13⟩, 1, .during⟩, ⟨.endOfInput, "", ⟨1, 15, 14⟩, 1, .during⟩]
    scan source = .ok tokens ∧ IsRelaid tokens other.toList ∧
      ∃ others, scan other = .ok others ∧
        others.map Token.content = tokens.map Token.content := by
  intro source other tokens
  have hscan : scan source = .ok tokens := by decide +kernel
  have hspace (last : Option Token.Kind) : Separates last [' '] :=
    ⟨by simp, .space (by decide) .nil, by simp [isSpace]⟩
  have hline (last : Option Token.Kind) : Separates last ['\n'] :=
    ⟨by simp, .space (by decide) .nil, by simp [isSpace]⟩
  have hcomment : Separates (some .desc) ['#', '\n'] :=
    ⟨by simp, @IsFiller.comment [] [] (by simp) .nil, by simp⟩
  obtain ⟨text, hlaid, htext⟩ : ∃ text, LaysOut tokens text ∧ other.toList = ['\n'] ++ text :=
    ⟨_, .cons hcomment (.cons (hspace _) (.cons (hspace _) (.cons (hspace _) (.cons (hspace _)
      (.cons (hspace _) (.cons (hspace _) (.endOfInput rfl))))))), by decide +kernel⟩
  have hrelaid : IsRelaid tokens other.toList := ⟨['\n'], text, htext, hline none, hlaid⟩
  exact ⟨hscan, hrelaid, exists_scan_of_isRelaid hscan hrelaid⟩

end TaskRunner
