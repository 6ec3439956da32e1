import TaskRunner.Proofs.Tree.Reading
import TaskRunner.Proofs.Scan.Rows

/-! Source texts one behind another.  In a text that is accepted every `run` has found its name or
its block, and every block is closed.  What the scanner still keeps at the end of such a text has no
influence on a text that follows on a new line. -/

namespace TaskRunner

/-! ### Symbols without an open `run` -/

mutual

/-- Every `run` among the symbols has found its name or its block. -/
inductive Settled : List Symbol → Prop where
  | nil : Settled []
  | cons {symbol : Symbol} {more : List Symbol} (hrun : ∀ stage, symbol ≠ .run stage)
      (hmore : Settled more) : Settled (symbol :: more)
  | run (stage : Stage) {input : List Symbol} (h : SettlesRun input) :
      Settled (.run stage :: input)

/-- The symbols settle a `run` before them: they begin with a name, or with a block that is closed
behind nothing or behind one script. -/
inductive SettlesRun : List Symbol → Prop where
  | name (name : String) {more : List Symbol} (hmore : Settled more) :
      SettlesRun (.literal (.identifier name) :: more)
  | empty {more : List Symbol} (hmore : Settled more) :
      SettlesRun (.openBrace :: .closeBrace :: more)
  | block (script : String) {more : List Symbol} (hmore : Settled more) :
      SettlesRun (.openBrace :: .script script :: .closeBrace :: more)

end

theorem Settled.settlesRun {stage : Stage} {input : List Symbol}
    (h : Settled (.run stage :: input)) : SettlesRun input := by
  cases h with
  | cons hrun _ => exact absurd rfl (hrun stage)
  | run _ h => exact h

theorem Settled.tail {symbol : Symbol} {more : List Symbol} (h : Settled (symbol :: more))
    (hrun : ∀ stage, symbol ≠ .run stage) : Settled more := by
  cases h with
  | cons _ hmore => exact hmore
  | run stage _ => exact absurd rfl (hrun stage)

/-- Symbols none of which is a `run` leave none open. -/
theorem settled_append_iff {input rest : List Symbol}
    (hrun : ∀ symbol ∈ input, ∀ stage, symbol ≠ .run stage) :
    Settled (input ++ rest) ↔ Settled rest := by
  induction input with
  | nil => rfl
  | cons symbol input ih =>
    obtain ⟨hsymbol, hinput⟩ := List.forall_mem_cons.1 hrun
    rw [← ih hinput]
    exact ⟨fun h => h.tail hsymbol, .cons hsymbol⟩

namespace Grammar

theorem settled_braced {inside rest : List Symbol} (h : Settled (inside ++ .closeBrace :: rest)) :
    Settled (braced inside ++ rest) := by
  rw [braced_append]
  exact .cons (by simp) h

theorem settled_closeBrace {rest : List Symbol} (h : Settled rest) :
    Settled (.closeBrace :: rest) :=
  .cons (by simp) h

mutual

/-- A phrase among the symbols of a text leaves no `run` open. -/
theorem Phrase.settled : (phrase : Phrase) → {rest : List Symbol} →
    IsPlain (phrase.symbols ++ rest) → Settled rest → Settled (phrase.symbols ++ rest)
  | .config entries, rest, h, hrest =>
    .cons (by simp) (settled_braced
      (Entry.settled_row entries (isPlain_of_braced (h.tail (by simp))) (settled_closeBrace hrest)))
  | .var entries, rest, h, hrest =>
    .cons (by simp) (settled_braced
      (Entry.settled_row entries (isPlain_of_braced (h.tail (by simp))) (settled_closeBrace hrest)))
  | .target name body, rest, h, hrest =>
    .cons (by simp) (.cons (by simp) (settled_braced
      (Phrase.settled_row body (isPlain_of_braced ((h.tail (by simp)).tail (by simp)))
        (settled_closeBrace hrest))))
  | .run stage call, rest, h, hrest => .run stage (Call.settlesRun call h.followsRun hrest)
  | .describe lines, rest, h, hrest => by
    refine .cons (by simp) (settled_braced
      ((settled_append_iff fun symbol hmem stage => ?_).2 (settled_closeBrace hrest)))
    obtain ⟨line, -, rfl⟩ := List.mem_map.1 hmem
    cases line <;> simp [lineSymbol]
  | .extend paths, rest, h, hrest => by
    refine .cons (by simp) (settled_braced
      ((settled_append_iff fun symbol hmem stage => ?_).2 (settled_closeBrace hrest)))
    obtain ⟨path, -, rfl⟩ := List.mem_map.1 hmem
    cases path <;> simp [pathSymbol]
  | .script text, rest, h, hrest => .cons (by simp) hrest
  | .literal value, rest, h, hrest => .cons (by simp) hrest

/-- A row of phrases among the symbols of a text leaves no `run` open. -/
theorem Phrase.settled_row : (phrases : List Phrase) → {rest : List Symbol} →
    IsPlain (Phrase.rowSymbols phrases ++ rest) → Settled rest →
    Settled (Phrase.rowSymbols phrases ++ rest)
  | [], rest, h, hrest => hrest
  | phrase :: phrases, rest, h, hrest => by
    rw [Phrase.rowSymbols, List.append_assoc] at h ⊢
    exact Phrase.settled phrase h (Phrase.settled_row phrases (Phrase.wellFormed phrase h).2 hrest)

/-- What follows `run` in a text settles it. -/
theorem Call.settlesRun : (call : Call) → {rest : List Symbol} →
    FollowsRun (call.symbols ++ rest) → Settled rest → SettlesRun (call.symbols ++ rest)
  | .block body, rest, h, hrest => by
    rw [Call.symbols, braced_append] at h ⊢
    rcases h.block (by simp) with ⟨after, hmore, -⟩ | ⟨script, after, hmore, -, -⟩
    · obtain ⟨rfl, rfl⟩ := Phrase.rowSymbols_append_inj body [] hmore
      exact .empty hrest
    · obtain ⟨rfl, rfl⟩ := Phrase.rowSymbols_append_inj body [.script script] hmore
      exact .block script hrest
  | .name name, rest, h, hrest => .name name hrest
  | .both name body, rest, h, hrest =>
    .name name (settled_braced
      (Phrase.settled_row body (isPlain_of_braced h.name.2) (settled_closeBrace hrest)))

/-- A row of entries among the symbols of a text leaves no `run` open. -/
theorem Entry.settled_row : (entries : List Entry) → {rest : List Symbol} →
    IsPlain (Entry.rowSymbols entries ++ rest) → Settled rest →
    Settled (Entry.rowSymbols entries ++ rest)
  | [], rest, h, hrest => hrest
  | .comma :: entries, rest, h, hrest =>
    .cons (by simp) (Entry.settled_row entries (h.tail (by simp)) hrest)
  | .binding name value :: entries, rest, h, hrest => by
    rw [Entry.rowSymbols, Entry.symbols, List.append_assoc, List.cons_append] at h ⊢
    have hvalue := h.tail (by simp)
    refine .cons (by simp) (Initial.settled value hvalue ?_)
    exact Entry.settled_row entries (Initial.wellFormed value hvalue).2.2 hrest

/-- A value among the symbols of a text leaves no `run` open. -/
theorem Initial.settled : (value : Initial) → {rest : List Symbol} →
    IsPlain (value.symbols ++ rest) → Settled rest → Settled (value.symbols ++ rest)
  | .literal value, rest, h, hrest => .cons (by simp) hrest
  | .run stage call, rest, h, hrest =>
    settled_braced (.run stage (Call.settlesRun call (isPlain_of_braced h).followsRun
      (settled_closeBrace hrest)))

end

end Grammar

/-! ### A new line behind a text -/

/-- A lexeme ends before a new line, unless it takes a script along. -/
theorem Lexeme.EndsBefore.append_newline {raw : Bool} {lexeme : Lexeme} {rest : List Char}
    (h : lexeme.EndsBefore raw rest)
    (hscript : raw = false ∨ ∀ script, lexeme ≠ .openBrace script) (more : List Char) :
    lexeme.EndsBefore raw (rest ++ '\n' :: more) := by
  cases rest with
  | cons c rest => exact h.of_beginsLike (.cons c _ _)
  | nil =>
    cases lexeme with
    | openBrace script =>
      obtain rfl : raw = false := hscript.resolve_right fun hne => hne script rfl
      exact h
    | comment text => exact ⟨h.1, by simp⟩
    | number digits => simp [Lexeme.EndsBefore, Lexeme.IsFollowed]
    | word text =>
      have hnewline : isWordChar '\n' = false := not_isWordChar_of_isSpace (by decide)
      simp [Lexeme.EndsBefore, Lexeme.IsFollowed, hnewline]
    | _ => exact h

theorem Lexeme.read_append_newline {raw : Bool} {c : Char} {cs rest : List Char} {lexeme : Lexeme}
    (h : Lexeme.read raw c cs = .ok (lexeme, rest))
    (hscript : raw = false ∨ ∀ script, lexeme ≠ .openBrace script) (more : List Char) :
    Lexeme.read raw c (cs ++ '\n' :: more) = .ok (lexeme, rest ++ '\n' :: more) := by
  obtain ⟨hspelled, hends⟩ := isRead_iff.1 (isRead_of_read h)
  obtain ⟨c', cs', htext, hread⟩ := isRead_iff.2 ⟨hspelled, hends.append_newline hscript more⟩
  rw [← List.append_assoc, spelling_append_of_read h] at htext
  obtain ⟨rfl, rfl⟩ := List.cons.inj htext
  exact hread

/-- A lexeme is the word `run`, or gives no such symbol. -/
theorem Lexeme.run_or_plain (lexeme : Lexeme) :
    (∃ stage, lexeme.symbols = [.run stage] ∧
        ∀ rest, lexeme.symbolsAfter rest = runSymbols rest) ∨
      (∀ symbol ∈ lexeme.symbols, ∀ stage, symbol ≠ .run stage) ∧
        ∀ rest, lexeme.symbolsAfter rest = plainSymbols rest := by
  cases lexeme with
  | word text =>
    by_cases hkind : (classifyWord text).1 = .run
    · refine .inl ⟨(classifyWord text).2, ?_, fun rest => if_pos hkind⟩
      rw [Lexeme.symbols, wordSymbol, hkind]
    · refine .inr ⟨fun symbol hsymbol stage => ?_, fun rest => if_neg hkind⟩
      rw [Lexeme.symbols, List.mem_singleton] at hsymbol
      rw [hsymbol, wordSymbol]
      split <;> simp_all
  | openBrace script =>
    refine .inr ⟨fun symbol hsymbol stage => ?_, fun rest => rfl⟩
    rw [Lexeme.symbols, scriptSymbols] at hsymbol
    split at hsymbol <;> simp at hsymbol
    · simp [hsymbol]
    · rcases hsymbol with rfl | rfl <;> simp
  | _ => exact .inr ⟨by simp [Lexeme.symbols], fun rest => rfl⟩

theorem wordSymbol_ne_openBrace (word : List Char) : wordSymbol word ≠ .openBrace := by
  rw [wordSymbol]
  split <;> simp

section Newline

variable {c : Char} {cs rest : List Char} {lexeme : Lexeme} {input : List Symbol}

/-- The lexeme at the beginning of a text that goes on with a new line. -/
theorem scans_of_read (hread : Lexeme.read false c cs = .ok (lexeme, rest))
    (htext : plainSymbols (c :: cs) = some input) (hsettled : Settled input)
    (hplain : ∀ more, plainSymbols rest = some more → Settled more → Scans (rest ++ ['\n']) more)
    (hafterRun : ∀ more, runSymbols rest = some more → SettlesRun more →
      ScansAfterRun (rest ++ ['\n']) more) : Scans (c :: cs ++ ['\n']) input := by
  have hnext (w : List Char) : Lexeme.read false c (cs ++ ['\n'] ++ w) =
      .ok (lexeme, rest ++ ['\n'] ++ w) := by
    simpa using Lexeme.read_append_newline hread (.inl rfl) w
  rw [plainSymbols_of_read hread] at htext
  obtain ⟨more, hmore, rfl⟩ := Option.map_eq_some_iff.1 htext
  rcases lexeme.run_or_plain with ⟨stage, hsymbols, hafter⟩ | ⟨hrun, hafter⟩
  · rw [hafter] at hmore
    rw [hsymbols] at hsettled
    intro w
    rw [List.cons_append, List.cons_append, plainSymbols_of_read (hnext w), hafter,
      hafterRun more hmore hsettled.settlesRun, Option.map_map]
    simp [Function.comp_def]
  · rw [hafter] at hmore
    exact Scans.lexeme lexeme hnext hafter
      (hplain more hmore ((settled_append_iff hrun).1 hsettled))

/-- The symbols of a text behind `run` begin with those of its first lexeme. -/
theorem exists_read_of_runSymbols (htext : runSymbols (c :: cs) = some input) :
    ∃ lexeme rest more, Lexeme.read true c cs = .ok (lexeme, rest) ∧
      input = lexeme.symbols ++ more := by
  have hexpects : (Scanner.mk Place.start 0 [.script] true).expectsScript = true := rfl
  rw [runSymbols, Scanner.symbols?_cons, hexpects] at htext
  split at htext
  · cases htext
  next lexeme rest hread =>
    obtain ⟨more, -, rfl⟩ := Option.map_eq_some_iff.1 htext
    exact ⟨lexeme, rest, more, hread, rfl⟩

/-- White space or a comment behind `run`. -/
theorem scansAfterRun_of_read_skip (hread : Lexeme.read true c cs = .ok (lexeme, rest))
    (hskip : lexeme.symbols = []) (h : ScansAfterRun (rest ++ ['\n']) input) :
    ScansAfterRun (c :: cs ++ ['\n']) input := by
  intro w
  have hscript : ∀ script, lexeme ≠ .openBrace script := by
    rintro script rfl
    simp [Lexeme.symbols] at hskip
  have hnext := Lexeme.read_append_newline hread (.inr hscript) w
  have hrest := h w
  rw [List.append_assoc, List.singleton_append] at hrest
  rw [List.append_assoc, List.cons_append, List.singleton_append,
    runSymbols_of_read hnext hskip, hrest]

/-- A name behind `run`. -/
theorem scansAfterRun_of_read_word {word : List Char}
    (hread : Lexeme.read true c cs = .ok (.word word, rest))
    (htext : runSymbols (c :: cs) = some input) (hsettles : SettlesRun input)
    (hplain : ∀ more, plainSymbols rest = some more → Settled more → Scans (rest ++ ['\n']) more) :
    ScansAfterRun (c :: cs ++ ['\n']) input := by
  obtain ⟨_, _, more, hread', rfl⟩ := exists_read_of_runSymbols htext
  cases hread.symm.trans hread'
  obtain ⟨name, hname, hmore⟩ : ∃ name, wordSymbol word = .literal (.identifier name) ∧
      Settled more := by
    rw [Lexeme.symbols, List.singleton_append] at hsettles
    generalize hsymbol : wordSymbol word = symbol at hsettles
    cases hsettles with
    | name name hmore => exact ⟨name, rfl, hmore⟩
    | empty _ => exact absurd hsymbol (wordSymbol_ne_openBrace word)
    | block _ _ => exact absurd hsymbol (wordSymbol_ne_openBrace word)
  have hkind := classifyWord_of_wordSymbol hname
  have hsymbols : (Lexeme.word word).symbols = [.literal (.identifier (String.ofList word))] := by
    rw [Lexeme.symbols, wordSymbol, hkind]
  have hrest : plainSymbols rest = some more := by
    rw [runSymbols_of_read_word hread hkind, hsymbols] at htext
    simpa using htext
  intro w
  have hnext := Lexeme.read_append_newline hread (.inr fun _ => Lexeme.noConfusion) w
  have hscans := hplain more hrest hmore w
  rw [List.append_assoc, List.singleton_append] at hscans
  rw [List.append_assoc, List.cons_append, List.singleton_append,
    runSymbols_of_read_word hnext hkind, hscans, hsymbols, Option.map_map]
  rfl

/-- A block behind `run`, with the script that its brace takes along. -/
theorem scansAfterRun_openBrace (htext : runSymbols ('\x7b' :: cs) = some input)
    (hsettles : SettlesRun input)
    (hplain : ∀ rest more, rest.length ≤ cs.length → plainSymbols rest = some more →
      Settled more → Scans (rest ++ ['\n']) more) :
    ScansAfterRun ('\x7b' :: cs ++ ['\n']) input := by
  obtain ⟨script, after, hsplit⟩ : ∃ script after, splitScript 0 cs = (script, after) := ⟨_, _, rfl⟩
  have hclosed : after ≠ [] := by
    rintro rfl
    rw [runSymbols_openBrace, hsplit, Option.some_inj, scriptSymbols] at htext
    split at htext <;> rw [← htext] at hsettles <;> cases hsettles
  obtain ⟨hbalanced, rest, rfl⟩ := isBalanced_of_splitScript hsplit hclosed
  have hcs : cs = script ++ '\x7d' :: rest := by
    have := splitScript_append 0 cs
    rw [hsplit] at this
    exact this.symm
  rw [runSymbols_openBrace, hsplit] at htext
  obtain ⟨more, hmore, rfl⟩ := Option.map_eq_some_iff.1 htext
  have hsettled : Settled more := by
    unfold scriptSymbols at hsettles
    split at hsettles
    · cases hsettles with | empty hmore => exact hmore
    · cases hsettles with | block script hmore => exact hmore
  have hscans := ScansAfterRun.script hbalanced
    (hplain rest more (by rw [hcs]; simp; omega) hmore hsettled)
  rw [hcs]
  simpa using hscans

end Newline

/-- A new line ends what a text has begun, where every `run` is settled. -/
theorem scans_newline (text : List Char) :
    (∀ input, plainSymbols text = some input → Settled input → Scans (text ++ ['\n']) input) ∧
      ∀ input, runSymbols text = some input → SettlesRun input →
        ScansAfterRun (text ++ ['\n']) input := by
  induction hlength : text.length using Nat.strong_induction_on generalizing text with
  | _ length ih =>
    subst hlength
    cases text with
    | nil =>
      refine ⟨fun input htext _ => ?_, fun input htext hsettles => ?_⟩
      · rw [plainSymbols_nil, Option.some_inj] at htext
        subst htext
        exact Scans.nil.space (by decide)
      · rw [runSymbols, Scanner.symbols?_nil, Option.some_inj] at htext
        subst htext
        cases hsettles
    | cons c cs =>
      refine ⟨fun input htext hsettled => ?_, fun input htext hsettles => ?_⟩
      · cases hread : Lexeme.read false c cs with
        | error refusal => simp [plainSymbols_cons, hread] at htext
        | ok found =>
          obtain ⟨hplain, hafterRun⟩ := ih _ (Lexeme.length_rest_of_read hread) found.2 rfl
          exact scans_of_read hread htext hsettled hplain hafterRun
      · obtain ⟨lexeme, rest, more, hread, happend⟩ := exists_read_of_runSymbols htext
        obtain ⟨hplain, hafterRun⟩ := ih _ (Lexeme.length_rest_of_read hread) rest rfl
        have hskip (hsymbols : lexeme.symbols = []) : ScansAfterRun (c :: cs ++ ['\n']) input :=
          scansAfterRun_of_read_skip hread hsymbols
            (hafterRun input (by rw [← htext, runSymbols_of_read hread hsymbols]) hsettles)
        cases lexeme with
        | space c => exact hskip rfl
        | comment text => exact hskip rfl
        | word text => exact scansAfterRun_of_read_word hread htext hsettles hplain
        | openBrace script =>
          obtain rfl : '\x7b' = c := (List.cons.inj (Lexeme.spelling_append_of_read hread)).1
          exact scansAfterRun_openBrace htext hsettles fun after more hafter =>
            (ih _ (Nat.lt_succ_of_le hafter) after rfl).1 more
        | _ =>
          rw [happend, Lexeme.symbols] at hsettles
          cases hsettles

/-! ### Statements -/

namespace Grammar

theorem Phrase.rowSymbols_append (phrases others : List Phrase) :
    Phrase.rowSymbols (phrases ++ others) =
      Phrase.rowSymbols phrases ++ Phrase.rowSymbols others := by
  induction phrases with
  | nil => rfl
  | cons phrase phrases ih => simp [Phrase.rowSymbols, ih]

theorem Phrase.rowDepth_append (phrases others : List Phrase) :
    Phrase.rowDepth (phrases ++ others) =
      max (Phrase.rowDepth phrases) (Phrase.rowDepth others) := by
  induction phrases with
  | nil => simp [Phrase.rowDepth]
  | cons phrase phrases ih => simp [Phrase.rowDepth, ih, Nat.max_assoc]

theorem Phrase.statements_append (phrases others : List Phrase) :
    Phrase.statements (phrases ++ others) =
      Phrase.statements phrases ++ Phrase.statements others := by
  induction phrases with
  | nil => rfl
  | cons phrase phrases ih => simp [Phrase.statements, ih]

/-- The phrases of a text leave no `run` open at its end. -/
theorem Phrase.scans_newline {text : List Char} {phrases : List Phrase}
    (h : plainSymbols text = some (Phrase.rowSymbols phrases)) :
    Scans (text ++ ['\n']) (Phrase.rowSymbols phrases) := by
  refine (TaskRunner.scans_newline text).1 _ h ?_
  have hplain : IsPlain (Phrase.rowSymbols phrases ++ []) := ⟨text, by rw [h, List.append_nil]⟩
  simpa using Phrase.settled_row phrases hplain .nil

end Grammar

theorem withoutMark_append_newline (text rest : List Char) :
    withoutMark (text ++ '\n' :: rest) = withoutMark text ++ '\n' :: rest := by
  have hnewline : '\n' ≠ byteOrderMark := by decide
  cases text with
  | nil => simp [withoutMark, hnewline]
  | cons c cs => by_cases hc : c = byteOrderMark <;> simp [withoutMark, hc]

open Grammar in
/-- A text that is accepted may be followed by any other on a new line: each is read as if it stood
alone. -/
theorem parseSource_append_newline {source next : String} {statements more : List Statement}
    (h : parseSource source = .ok statements) (hnext : parseSource next = .ok more)
    (hmark : next.toList.head? ≠ some byteOrderMark) :
    parseSource (source ++ "\n" ++ next) = .ok (statements ++ more) := by
  obtain ⟨phrases, hsymbols, hdepth, rfl⟩ := parseSource_eq_ok_iff.1 h
  obtain ⟨others, hothers, hothersDepth, rfl⟩ := parseSource_eq_ok_iff.1 hnext
  rw [withoutMark_of_head hmark] at hothers
  refine parseSource_eq_ok_iff.2
    ⟨phrases ++ others, ?_, ?_, Phrase.statements_append phrases others⟩
  · have htext : (source ++ "\n" ++ next).toList = source.toList ++ '\n' :: next.toList := by
      simp
    have hscans := Phrase.scans_newline hsymbols next.toList
    rw [htext, withoutMark_append_newline, List.append_cons, hscans, hothers,
      Phrase.rowSymbols_append]
    rfl
  · rw [Phrase.rowDepth_append]
    exact max_le hdepth hothersDepth

open Grammar in
/-- A name behind `run` at the end of a text, and a text that begins with a run of its own. -/
theorem parseSource_append_newline_run :
    parseSource "run a" = .ok [.run ⟨some "a", [], .during⟩] ∧
      parseSource "run \x7bx\x7d" = .ok [.run ⟨none, [.action "x"], .during⟩] ∧
      "run \x7bx\x7d".toList.head? ≠ some byteOrderMark ∧
      parseSource "run a\nrun \x7bx\x7d" =
        .ok [.run ⟨some "a", [], .during⟩, .run ⟨none, [.action "x"], .during⟩] := by
  have hname : parseSource "run a" = .ok [.run ⟨some "a", [], .during⟩] :=
    parseSource_eq_ok_iff.2 ⟨[.run .during (.name "a")], by decide +kernel, by decide, rfl⟩
  have hblock : parseSource "run \x7bx\x7d" = .ok [.run ⟨none, [.action "x"], .during⟩] :=
    @parseSource_script ['x'] (by decide) (by decide)
  have hmark : "run \x7bx\x7d".toList.head? ≠ some byteOrderMark := by decide
  exact ⟨hname, hblock, hmark, parseSource_append_newline hname hblock hmark⟩

end TaskRunner
