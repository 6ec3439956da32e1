import TaskRunner.Statement.Layout
import TaskRunner.Proofs.Scan.Symbols
import TaskRunner.Proofs.Tree.WellFormed

/-! Texts that are put together from pieces.  The symbols of a piece do not depend on what stands
behind it, as long as a word or a number is followed by white space. -/

namespace TaskRunner

/-- The text begins with white space, so that a word before it ends there. -/
def BeginsBlank (text : List Char) : Prop :=
  ∃ c cs, text = c :: cs ∧ isSpace c = true

/-! ### Lexemes at the beginning of a text -/

theorem not_isWordChar_of_isSpace {c : Char} (h : isSpace c = true) : isWordChar c = false := by
  simp only [isSpace, Bool.or_eq_true, beq_iff_eq] at h
  rcases h with ((rfl | rfl) | rfl) | rfl <;> decide +kernel

theorem not_isDigit_of_isSpace {c : Char} (h : isSpace c = true) : c.isDigit = false := by
  simp only [isSpace, Bool.or_eq_true, beq_iff_eq] at h
  rcases h with ((rfl | rfl) | rfl) | rfl <;> decide

theorem BeginsBlank.not_isWordChar {text : List Char} (h : BeginsBlank text) :
    ∀ c ∈ text.head?, isWordChar c = false := by
  obtain ⟨c, cs, rfl, hc⟩ := h
  simpa using not_isWordChar_of_isSpace hc

theorem BeginsBlank.not_isDigit {text : List Char} (h : BeginsBlank text) :
    ∀ c ∈ text.head?, c.isDigit = false := by
  obtain ⟨c, cs, rfl, hc⟩ := h
  simpa using not_isDigit_of_isSpace hc

theorem not_isWordStart_of_isDigit {c : Char} (h : c.isDigit = true) : isWordStart c = false := by
  simp only [Char.isDigit, Bool.and_eq_true, decide_eq_true_eq, ge_iff_le,
    UInt32.le_iff_toNat_le] at h
  have hascii : c.toNat ≤ 127 := h.2.trans (by decide)
  have halpha : c.isAlpha = (decide (c.val ≥ 'A'.val ∧ c.val ≤ 'Z'.val) ||
      (decide (c.val ≥ 'a'.val) && decide (c.val ≤ 'z'.val))) := rfl
  rw [← Bool.not_eq_true]
  intro hstart
  simp only [isWordStart, isLetter_ascii hascii, halpha, Bool.or_eq_true, Bool.and_eq_true,
    beq_iff_eq, decide_eq_true_eq, ge_iff_le, UInt32.le_iff_toNat_le] at hstart
  rcases hstart with rfl | hupper | hlower
  · exact absurd h.1 (by decide)
  · exact absurd (hupper.1.trans h.2) (by decide)
  · exact absurd (hlower.1.trans h.2) (by decide)

namespace Lexeme

/-- The characters that begin no word and no number. -/
def marks : List Char := [' ', '\t', '\r', '\n', '#', '\x7b', '\x7d', ',', '"', '\x60']

theorem not_isWordStart_of_mem_marks {c : Char} (h : c ∈ marks) : isWordStart c = false := by
  have hall : marks.all (!isWordStart ·) = true := by decide +kernel
  simpa using List.all_eq_true.1 hall c h

theorem not_isDigit_of_mem_marks {c : Char} (h : c ∈ marks) : c.isDigit = false := by
  have hall : marks.all (!·.isDigit) = true := by decide
  simpa using List.all_eq_true.1 hall c h

theorem read_space {c : Char} (hc : isSpace c = true) (raw : Bool) (cs : List Char) :
    read raw c cs = .ok (space c, cs) := by
  rw [read, if_pos hc]

/-- Past the marks, a character begins a number or a word. -/
theorem read_of_not_mem_marks {c : Char} (hc : c ∉ marks) (raw : Bool) (cs : List Char) :
    read raw c cs =
      if c.isDigit then
        .ok (number (c :: cs.takeWhile Char.isDigit), cs.dropWhile Char.isDigit)
      else if isWordStart c then
        .ok (word (c :: cs.takeWhile isWordChar), cs.dropWhile isWordChar)
      else .error (.unexpectedCharacter c) := by
  simp only [marks, List.mem_cons, List.not_mem_nil, or_false, not_or] at hc
  obtain ⟨h1, h2, h3, h4, h5, h6, h7, h8, h9, h10⟩ := hc
  have hspace : isSpace c = false := by simp [isSpace, h1, h2, h3, h4]
  have hquote : isQuote c = false := by simp [isQuote, h9, h10]
  rw [read, if_neg (by simp [hspace]), if_neg h5, if_neg h6, if_neg h7, if_neg h8,
    if_neg (by simp [hquote])]

/-- A front whose characters all satisfy `p` ends where the next character does not. -/
theorem takeWhile_append_eq {p : Char → Bool} {cs rest : List Char} (hcs : ∀ c ∈ cs, p c = true)
    (hrest : ∀ c ∈ rest.head?, p c = false) :
    (cs ++ rest).takeWhile p = cs ∧ (cs ++ rest).dropWhile p = rest := by
  rw [List.takeWhile_append_of_pos hcs, List.dropWhile_append_of_pos hcs]
  cases rest with
  | nil => simp
  | cons d rest =>
    have hd : p d = false := hrest d rfl
    simp [hd]

theorem read_word {c : Char} {cs rest : List Char} (hc : isWordStart c = true)
    (hcs : ∀ d ∈ cs, isWordChar d = true) (hrest : ∀ d ∈ rest.head?, isWordChar d = false)
    (raw : Bool) : read raw c (cs ++ rest) = .ok (word (c :: cs), rest) := by
  have hmarks : c ∉ marks := fun hmem => by
    rw [not_isWordStart_of_mem_marks hmem] at hc
    exact Bool.noConfusion hc
  have hdigit : c.isDigit = false := by
    by_contra h
    rw [not_isWordStart_of_isDigit (by simpa using h)] at hc
    exact Bool.noConfusion hc
  obtain ⟨htake, hdrop⟩ := takeWhile_append_eq hcs hrest
  rw [read_of_not_mem_marks hmarks, if_neg (by simp [hdigit]), if_pos hc, htake, hdrop]

theorem read_number {c : Char} {cs rest : List Char} (hc : c.isDigit = true)
    (hcs : ∀ d ∈ cs, d.isDigit = true) (hrest : ∀ d ∈ rest.head?, d.isDigit = false)
    (raw : Bool) : read raw c (cs ++ rest) = .ok (number (c :: cs), rest) := by
  have hmarks : c ∉ marks := fun hmem => by
    rw [not_isDigit_of_mem_marks hmem] at hc
    exact Bool.noConfusion hc
  obtain ⟨htake, hdrop⟩ := takeWhile_append_eq hcs hrest
  rw [read_of_not_mem_marks hmarks, if_pos hc, htake, hdrop]

theorem read_quoted {quote : Char} {text : List Char} (hquote : isQuote quote = true)
    (htext : quote ∉ text) (raw : Bool) (rest : List Char) :
    read raw quote (text ++ quote :: rest) = .ok (quoted quote text, rest) := by
  have hinside : ∀ c ∈ text, (c != quote) = true := fun c hc => by
    rw [bne_iff_ne]
    rintro rfl
    exact htext hc
  have hnext : ∀ c ∈ (quote :: rest).head?, (c != quote) = false := by simp
  obtain ⟨htake, hdrop⟩ := takeWhile_append_eq hinside hnext
  simp only [isQuote, Bool.or_eq_true, beq_iff_eq] at hquote
  rcases hquote with rfl | rfl <;>
    rw [read, if_neg (by decide), if_neg (by decide), if_neg (by decide), if_neg (by decide),
      if_neg (by decide), if_pos (by decide), htake, hdrop]

end Lexeme

/-! ### Pieces -/

/-- In front of any text, the symbols of the piece go before those of the text. -/
def Scans (piece : List Char) (input : List Symbol) : Prop :=
  ∀ rest, plainSymbols (piece ++ rest) = (plainSymbols rest).map (input ++ ·)

/-- Behind `run`, and in front of any text, the symbols of the piece go before those of the text,
and the piece ends what the `run` began. -/
def ScansAfterRun (piece : List Char) (input : List Symbol) : Prop :=
  ∀ rest, runSymbols (piece ++ rest) = (plainSymbols rest).map (input ++ ·)

theorem plainSymbols_of_read {lexeme : Lexeme} {c : Char} {cs rest : List Char}
    (h : Lexeme.read false c cs = .ok (lexeme, rest)) :
    plainSymbols (c :: cs) = (lexeme.symbolsAfter rest).map (lexeme.symbols ++ ·) := by
  rw [plainSymbols_cons, h]

theorem Scans.nil : Scans [] [] := fun rest => by
  simp

theorem Scans.append {piece next : List Char} {input more : List Symbol}
    (h : Scans piece input) (hnext : Scans next more) : Scans (piece ++ next) (input ++ more) := by
  intro rest
  rw [List.append_assoc, h, hnext, Option.map_map]
  simp [Function.comp_def]

/-- A lexeme in front of a piece, whose reading the lexeme does not change. -/
theorem Scans.lexeme (lexeme : Lexeme) {c : Char} {cs piece : List Char} {input : List Symbol}
    (hread : ∀ rest, Lexeme.read false c (cs ++ rest) = .ok (lexeme, piece ++ rest))
    (hafter : ∀ rest, lexeme.symbolsAfter rest = plainSymbols rest) (h : Scans piece input) :
    Scans (c :: cs) (lexeme.symbols ++ input) := by
  intro rest
  rw [List.cons_append, plainSymbols_of_read (hread rest), hafter, h, Option.map_map]
  simp [Function.comp_def]

theorem Scans.space {c : Char} {piece : List Char} {input : List Symbol} (hc : isSpace c = true)
    (h : Scans piece input) : Scans (c :: piece) input :=
  Scans.lexeme (.space c) (fun _ => Lexeme.read_space hc false _) (fun _ => rfl) h

theorem Scans.spaces {gap : List Char} (h : ∀ c ∈ gap, isSpace c = true) : Scans gap [] := by
  induction gap with
  | nil => exact Scans.nil
  | cons c gap ih =>
    rw [List.forall_mem_cons] at h
    exact (ih h.2).space h.1

theorem Scans.openBrace {piece : List Char} {input : List Symbol} (h : Scans piece input) :
    Scans ('\x7b' :: piece) (.openBrace :: input) :=
  Scans.lexeme (.openBrace []) (fun _ => rfl) (fun _ => rfl) h

theorem Scans.closeBrace {piece : List Char} {input : List Symbol} (h : Scans piece input) :
    Scans ('\x7d' :: piece) (.closeBrace :: input) :=
  Scans.lexeme .closeBrace (fun _ => rfl) (fun _ => rfl) h

theorem BeginsBlank.append {text : List Char} (h : BeginsBlank text) (rest : List Char) :
    BeginsBlank (text ++ rest) := by
  obtain ⟨c, cs, rfl, hc⟩ := h
  exact ⟨c, cs ++ rest, rfl, hc⟩

/-- A word other than `run` in front of a piece that begins with white space. -/
theorem Scans.word {c : Char} {cs piece : List Char} {input : List Symbol}
    (hc : isWordStart c = true) (hcs : ∀ d ∈ cs, isWordChar d = true)
    (hrun : (classifyWord (c :: cs)).1 ≠ .run) (hblank : BeginsBlank piece)
    (h : Scans piece input) : Scans (c :: cs ++ piece) (wordSymbol (c :: cs) :: input) := by
  refine Scans.lexeme (.word (c :: cs)) (fun rest => ?_) (fun rest => if_neg hrun) h
  have hread := Lexeme.read_word hc hcs (hblank.append rest).not_isWordChar false
  rwa [← List.append_assoc] at hread

theorem Scans.identifier {word : String} {piece : List Char} {input : List Symbol}
    (hword : IsWord word) (hblank : BeginsBlank piece) (h : Scans piece input) :
    Scans (word.toList ++ piece) (.literal (.identifier word) :: input) := by
  obtain ⟨c, cs, hcs, hc⟩ := hword.begins
  have hchars := hword.chars
  have hplain : (classifyWord word.toList).1 = .identifier :=
    classifyWord_eq_identifier_iff.2 (by simpa using hword.free)
  have hsymbol : wordSymbol word.toList = .literal (.identifier word) := by
    rw [wordSymbol, hplain, String.ofList_toList]
  rw [← hsymbol]
  rw [hcs] at hchars hplain ⊢
  exact Scans.word hc (List.forall_mem_cons.1 hchars).2 (by simp [hplain]) hblank h

/-- The word `run` in front of a piece that begins with white space. -/
theorem Scans.run (stage : Stage) {piece : List Char} {input : List Symbol}
    (hblank : BeginsBlank piece) (h : ScansAfterRun piece input) :
    Scans (Layout.runWord stage ++ piece) (.run stage :: input) := by
  have hword : ∃ c cs, Layout.runWord stage = c :: cs ∧ isWordStart c = true ∧
      cs.all isWordChar = true ∧ classifyWord (c :: cs) = (.run, stage) := by
    cases stage with
    | before => exact ⟨'r', "un:before".toList, by decide +kernel⟩
    | during => exact ⟨'r', "un".toList, by decide +kernel⟩
    | after => exact ⟨'r', "un:after".toList, by decide +kernel⟩
  obtain ⟨c, cs, hcs, hc, hchars, hclass⟩ := hword
  intro rest
  have hread :=
    Lexeme.read_word hc (List.all_eq_true.1 hchars) (hblank.append rest).not_isWordChar false
  rw [hcs, List.append_assoc, List.cons_append, plainSymbols_of_read hread,
    Lexeme.symbolsAfter, hclass, if_pos rfl, h, Option.map_map, Lexeme.symbols, wordSymbol, hclass]
  simp [Function.comp_def]

theorem Scans.number {digits : String} {piece : List Char} {input : List Symbol}
    (hdigits : IsNumber digits) (hblank : BeginsBlank piece) (h : Scans piece input) :
    Scans (digits.toList ++ piece) (.literal (.number digits) :: input) := by
  obtain ⟨hne, hall⟩ := hdigits
  obtain ⟨c, cs, hcs⟩ := List.exists_cons_of_ne_nil hne
  have hsymbols : (Lexeme.number (c :: cs)).symbols ++ input =
      .literal (.number digits) :: input := by
    rw [Lexeme.symbols, ← hcs, String.ofList_toList]
    rfl
  rw [hcs] at hall ⊢
  obtain ⟨hc, hdigits⟩ := List.forall_mem_cons.1 hall
  rw [← hsymbols]
  refine Scans.lexeme (.number (c :: cs)) (fun rest => ?_) (fun _ => rfl) h
  have hread := Lexeme.read_number hc hdigits (hblank.append rest).not_isDigit false
  rwa [← List.append_assoc] at hread

theorem Scans.quoted {text : String} {piece : List Char} {input : List Symbol}
    (htext : IsQuotable text) (h : Scans piece input) :
    Scans (quote text.toList ++ piece) (.literal (.string text) :: input) := by
  have hquote (c : Char) (hc : isQuote c = true) (hmem : c ∉ text.toList) :
      Scans (c :: text.toList ++ [c] ++ piece) (.literal (.string text) :: input) := by
    have hsymbols : (Lexeme.quoted c text.toList).symbols ++ input =
        .literal (.string text) :: input := by
      rw [Lexeme.symbols, String.ofList_toList]
      rfl
    rw [← hsymbols]
    refine Scans.lexeme (.quoted c text.toList) (fun rest => ?_) (fun _ => rfl) h
    have hread := Lexeme.read_quoted hc hmem false (piece ++ rest)
    simpa using hread
  rw [quote]
  split
  next hdouble => exact hquote '\x60' (by decide) fun hback => htext ⟨hdouble, hback⟩
  next hdouble => exact hquote '"' (by decide) hdouble

theorem Scans.literal {value : Literal} {piece : List Char} {input : List Symbol}
    (hvalue : value.IsWritable) (hblank : BeginsBlank piece) (h : Scans piece input) :
    Scans (value.written ++ piece) (.literal value :: input) := by
  cases value with
  | string text => exact Scans.quoted hvalue h
  | number digits => exact Scans.number hvalue hblank h
  | identifier word => exact Scans.identifier hvalue hblank h

/-! ### Pieces behind `run` -/

theorem ScansAfterRun.space {c : Char} {piece : List Char} {input : List Symbol}
    (hc : isSpace c = true) (h : ScansAfterRun piece input) : ScansAfterRun (c :: piece) input := by
  intro rest
  rw [List.cons_append, runSymbols_of_read (Lexeme.read_space hc true _) rfl, h]

theorem ScansAfterRun.name {name : String} {piece : List Char} {input : List Symbol}
    (hname : IsWord name) (hblank : BeginsBlank piece) (h : Scans piece input) :
    ScansAfterRun (name.toList ++ piece) (.literal (.identifier name) :: input) := by
  obtain ⟨c, cs, hcs, hc⟩ := hname.begins
  have hchars := hname.chars
  have hplain : (classifyWord name.toList).1 = .identifier :=
    classifyWord_eq_identifier_iff.2 (by simpa using hname.free)
  have hsymbol : Symbol.literal (.identifier (String.ofList name.toList)) =
      .literal (.identifier name) := by
    rw [String.ofList_toList]
  rw [← hsymbol]
  rw [hcs] at hchars hplain ⊢
  intro rest
  have hread :=
    Lexeme.read_word hc (List.forall_mem_cons.1 hchars).2 (hblank.append rest).not_isWordChar true
  rw [List.append_assoc, List.cons_append, runSymbols_of_read_word hread hplain, h,
    Option.map_map]
  simp [Function.comp_def]

/-- A balanced script in its block. -/
theorem ScansAfterRun.script {script piece : List Char} {input : List Symbol}
    (hscript : IsBalanced script) (h : Scans piece input) :
    ScansAfterRun ('\x7b' :: (script ++ '\x7d' :: piece))
      (.openBrace :: (scriptSymbols script ++ .closeBrace :: input)) := by
  intro rest
  have hsplit := hscript.splitScript_append (piece ++ rest)
  rw [List.cons_append, List.append_assoc, List.cons_append, runSymbols_openBrace, hsplit]
  simp only [h rest, Option.map_map]
  refine congrArg (Option.map · (plainSymbols rest)) (funext fun more => ?_)
  simp

/-! ### Whole texts -/

theorem Scans.symbols_source {source : String} {input : List Symbol}
    (h : Scans source.toList input) : plainSymbols (withoutMark source.toList) = some input := by
  have hsymbols : plainSymbols source.toList = some input := by
    simpa using h []
  rw [withoutMark_of_plainSymbols hsymbols, hsymbols]

open Grammar in
/-- A file with one script is read as a run of the script without the white space at its ends. -/
theorem parseSource_script {script : List Char} (h : IsBalanced script) (hne : trim script ≠ []) :
    parseSource (String.ofList ("run \x7b".toList ++ script ++ ['\x7d'])) =
      .ok [.run ⟨none, [.action (String.ofList (trim script))], .during⟩] := by
  have hsymbols : scriptSymbols script = [.script (String.ofList (trim script))] := by
    rw [scriptSymbols, if_neg (by simpa using hne)]
  have hscans := Scans.run .during ⟨' ', _, rfl, by decide⟩
    ((ScansAfterRun.script h Scans.nil).space (show isSpace ' ' = true by decide))
  rw [hsymbols] at hscans
  have hdepth : 1 ≤ maxDepth := by decide
  refine parseSource_eq_ok_iff.2 ⟨[.run .during (.block [.script (String.ofList (trim script))])],
    Scans.symbols_source ?_, hdepth, rfl⟩
  rw [String.toList_ofList, List.append_assoc]
  exact hscans

end TaskRunner
