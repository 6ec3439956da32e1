import TaskRunner.Source
import TaskRunner.Proofs.Grammar.Acceptance
import TaskRunner.Proofs.Scan.Word
import TaskRunner.Proofs.Text.Balance

/-! The symbols of a text.  Where tokens stand does not matter to them, and of the modes that the
scanner keeps only those of a `run` matter whose block is still to come: reserved words leave modes
behind that closing braces take away too early or too late, but all of these are modes of tokens. -/

namespace TaskRunner

/-- The symbol of a word. -/
def wordSymbol (word : List Char) : Symbol :=
  match (classifyWord word).1 with
  | .run => .run (classifyWord word).2
  | .config => .config
  | .var => .var
  | .target => .target
  | .desc => .desc
  | .extend => .extend
  | _ => .literal (.identifier (String.ofList word))

theorem classifyWord_of_wordSymbol {word : List Char} {value : Literal}
    (h : wordSymbol word = .literal value) : (classifyWord word).1 = .identifier := by
  rw [wordSymbol] at h
  rcases classifyWord_kind word with hkind | ⟨keyword, hkind⟩
  · exact hkind
  · cases hcase : (classifyWord word).1 <;> simp_all [Token.Kind.keyword?]

/-- The symbols of a script that an opening brace takes along. -/
def scriptSymbols (script : List Char) : List Symbol :=
  if (trim script).isEmpty then [] else [.script (String.ofList (trim script))]

/-- The symbols of a lexeme. -/
def Lexeme.symbols : Lexeme → List Symbol
  | .space _ => []
  | .comment _ => []
  | .openBrace script => .openBrace :: scriptSymbols script
  | .closeBrace => [.closeBrace]
  | .comma => [.comma]
  | .quoted _ text => [.literal (.string (String.ofList text))]
  | .number digits => [.literal (.number (String.ofList digits))]
  | .word text => [wordSymbol text]

namespace Scanner

/-- The symbols of a text, unless it cannot be scanned. -/
def symbols? (scanner : Scanner) (text : List Char) : Option (List Symbol) :=
  (scanner.scan text).toOption.map symbols

theorem symbol?_wordToken (scanner : Scanner) (word : List Char) :
    (scanner.token (classifyWord word).1 word (classifyWord word).2).symbol? =
      some (wordSymbol word) := by
  rw [wordSymbol]
  rcases classifyWord_kind word with hkind | ⟨keyword, hkind⟩
  · simp [Token.symbol?, token, hkind]
  · cases h : (classifyWord word).1 <;> simp_all [Token.symbol?, token, Token.Kind.keyword?]

theorem symbols_tokens_append (scanner : Scanner) (lexeme : Lexeme) (more : List Token) :
    symbols (scanner.tokens lexeme ++ more) = lexeme.symbols ++ symbols more := by
  cases lexeme with
  | openBrace script =>
    by_cases hscript : (trim script).isEmpty = true <;>
      simp [tokens, token, scriptTokens, hscript, symbols, Token.symbol?, Lexeme.symbols,
        scriptSymbols]
  | word text =>
    simp [tokens, symbols, symbol?_wordToken, Lexeme.symbols]
  | _ => simp [tokens, token, symbols, Token.symbol?, Lexeme.symbols]

@[simp] theorem symbols?_nil (scanner : Scanner) : scanner.symbols? [] = some [] := by
  rw [symbols?, scan, lexemes]
  rfl

theorem symbols?_cons (scanner : Scanner) (c : Char) (cs : List Char) :
    scanner.symbols? (c :: cs) =
      match Lexeme.read scanner.expectsScript c cs with
      | .error _ => none
      | .ok (lexeme, rest) =>
        ((scanner.advance lexeme).symbols? rest).map (lexeme.symbols ++ ·) := by
  rw [symbols?, scan, lexemes]
  split
  next hread => rw [hread]; rfl
  next lexeme rest hread =>
    rw [hread]
    simp only [symbols?, scan]
    cases (scanner.advance lexeme).lexemes rest with
    | error error => rfl
    | ok more =>
      simp [Except.map, Except.toOption, tokensOf, symbols_tokens_append]

/-! ### Scanners that read alike -/

/-- The scanners read the same symbols: they differ in their places and depths, and in how many
modes of tokens lie under the modes that they share. -/
def Agrees (scanner other : Scanner) : Prop :=
  scanner.afterRun = other.afterRun ∧
    ∃ shared m n, scanner.modes = shared ++ List.replicate m .tokens ∧
      other.modes = shared ++ List.replicate n .tokens

theorem Agrees.expectsScript {scanner other : Scanner} (h : scanner.Agrees other) :
    scanner.expectsScript = other.expectsScript := by
  obtain ⟨-, shared, m, n, hm, hn⟩ := h
  rw [Scanner.expectsScript, Scanner.expectsScript, hm, hn]
  cases shared with
  | nil => cases m <;> cases n <;> simp [List.replicate_succ]
  | cons mode shared => rfl

theorem tail_append_replicate (shared : List BlockMode) (n : Nat) :
    ∃ k, (shared ++ List.replicate n BlockMode.tokens).tail =
      shared.tail ++ List.replicate k BlockMode.tokens := by
  cases shared with
  | nil => exact ⟨n - 1, by simp⟩
  | cons mode shared => exact ⟨n, rfl⟩

theorem Agrees.advance {scanner other : Scanner} (h : scanner.Agrees other) (lexeme : Lexeme) :
    (scanner.advance lexeme).Agrees (other.advance lexeme) := by
  obtain ⟨hrun, shared, m, n, hm, hn⟩ := h
  obtain ⟨m', hm'⟩ := tail_append_replicate shared m
  obtain ⟨n', hn'⟩ := tail_append_replicate shared n
  cases lexeme with
  | space c => exact ⟨hrun, shared, m, n, hm, hn⟩
  | comment text => exact ⟨hrun, shared, m, n, hm, hn⟩
  | closeBrace =>
    exact ⟨rfl, shared.tail, m', n', (congrArg List.tail hm).trans hm',
      (congrArg List.tail hn).trans hn'⟩
  | openBrace script => exact ⟨rfl, shared, m, n, hm, hn⟩
  | comma => exact ⟨rfl, shared, m, n, hm, hn⟩
  | quoted quote text => exact ⟨rfl, shared, m, n, hm, hn⟩
  | number digits => exact ⟨rfl, shared, m, n, hm, hn⟩
  | word text =>
    refine ⟨rfl, ?_⟩
    simp only [Scanner.advance, modesAfterWord, hm, hn, hrun]
    split
    · exact ⟨.script :: shared, m, n, rfl, rfl⟩
    split
    · exact ⟨.tokens :: shared, m, n, rfl, rfl⟩
    split
    · exact ⟨.tokens :: shared.tail, m', n', by rw [hm']; rfl, by rw [hn']; rfl⟩
    · exact ⟨shared, m, n, rfl, rfl⟩

theorem Agrees.symbols?_eq {scanner other : Scanner} (h : scanner.Agrees other)
    (text : List Char) : scanner.symbols? text = other.symbols? text := by
  induction hlength : text.length using Nat.strong_induction_on generalizing scanner other text with
  | _ length ih =>
    cases text with
    | nil => simp
    | cons c cs =>
      rw [symbols?_cons, symbols?_cons, h.expectsScript]
      split
      · rfl
      next lexeme rest hread =>
        have hshorter := Lexeme.length_rest_of_read hread
        rw [ih rest.length (hlength ▸ hshorter) (h.advance lexeme) rest rfl]

end Scanner

/-- The symbols of a text that no `run` goes before. -/
def plainSymbols (text : List Char) : Option (List Symbol) :=
  (Scanner.initial Place.start).symbols? text

/-- The symbols of a text behind the word `run`. -/
def runSymbols (text : List Char) : Option (List Symbol) :=
  Scanner.symbols? ⟨Place.start, 0, [.script], true⟩ text

/-- Modes of tokens are as good as none. -/
theorem symbols?_eq_plainSymbols {scanner : Scanner} {n : Nat} (hrun : scanner.afterRun = false)
    (hmodes : scanner.modes = List.replicate n .tokens) (text : List Char) :
    scanner.symbols? text = plainSymbols text :=
  Scanner.Agrees.symbols?_eq ⟨hrun, [], n, 0, hmodes, rfl⟩ text

theorem symbols?_eq_runSymbols {scanner : Scanner} (hrun : scanner.afterRun = true)
    (hmodes : scanner.modes = [.script]) (text : List Char) :
    scanner.symbols? text = runSymbols text :=
  Scanner.Agrees.symbols?_eq ⟨hrun, [.script], 0, 0, by simpa using hmodes, rfl⟩ text

/-- The symbols of the text after a lexeme that no `run` goes before. -/
def Lexeme.symbolsAfter : Lexeme → List Char → Option (List Symbol)
  | .word text, rest =>
    if (classifyWord text).1 = .run then runSymbols rest else plainSymbols rest
  | _, rest => plainSymbols rest

@[simp] theorem plainSymbols_nil : plainSymbols [] = some [] :=
  Scanner.symbols?_nil _

theorem plainSymbols_cons (c : Char) (cs : List Char) :
    plainSymbols (c :: cs) =
      match Lexeme.read false c cs with
      | .error _ => none
      | .ok (lexeme, rest) => (lexeme.symbolsAfter rest).map (lexeme.symbols ++ ·) := by
  have hplain (place : Place) (depth n : Nat) (text : List Char) :
      Scanner.symbols? ⟨place, depth, List.replicate n .tokens, false⟩ text =
        plainSymbols text :=
    symbols?_eq_plainSymbols rfl rfl text
  rw [plainSymbols, Scanner.symbols?_cons]
  show (match Lexeme.read false c cs with | .error _ => none | .ok (lexeme, rest) => _) = _
  cases Lexeme.read false c cs with
  | error error => rfl
  | ok found =>
    obtain ⟨lexeme, rest⟩ := found
    refine congrArg (Option.map (lexeme.symbols ++ ·)) ?_
    cases lexeme with
    | word text =>
      rw [Lexeme.symbolsAfter]
      split
      next hrun =>
        refine symbols?_eq_runSymbols ?_ ?_ rest
        · simp [Scanner.advance, hrun]
        · simp [Scanner.advance, Scanner.modesAfterWord, hrun, Scanner.initial]
      next hrun =>
        by_cases hplain : (classifyWord text).1 = .identifier
        · refine symbols?_eq_plainSymbols (n := 0) ?_ ?_ rest
          · simp [Scanner.advance, hplain]
          · simp [Scanner.advance, Scanner.modesAfterWord, hplain, Scanner.initial]
        · refine symbols?_eq_plainSymbols (n := 1) ?_ ?_ rest
          · simp [Scanner.advance, hrun]
          · simp [Scanner.advance, Scanner.modesAfterWord, hrun, hplain, Scanner.initial]
    | _ => exact hplain _ _ 0 rest

/-- Behind `run`, white space and comments change nothing. -/
theorem runSymbols_of_read {lexeme : Lexeme} {c : Char} {cs rest : List Char}
    (hread : Lexeme.read true c cs = .ok (lexeme, rest)) (hskip : lexeme.symbols = []) :
    runSymbols (c :: cs) = runSymbols rest := by
  rw [runSymbols, Scanner.symbols?_cons]
  show (match Lexeme.read true c cs with | .error _ => none | .ok (lexeme, rest) => _) = _
  rw [hread]
  cases lexeme with
  | space c => simpa [hskip] using symbols?_eq_runSymbols rfl rfl rest
  | comment text => simpa [hskip] using symbols?_eq_runSymbols rfl rfl rest
  | _ => simp [Lexeme.symbols] at hskip

/-- Behind `run`, a name makes the block that may follow one of tokens. -/
theorem runSymbols_of_read_word {word : List Char} {c : Char} {cs rest : List Char}
    (hread : Lexeme.read true c cs = .ok (.word word, rest))
    (hword : (classifyWord word).1 = .identifier) :
    runSymbols (c :: cs) =
      (plainSymbols rest).map (.literal (.identifier (String.ofList word)) :: ·) := by
  rw [runSymbols, Scanner.symbols?_cons]
  show (match Lexeme.read true c cs with | .error _ => none | .ok (lexeme, rest) => _) = _
  rw [hread]
  have hsymbol : (Lexeme.word word).symbols = [.literal (.identifier (String.ofList word))] := by
    rw [Lexeme.symbols, wordSymbol, hword]
  simp only [hsymbol]
  rw [symbols?_eq_plainSymbols (n := 1)]
  · rfl
  · simp [Scanner.advance, hword]
  · simp [Scanner.advance, Scanner.modesAfterWord, hword]

/-- Behind `run`, an opening brace takes a script along up to the brace that closes its block. -/
theorem runSymbols_openBrace (cs : List Char) :
    runSymbols ('\x7b' :: cs) =
      match (splitScript 0 cs).2 with
      | [] => some (.openBrace :: scriptSymbols (splitScript 0 cs).1)
      | _ :: rest =>
        (plainSymbols rest).map fun input =>
          .openBrace :: (scriptSymbols (splitScript 0 cs).1 ++ .closeBrace :: input) := by
  rw [runSymbols, Scanner.symbols?_cons]
  show (match Lexeme.read true '\x7b' cs with | .error _ => none | .ok (lexeme, rest) => _) = _
  have hread : Lexeme.read true '\x7b' cs =
      .ok (.openBrace (splitScript 0 cs).1, (splitScript 0 cs).2) := rfl
  rw [hread]
  obtain ⟨-, hend | ⟨-, rest, hrest⟩⟩ := splitScript_sound 0 cs
  · simp [hend, Lexeme.symbols]
  · simp only [hrest, Scanner.symbols?_cons]
    have hclose (raw : Bool) : Lexeme.read raw '\x7d' rest = .ok (.closeBrace, rest) := rfl
    rw [hclose]
    simp only [Option.map_map]
    rw [symbols?_eq_plainSymbols (n := 0) rfl rfl]
    refine congrArg (Option.map · (plainSymbols rest)) (funext fun input => ?_)
    simp [Lexeme.symbols]

/-! ### Source texts from end to end

A text is read as the statements of a derivation of its symbols. -/

open Grammar

/-- The text behind the mark that it may begin with. -/
def withoutMark : List Char → List Char
  | [] => []
  | c :: cs => if c = byteOrderMark then cs else c :: cs

theorem withoutMark_of_head {text : List Char} (h : text.head? ≠ some byteOrderMark) :
    withoutMark text = text := by
  cases text with
  | nil => rfl
  | cons c cs => exact if_neg fun hc => h (by rw [hc]; rfl)

theorem symbols_scan (source : String) :
    (scan source).toOption.map symbols = plainSymbols (withoutMark source.toList) := by
  have hinitial (place : Place) (text : List Char) :
      (((Scanner.initial place).scan text).toOption.map symbols) = plainSymbols text :=
    symbols?_eq_plainSymbols (n := 0) rfl rfl text
  rw [scan]
  cases source.toList with
  | nil => exact hinitial Place.start []
  | cons c cs =>
    rw [withoutMark]
    by_cases hmark : c = byteOrderMark
    · simp only [if_pos hmark, hinitial]
    · simp only [if_neg hmark, hinitial]

/-- A source text is accepted exactly if its symbols have a derivation that nests no deeper than the
limit, and is read as the statements that the derivation spells. -/
theorem parseSource_eq_ok_iff {source : String} {statements : List Statement} :
    parseSource source = .ok statements ↔
      ∃ phrases : List Phrase,
        plainSymbols (withoutMark source.toList) = some (Phrase.rowSymbols phrases) ∧
          Phrase.rowDepth phrases ≤ maxDepth ∧ Phrase.statements phrases = statements := by
  rw [← symbols_scan, parseSource]
  cases scan source with
  | error error => simp [Except.toOption]
  | ok tokens =>
    have hparse : parse tokens = .ok statements ↔
        ∃ phrases : List Phrase, Phrase.rowSymbols phrases = symbols tokens ∧
          Phrase.rowDepth phrases ≤ maxDepth ∧ Phrase.statements phrases = statements := by
      rw [parse_eq_ok_iff_program, program_eq_ok_iff]
    simp only [Except.toOption, Option.map_some, Option.some_inj, eq_comm (a := symbols tokens)]
    rw [← hparse]
    cases parse tokens <;> simp

/-- No text whose symbols can be read begins with the mark. -/
theorem withoutMark_of_plainSymbols {text : List Char} {input : List Symbol}
    (h : plainSymbols text = some input) : withoutMark text = text := by
  cases text with
  | nil => rfl
  | cons c cs =>
    refine if_neg fun hmark => ?_
    have hread : Lexeme.read false byteOrderMark cs =
        .error (.unexpectedCharacter byteOrderMark) := by
      rw [Lexeme.read, if_neg (by decide), if_neg (by decide), if_neg (by decide),
        if_neg (by decide), if_neg (by decide), if_neg (by decide), if_neg (by decide),
        if_neg (by decide +kernel)]
    rw [hmark, plainSymbols_cons, hread] at h
    cases h

end TaskRunner
