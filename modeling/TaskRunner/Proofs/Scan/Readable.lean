import TaskRunner.Proofs.Scan.Symbols
import TaskRunner.Proofs.Tree.WellFormed

/-! What rows of symbols a text can give.  Outside of runs it gives no scripts; behind `run` it
gives, in a block, at most one script, which is trimmed and balanced. -/

namespace TaskRunner

/-- The lexeme is spelled as lexemes of its kind are. -/
def Lexeme.IsSpelled : Lexeme → Prop
  | .quoted quote text => isQuote quote = true ∧ quote ∉ text
  | .number digits => digits ≠ [] ∧ ∀ c ∈ digits, c.isDigit = true
  | .word text =>
    (∃ c cs, text = c :: cs ∧ isWordStart c = true) ∧ ∀ c ∈ text, isWordChar c = true
  | _ => True

theorem Lexeme.isSpelled_of_read {raw : Bool} {c : Char} {cs rest : List Char} {lexeme : Lexeme}
    (h : Lexeme.read raw c cs = .ok (lexeme, rest)) : lexeme.IsSpelled := by
  unfold Lexeme.read at h
  split at h
  · cases h; trivial
  split at h
  · cases h; trivial
  split at h
  · split at h <;> (cases h; trivial)
  split at h
  · cases h; trivial
  split at h
  · cases h; trivial
  split at h
  next hquote =>
    split at h
    · cases h
    · cases h
      refine ⟨hquote, fun hmem => ?_⟩
      simpa using List.mem_takeWhile_imp hmem
  split at h
  next hdigit =>
    cases h
    refine ⟨List.cons_ne_nil _ _, List.forall_mem_cons.2 ⟨hdigit, fun d hd => ?_⟩⟩
    exact List.mem_takeWhile_imp hd
  split at h
  next hstart =>
    cases h
    refine ⟨⟨c, _, rfl, hstart⟩,
      List.forall_mem_cons.2 ⟨isWordChar_of_isWordStart hstart, fun d hd => ?_⟩⟩
    exact List.mem_takeWhile_imp hd
  · cases h

/-- Without a script to take along, a lexeme gives one symbol or none. -/
theorem Lexeme.symbols_of_read_false {c : Char} {cs rest : List Char} {lexeme : Lexeme}
    (h : Lexeme.read false c cs = .ok (lexeme, rest)) :
    lexeme.symbols = [] ∧ lexeme.symbolsAfter rest = plainSymbols rest ∨
      ∃ symbol, lexeme.symbols = [symbol] := by
  cases lexeme with
  | space c => exact .inl ⟨rfl, rfl⟩
  | comment text => exact .inl ⟨rfl, rfl⟩
  | openBrace script =>
    have hscript : script = [] := by
      unfold Lexeme.read at h
      repeat' split at h
      all_goals first | rfl | simp_all
    exact .inr ⟨.openBrace, by rw [hscript]; rfl⟩
  | _ => exact .inr ⟨_, rfl⟩

theorem isQuotable_of_not_mem {quote : Char} {text : List Char} (hquote : isQuote quote = true)
    (h : quote ∉ text) : IsQuotable (String.ofList text) := by
  rw [isQuote, Bool.or_eq_true, beq_iff_eq, beq_iff_eq] at hquote
  rw [IsQuotable, String.toList_ofList]
  rintro ⟨hdouble, hback⟩
  rcases hquote with rfl | rfl
  · exact h hdouble
  · exact h hback

/-- The literal of a lexeme can be written. -/
theorem Lexeme.IsSpelled.isWritable {lexeme : Lexeme} (h : lexeme.IsSpelled) {value : Literal}
    (hsymbols : lexeme.symbols = [.literal value]) : value.IsWritable := by
  cases lexeme with
  | quoted quote text =>
    simp only [Lexeme.symbols, List.cons.injEq, Symbol.literal.injEq, and_true] at hsymbols
    rw [← hsymbols]
    exact isQuotable_of_not_mem h.1 h.2
  | number digits =>
    simp only [Lexeme.symbols, List.cons.injEq, Symbol.literal.injEq, and_true] at hsymbols
    rw [← hsymbols]
    simpa [Literal.IsWritable, IsNumber, Lexeme.IsSpelled] using h
  | word text =>
    have hplain := classifyWord_of_wordSymbol (List.cons.inj hsymbols).1
    simp only [Lexeme.symbols, wordSymbol, hplain, List.cons.injEq, Symbol.literal.injEq,
      and_true] at hsymbols
    rw [← hsymbols]
    refine ⟨?_, ?_, classifyWord_eq_identifier_iff.1 hplain⟩
    · simpa using h.1
    · simpa using h.2
  | openBrace script => simp [Lexeme.symbols] at hsymbols
  | _ => simp [Lexeme.symbols] at hsymbols

/-- The symbols are those of a text that no `run` goes before. -/
def IsPlain (input : List Symbol) : Prop :=
  ∃ text, plainSymbols text = some input

/-- The symbols are those of a text behind the word `run`. -/
def FollowsRun (input : List Symbol) : Prop :=
  ∃ text, runSymbols text = some input

/-- The first symbol of a text is that of a lexeme, and the others are those of the text after
it. -/
theorem IsPlain.exists_lexeme {symbol : Symbol} {more : List Symbol}
    (h : IsPlain (symbol :: more)) :
    ∃ (lexeme : Lexeme) (rest : List Char), lexeme.IsSpelled ∧ lexeme.symbols = [symbol] ∧
      lexeme.symbolsAfter rest = some more := by
  obtain ⟨text, htext⟩ := h
  induction hlength : text.length using Nat.strong_induction_on generalizing text with
  | _ length ih =>
    cases text with
    | nil => simp at htext
    | cons c cs =>
      rw [plainSymbols_cons] at htext
      split at htext
      · cases htext
      next lexeme rest hread =>
        obtain ⟨after, hafter, happend⟩ := Option.map_eq_some_iff.1 htext
        rcases Lexeme.symbols_of_read_false hread with ⟨hnone, hplain⟩ | ⟨first, hfirst⟩
        · rw [hnone, List.nil_append] at happend
          rw [hplain, happend] at hafter
          exact ih rest.length (hlength ▸ Lexeme.length_rest_of_read hread) rest hafter rfl
        · rw [hfirst] at happend
          obtain ⟨rfl, rfl⟩ := List.cons.inj happend
          exact ⟨lexeme, rest, Lexeme.isSpelled_of_read hread, hfirst, hafter⟩

theorem not_isPlain_script (script : String) (more : List Symbol) :
    ¬IsPlain (.script script :: more) := by
  intro h
  obtain ⟨lexeme, rest, -, hsymbols, -⟩ := h.exists_lexeme
  cases lexeme with
  | word text =>
    simp only [Lexeme.symbols, wordSymbol, List.cons.injEq, and_true] at hsymbols
    split at hsymbols <;> cases hsymbols
  | _ => simp [Lexeme.symbols] at hsymbols

theorem IsPlain.isWritable {value : Literal} {more : List Symbol}
    (h : IsPlain (.literal value :: more)) : value.IsWritable := by
  obtain ⟨lexeme, rest, hspelled, hsymbols, -⟩ := h.exists_lexeme
  exact hspelled.isWritable hsymbols

/-- Only the word `run` changes how the text after it is read. -/
theorem IsPlain.tail {symbol : Symbol} {more : List Symbol} (h : IsPlain (symbol :: more))
    (hrun : ∀ stage, symbol ≠ .run stage) : IsPlain more := by
  obtain ⟨lexeme, rest, -, hsymbols, hafter⟩ := h.exists_lexeme
  refine ⟨rest, ?_⟩
  cases lexeme with
  | word text =>
    rw [Lexeme.symbols, wordSymbol] at hsymbols
    rw [Lexeme.symbolsAfter] at hafter
    split at hafter
    next hkind =>
      rw [hkind] at hsymbols
      exact absurd (List.cons.inj hsymbols).1.symm (hrun _)
    next => exact hafter
  | _ => exact hafter

theorem IsPlain.followsRun {stage : Stage} {more : List Symbol}
    (h : IsPlain (.run stage :: more)) : FollowsRun more := by
  obtain ⟨lexeme, rest, -, hsymbols, hafter⟩ := h.exists_lexeme
  refine ⟨rest, ?_⟩
  cases lexeme with
  | word text =>
    simp only [Lexeme.symbols, wordSymbol, List.cons.injEq, and_true] at hsymbols
    rw [Lexeme.symbolsAfter] at hafter
    split at hafter
    next => exact hafter
    next hkind => split at hsymbols <;> contradiction
  | _ => simp [Lexeme.symbols] at hsymbols

/-! ### Behind `run` -/

/-- The first symbol behind `run` is that of a lexeme. -/
theorem FollowsRun.exists_lexeme {symbol : Symbol} {more : List Symbol}
    (h : FollowsRun (symbol :: more)) :
    ∃ c cs lexeme rest others, Lexeme.read true c cs = .ok (lexeme, rest) ∧
      lexeme.symbols = symbol :: others ∧ runSymbols (c :: cs) = some (symbol :: more) := by
  obtain ⟨text, htext⟩ := h
  induction hlength : text.length using Nat.strong_induction_on generalizing text with
  | _ length ih =>
    cases text with
    | nil => simp [runSymbols] at htext
    | cons c cs =>
      have hcons := htext
      rw [runSymbols, Scanner.symbols?_cons] at hcons
      split at hcons
      · cases hcons
      next lexeme rest hread =>
        obtain ⟨after, -, happend⟩ := Option.map_eq_some_iff.1 hcons
        by_cases hskip : lexeme.symbols = []
        · rw [runSymbols_of_read hread hskip] at htext
          exact ih rest.length (hlength ▸ Lexeme.length_rest_of_read hread) rest htext rfl
        · obtain ⟨first, others, hfirst⟩ := List.exists_cons_of_ne_nil hskip
          rw [hfirst] at happend
          obtain ⟨rfl, -⟩ := List.cons.inj happend
          exact ⟨c, cs, lexeme, rest, others, hread, hfirst, htext⟩

/-- A name behind `run`. -/
theorem FollowsRun.name {name : String} {more : List Symbol}
    (h : FollowsRun (.literal (.identifier name) :: more)) : IsWord name ∧ IsPlain more := by
  obtain ⟨c, cs, lexeme, rest, others, hread, hsymbols, htext⟩ := h.exists_lexeme
  cases lexeme with
  | word text =>
    obtain ⟨hsymbol, hothers⟩ := List.cons.inj hsymbols
    rw [← hothers] at hsymbols
    have hword : IsWord name := (Lexeme.isSpelled_of_read hread).isWritable hsymbols
    rw [runSymbols_of_read_word hread (classifyWord_of_wordSymbol hsymbol)] at htext
    obtain ⟨after, hafter, happend⟩ := Option.map_eq_some_iff.1 htext
    rw [(List.cons.inj happend).2] at hafter
    exact ⟨hword, rest, hafter⟩
  | _ => simp [Lexeme.symbols] at hsymbols

/-- A script that is taken along is not empty, trimmed and balanced. -/
structure IsCaptured (script : List Char) : Prop where
  ne_nil : script ≠ []
  trimmed : IsTrimmed script
  balanced : IsBalanced script

theorem scriptSymbols_cases {script : List Char} (h : IsBalanced script) :
    scriptSymbols script = [] ∨
      ∃ captured : String, scriptSymbols script = [.script captured] ∧
        IsCaptured captured.toList := by
  rw [scriptSymbols]
  split
  · exact .inl rfl
  next hne =>
    refine .inr ⟨_, rfl, ?_⟩
    rw [String.toList_ofList]
    exact ⟨by simpa using hne, isTrimmed_trim script,
      (isBalanced_iff_of_solid_eq (solid_trim script)).2 h⟩

/-- A block behind `run` holds nothing or a script; what follows the block is plain again. -/
theorem FollowsRun.block {more : List Symbol} (h : FollowsRun (.openBrace :: more))
    (hclose : .closeBrace ∈ more) :
    (∃ after, more = .closeBrace :: after ∧ IsPlain after) ∨
      ∃ (script : String) (after : List Symbol), more = .script script :: .closeBrace :: after ∧
        IsCaptured script.toList ∧ IsPlain after := by
  obtain ⟨c, cs, lexeme, rest, others, hread, hsymbols, htext⟩ := h.exists_lexeme
  have hbrace : c = '\x7b' := by
    have hspelling := Lexeme.spelling_append_of_read hread
    cases lexeme with
    | openBrace script => exact (List.cons.inj hspelling).1.symm
    | word text =>
      rw [Lexeme.symbols, wordSymbol] at hsymbols
      split at hsymbols <;> cases hsymbols
    | _ => simp [Lexeme.symbols] at hsymbols
  rw [hbrace, runSymbols_openBrace] at htext
  split at htext
  next hend =>
    -- The text ends inside of the block, which is not closed then.
    rw [Option.some_inj] at htext
    rw [← (List.cons.inj htext).2, scriptSymbols] at hclose
    split at hclose <;> simp at hclose
  next d after hend =>
    obtain ⟨input, hinput, happend⟩ := Option.map_eq_some_iff.1 htext
    rw [← (List.cons.inj happend).2]
    have hbalanced : IsBalanced (splitScript 0 cs).1 :=
      (isBalanced_of_splitScript rfl (by rw [hend]; exact List.cons_ne_nil d after)).1
    rcases scriptSymbols_cases hbalanced with hnone | ⟨captured, hone, hcaptured⟩
    · exact .inl ⟨input, by rw [hnone]; rfl, after, hinput⟩
    · exact .inr ⟨captured, input, by rw [hone]; rfl, hcaptured, after, hinput⟩

end TaskRunner
