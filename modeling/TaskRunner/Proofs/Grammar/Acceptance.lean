import TaskRunner.Proofs.Grammar.Soundness
import TaskRunner.Proofs.Grammar.Completeness
import TaskRunner.Proofs.Grammar.Nesting
import TaskRunner.Proofs.Grammar.Leaves
import Mathlib.Data.List.Count

/-! The parser accepts the grammar, and returns the statements that the derivation spells.  Of a
list of tokens only those before the first end of the input count, and at most `maxDepth` braces may
be open at once. -/

namespace TaskRunner

namespace Grammar

/-- The tokens before the first end of the input. -/
def beforeEnd (tokens : List Token) : List Token :=
  tokens.takeWhile fun token => token.kind != .endOfInput

/-- The phrases derive the tokens: they are, in order, the symbols of the phrases. -/
def Derives (phrases : List Phrase) (tokens : List Token) : Prop :=
  tokens.map Token.symbol? = (Phrase.rowSymbols phrases).map some

/-- At no point among the tokens more than `room` braces are open. -/
def NestsWithin (room : Nat) (tokens : List Token) : Prop :=
  ∀ front, front <+: tokens →
    front.countP (·.kind == .leftBrace) ≤ front.countP (·.kind == .rightBrace) + room

theorem symbol?_eq_none_iff {token : Token} :
    token.symbol? = none ↔ token.kind = .endOfInput := by
  obtain ⟨kind, text, place, depth, stage⟩ := token
  cases kind <;> simp [Token.symbol?]

theorem symbol?_eq_openBrace_iff {token : Token} :
    token.symbol? = some .openBrace ↔ token.kind = .leftBrace := by
  obtain ⟨kind, text, place, depth, stage⟩ := token
  cases kind <;> simp [Token.symbol?]

theorem symbol?_eq_closeBrace_iff {token : Token} :
    token.symbol? = some .closeBrace ↔ token.kind = .rightBrace := by
  obtain ⟨kind, text, place, depth, stage⟩ := token
  cases kind <;> simp [Token.symbol?]

/-- The symbols that the parser sees are those of the tokens before the end. -/
theorem map_symbol?_beforeEnd (tokens : List Token) :
    (beforeEnd tokens).map Token.symbol? = (symbols tokens).map some := by
  induction tokens with
  | nil => rfl
  | cons token tokens ih =>
    rw [beforeEnd, symbols]
    cases h : token.symbol? with
    | none => simp [symbol?_eq_none_iff.1 h]
    | some symbol =>
      have hkind : token.kind ≠ .endOfInput := by
        rw [Ne, ← symbol?_eq_none_iff, h]
        exact Option.some_ne_none symbol
      rw [List.takeWhile_cons_of_pos (by simpa using hkind), List.map_cons, h]
      exact congrArg (some symbol :: ·) ih

theorem derives_beforeEnd_iff {phrases : List Phrase} {tokens : List Token} :
    Derives phrases (beforeEnd tokens) ↔ Phrase.rowSymbols phrases = symbols tokens := by
  rw [Derives, map_symbol?_beforeEnd, List.map_inj_right fun _ _ => Option.some.inj]
  exact eq_comm

/-- As many tokens of a kind as there are symbols of it. -/
theorem countP_eq_count {tokens : List Token} {input : List Symbol} {kind : Token.Kind}
    {symbol : Symbol} (h : tokens.map Token.symbol? = input.map some)
    (hkind : ∀ {token : Token}, token.symbol? = some symbol ↔ token.kind = kind) :
    tokens.countP (·.kind == kind) = input.count symbol := by
  rw [← List.count_map_of_injective input some fun _ _ => Option.some.inj, ← h, List.count,
    List.countP_map]
  refine List.countP_congr fun token _ => ?_
  simp [hkind]

theorem nestsWithin_iff {room : Nat} {tokens : List Token} {input : List Symbol}
    (h : tokens.map Token.symbol? = input.map some) :
    NestsWithin room tokens ↔ Fits room input := by
  have htake (n : Nat) : (tokens.take n).map Token.symbol? = (input.take n).map some := by
    rw [List.map_take, List.map_take, h]
  constructor
  · intro hnests front hfront
    rw [List.prefix_iff_eq_take.1 hfront]
    have := hnests _ (List.take_prefix front.length tokens)
    rwa [countP_eq_count (htake _) symbol?_eq_openBrace_iff,
      countP_eq_count (htake _) symbol?_eq_closeBrace_iff] at this
  · intro hfits front hfront
    rw [List.prefix_iff_eq_take.1 hfront]
    have := hfits _ (List.take_prefix front.length input)
    rwa [countP_eq_count (htake _) symbol?_eq_openBrace_iff,
      countP_eq_count (htake _) symbol?_eq_closeBrace_iff]

/-- The leaves among the tokens that phrases derive. -/
theorem filterMap_leaf?_of_derives {phrases : List Phrase} {tokens : List Token}
    (h : Derives phrases tokens) :
    tokens.filterMap Token.leaf? = Statement.rowLeaves (Phrase.statements phrases) := by
  have hmap : tokens.filterMap Token.leaf? =
      (tokens.map Token.symbol?).filterMap (Option.filter Symbol.isLeaf) := by
    rw [List.filterMap_map]
    rfl
  rw [← Phrase.leaves_statements phrases, hmap, h, List.filterMap_map,
    ← List.filterMap_eq_filter]
  refine congrArg (List.filterMap · _) (funext fun symbol => ?_)
  simp [Option.guard, Option.filter_some]

theorem program_eq_ok_iff {room : Nat} {input : List Symbol} {values : List Statement} :
    Parse.program room input = .ok values ↔
      ∃ phrases : List Phrase,
        Phrase.rowSymbols phrases = input ∧ Phrase.rowDepth phrases ≤ room ∧
          Phrase.statements phrases = values := by
  constructor
  · intro h
    obtain ⟨phrases, hvalues, hinput, hdepth⟩ := program_sound h
    exact ⟨phrases, hinput, hdepth, hvalues⟩
  · rintro ⟨phrases, rfl, hdepth, rfl⟩
    exact program_complete hdepth

end Grammar

open Grammar

theorem parse_eq_ok_iff_program {tokens : List Token} {statements : List Statement} :
    parse tokens = .ok statements ↔ Parse.program maxDepth (symbols tokens) = .ok statements := by
  rw [parse]
  cases Parse.program maxDepth (symbols tokens) <;> simp

/-- The parser accepts a list of tokens exactly if those before the first end of the input have a
derivation and nest no deeper than the limit.  The derivation is the only one, and the statements
are those that it spells; they hold every text and every stage of the tokens once and in order. -/
theorem parse_eq_ok_iff_derives (tokens : List Token) (statements : List Statement) :
    parse tokens = .ok statements ↔
      NestsWithin maxDepth (beforeEnd tokens) ∧
        ∃ phrases : List Phrase,
          Derives phrases (beforeEnd tokens) ∧
            (∀ others, Derives others (beforeEnd tokens) → others = phrases) ∧
            Phrase.statements phrases = statements ∧
            Statement.rowLeaves statements = (beforeEnd tokens).filterMap Token.leaf? := by
  rw [parse_eq_ok_iff_program, program_eq_ok_iff,
    nestsWithin_iff (map_symbol?_beforeEnd tokens)]
  constructor
  · rintro ⟨phrases, hsymbols, hdepth, rfl⟩
    have hderives := derives_beforeEnd_iff.2 hsymbols
    refine ⟨?_, phrases, hderives, fun others hothers => ?_, rfl, ?_⟩
    · rw [← hsymbols]
      exact (Phrase.fits_rowSymbols_iff phrases maxDepth).2 hdepth
    · exact Phrase.rowSymbols_injective
        ((derives_beforeEnd_iff.1 hothers).trans hsymbols.symm)
    · exact (filterMap_leaf?_of_derives hderives).symm
  · rintro ⟨hfits, phrases, hderives, -, hstatements, -⟩
    have hsymbols := derives_beforeEnd_iff.1 hderives
    rw [← hsymbols] at hfits
    exact ⟨phrases, hsymbols, (Phrase.fits_rowSymbols_iff phrases maxDepth).1 hfits, hstatements⟩

end TaskRunner
