import TaskRunner.Proofs.Grammar.Acceptance
import TaskRunner.Proofs.Grammar.Stop

/-! Where a list of tokens is refused.  The tokens before that place begin a sentence; with the
token at it they begin none, unless it is the brace of a block that nests too deep.  So no earlier
token gives a reason to refuse, and there is one such place only. -/

namespace TaskRunner

namespace Grammar

/-- The tokens are a sentence, however deep its blocks nest. -/
def IsSentence (tokens : List Token) : Prop :=
  ∃ phrases, Derives phrases tokens

/-- A sentence begins with the tokens. -/
def BeginsSentence (tokens : List Token) : Prop :=
  ∃ more, IsSentence (tokens ++ more)

/-- The token at an index.  There is none at the end of the input and past the last token. -/
def tokenAt? (tokens : List Token) (i : Nat) : Option Token :=
  tokens[i]?.filter fun token => token.kind != .endOfInput

/-- No sentence begins with the tokens up to the index; if the input ends there, those before it are
no sentence. -/
def IsRefusedAt (tokens : List Token) (i : Nat) : Prop :=
  match tokenAt? tokens i with
  | some _ => ¬BeginsSentence (tokens.take (i + 1))
  | none => ¬IsSentence (tokens.take i)

/-- At the index stands an opening brace that goes on with a sentence, and before it as many braces
are open as may be at once. -/
structure IsTooDeepAt (tokens : List Token) (i : Nat) : Prop where
  brace : (tokenAt? tokens i).map Token.kind = some .leftBrace
  begins : BeginsSentence (tokens.take (i + 1))
  count_eq : (tokens.take i).countP (·.kind == .leftBrace) =
    (tokens.take i).countP (·.kind == .rightBrace) + maxDepth

/-- The error stands at the token with the index, and no earlier one gives a reason for it. -/
structure StandsAt (error : ParseError) (tokens : List Token) (i : Nat) : Prop where
  le_length : i ≤ tokens.length
  place_eq : error.place = ((tokens[i]?.or tokens.getLast?).map Token.place).getD Place.start
  found_eq : error.found = (tokenAt? tokens i).map Token.text
  begins : BeginsSentence (tokens.take i)
  nests : NestsWithin maxDepth (tokens.take i)
  reason : if error.expected = .shallowerBlock then IsTooDeepAt tokens i else IsRefusedAt tokens i

/-! ### Tokens and their symbols -/

theorem exists_token_symbol? (symbol : Symbol) :
    ∃ token : Token, token.symbol? = some symbol := by
  let token (kind : Token.Kind) (text : String) (stage : Stage) : Token :=
    ⟨kind, text, Place.start, 0, stage⟩
  cases symbol with
  | openBrace => exact ⟨token .leftBrace "" .during, rfl⟩
  | closeBrace => exact ⟨token .rightBrace "" .during, rfl⟩
  | comma => exact ⟨token .comma "" .during, rfl⟩
  | config => exact ⟨token .config "" .during, rfl⟩
  | var => exact ⟨token .var "" .during, rfl⟩
  | target => exact ⟨token .target "" .during, rfl⟩
  | run stage => exact ⟨token .run "" stage, rfl⟩
  | desc => exact ⟨token .desc "" .during, rfl⟩
  | extend => exact ⟨token .extend "" .during, rfl⟩
  | script text => exact ⟨token .script text .during, rfl⟩
  | literal value =>
    cases value with
    | identifier text => exact ⟨token .identifier text .during, rfl⟩
    | string text => exact ⟨token .string text .during, rfl⟩
    | number text => exact ⟨token .number text .during, rfl⟩

theorem exists_map_symbol? (input : List Symbol) :
    ∃ tokens : List Token, tokens.map Token.symbol? = input.map some := by
  induction input with
  | nil => exact ⟨[], rfl⟩
  | cons symbol input ih =>
    obtain ⟨token, htoken⟩ := exists_token_symbol? symbol
    obtain ⟨tokens, htokens⟩ := ih
    exact ⟨token :: tokens, by rw [List.map_cons, List.map_cons, htoken, htokens]⟩

theorem isSentence_iff {tokens : List Token} {input : List Symbol}
    (h : tokens.map Token.symbol? = input.map some) :
    IsSentence tokens ↔ Part.program.Spells input := by
  have hderives (phrases : List Phrase) :
      Derives phrases tokens ↔ input = Phrase.rowSymbols phrases ++ [] := by
    rw [Derives, h, List.map_inj_right fun _ _ => Option.some.inj, List.append_nil]
  exact exists_congr hderives

theorem beginsSentence_iff {tokens : List Token} {input : List Symbol}
    (h : tokens.map Token.symbol? = input.map some) :
    BeginsSentence tokens ↔ ∃ more, Part.program.Spells (input ++ more) := by
  constructor
  · rintro ⟨more, phrases, hderives⟩
    rw [Derives, List.map_append, h] at hderives
    obtain ⟨front, tail, heq, hfront, -⟩ := List.map_eq_append_iff.1 hderives.symm
    obtain rfl := (List.map_inj_right fun _ _ => Option.some.inj).1 hfront
    exact ⟨tail, phrases, by rw [← heq, List.append_nil]⟩
  · rintro ⟨tail, htail⟩
    obtain ⟨more, hmore⟩ := exists_map_symbol? tail
    refine ⟨more, (isSentence_iff ?_).2 htail⟩
    rw [List.map_append, List.map_append, h, hmore]

/-- A beginning of what begins a sentence begins one. -/
theorem BeginsSentence.of_prefix {front tokens : List Token} (h : BeginsSentence tokens)
    (hfront : front <+: tokens) : BeginsSentence front := by
  obtain ⟨rest, rfl⟩ := hfront
  obtain ⟨more, hmore⟩ := h
  exact ⟨rest ++ more, by rwa [← List.append_assoc]⟩

/-- No end of the input is among tokens that begin a sentence. -/
theorem BeginsSentence.kind_ne {tokens : List Token} (h : BeginsSentence tokens) {token : Token}
    (hmem : token ∈ tokens) : token.kind ≠ .endOfInput := by
  obtain ⟨more, phrases, hderives⟩ := h
  intro hkind
  have hnone : none ∈ (Phrase.rowSymbols phrases).map some := by
    rw [← hderives, ← symbol?_eq_none_iff.2 hkind]
    exact List.mem_map_of_mem (List.mem_append_left more hmem)
  simp at hnone

theorem symbols_eq_cons_iff {tokens : List Token} {symbol : Symbol} {rest : List Symbol} :
    symbols tokens = symbol :: rest ↔
      ∃ token more, tokens = token :: more ∧ token.symbol? = some symbol ∧ symbols more = rest := by
  cases tokens with
  | nil => simp [symbols]
  | cons token tokens => cases htoken : token.symbol? <;> simp [symbols, htoken]

theorem symbols_eq_nil_iff {tokens : List Token} :
    symbols tokens = [] ↔ tokenAt? tokens 0 = none := by
  cases tokens with
  | nil => simp [symbols, tokenAt?]
  | cons token tokens =>
    have hkind : token.symbol? = none ↔ token.kind = .endOfInput := symbol?_eq_none_iff
    cases htoken : token.symbol? <;> simp_all [symbols, tokenAt?]

/-- The tokens of the first symbols, and those left behind them. -/
theorem exists_tokens_of_symbols_eq {tokens : List Token} {front rest : List Symbol}
    (h : symbols tokens = front ++ rest) :
    ∃ read left, tokens = read ++ left ∧ read.length = front.length ∧
      read.map Token.symbol? = front.map some ∧ symbols left = rest := by
  induction front generalizing tokens with
  | nil => exact ⟨[], tokens, rfl, rfl, rfl, h⟩
  | cons symbol front ih =>
    obtain ⟨token, more, rfl, htoken, hmore⟩ := symbols_eq_cons_iff.1 h
    obtain ⟨read, left, rfl, hlength, hread, hleft⟩ := ih hmore
    exact ⟨token :: read, left, rfl, congrArg Nat.succ hlength,
      by rw [List.map_cons, List.map_cons, htoken, hread], hleft⟩

theorem tokenAt?_append_length (read left : List Token) :
    tokenAt? (read ++ left) read.length = tokenAt? left 0 := by
  rw [tokenAt?, List.getElem?_append_right (Nat.le_refl _), Nat.sub_self, tokenAt?]

/-- The tokens up to and with the one behind the first symbols. -/
theorem map_symbol?_take_succ {read more : List Token} {token : Token} {front : List Symbol}
    {symbol : Symbol} (hread : read.map Token.symbol? = front.map some)
    (htoken : token.symbol? = some symbol) :
    ((read ++ token :: more).take (read.length + 1)).map Token.symbol? =
      (front ++ [symbol]).map some := by
  rw [List.take_length_add_append, List.map_append, List.map_append, hread]
  simp [htoken]

/-! ### The reason at the place of an error -/

/-- Where there is no room for a further brace, as many are open as may be. -/
theorem count_eq_of_not_fits {room : Nat} {front : List Symbol} (hfits : Fits room front)
    (h : ¬Fits room (front ++ [.openBrace])) :
    front.count .openBrace = front.count .closeBrace + room := by
  have hle := hfits front List.prefix_rfl
  by_contra hne
  refine h fun part hpart => ?_
  rcases List.prefix_concat_iff.1 hpart with rfl | hpart
  · rw [List.count_append, List.count_append, List.count_singleton_self,
      List.count_singleton, if_neg (by decide)]
    omega
  · exact hfits part hpart

section Reasons

variable {read left : List Token} {front : List Symbol} {stop : Stop}

theorem isTooDeepAt_of_isTooDeep (hread : read.map Token.symbol? = front.map some)
    (hleft : symbols left = stop.unread) (hfits : Fits maxDepth front)
    (h : IsTooDeep .program maxDepth front stop) : IsTooDeepAt (read ++ left) read.length := by
  obtain ⟨-, ⟨rest, hrest⟩, ⟨more, hmore⟩, hroom⟩ := h
  obtain ⟨token, after, rfl, htoken, -⟩ := symbols_eq_cons_iff.1 (hleft.trans hrest)
  refine ⟨?_, (beginsSentence_iff (map_symbol?_take_succ hread htoken)).2 ⟨more, ?_⟩, ?_⟩
  · rw [tokenAt?_append_length]
    simp [tokenAt?, symbol?_eq_openBrace_iff.1 htoken]
  · rwa [List.append_assoc]
  · rw [List.take_left, countP_eq_count hread symbol?_eq_openBrace_iff,
      countP_eq_count hread symbol?_eq_closeBrace_iff]
    exact count_eq_of_not_fits hfits hroom

theorem isRefusedAt_of_isRefused (hread : read.map Token.symbol? = front.map some)
    (hleft : symbols left = stop.unread) (h : IsRefused .program front stop) :
    IsRefusedAt (read ++ left) read.length := by
  obtain ⟨-, hrefused⟩ := h
  rw [IsRefusedAt, tokenAt?_append_length]
  cases hunread : stop.unread with
  | nil =>
    rw [symbols_eq_nil_iff.1 (hleft.trans hunread), List.take_left, isSentence_iff hread]
    intro hspells
    refine hrefused [] (by rw [hunread]) ⟨front, [], ?_, hspells, rfl⟩
    simp
  | cons symbol rest =>
    obtain ⟨token, after, rfl, htoken, -⟩ := symbols_eq_cons_iff.1 (hleft.trans hunread)
    have hkind : token.kind ≠ .endOfInput := by
      rw [Ne, ← symbol?_eq_none_iff, htoken]
      exact Option.some_ne_none symbol
    have hat : tokenAt? (token :: after) 0 = some token := by simp [tokenAt?, hkind]
    rw [hat, beginsSentence_iff (map_symbol?_take_succ hread htoken)]
    rintro ⟨more, hspells⟩
    refine hrefused (symbol :: more) (by rw [hunread]; rfl) ⟨_, [], ?_, hspells, rfl⟩
    simp

end Reasons

/-! ### Earlier and later places -/

/-- An error does not stand at two places: a reason at the earlier one is none at the later one. -/
theorem StandsAt.not_lt {error : ParseError} {tokens : List Token} {i j : Nat}
    (hi : StandsAt error tokens i) (hj : StandsAt error tokens j) : ¬i < j := by
  intro hlt
  have hprefix : tokens.take (i + 1) <+: tokens.take j :=
    List.take_prefix_take_left hlt
  have hreason := hi.reason
  -- The reason at `i` forbids what holds of the tokens before `j`, of which that at `i` is one.
  split at hreason
  next hdeep =>
    have hcount := hreason.count_eq
    have hnests := hj.nests _ hprefix
    obtain ⟨token, hat, hkind⟩ := Option.map_eq_some_iff.1 hreason.brace
    rw [List.take_add_one, (Option.filter_eq_some_iff.1 hat).1, Option.toList_some,
      List.countP_append, List.countP_append, hcount, List.countP_singleton,
      List.countP_singleton, if_pos (by simp [hkind]), if_neg (by simp [hkind])] at hnests
    omega
  next hother =>
    unfold IsRefusedAt at hreason
    split at hreason
    next token hat => exact hreason (hj.begins.of_prefix hprefix)
    next hat =>
      have hi' : i < tokens.length := Nat.lt_of_lt_of_le hlt hj.le_length
      have hmem : tokens[i] ∈ tokens.take j := by
        refine List.mem_take_iff_getElem.2 ⟨i, by omega, rfl⟩
      refine hj.begins.kind_ne hmem ?_
      simpa [tokenAt?, List.getElem?_eq_getElem hi', Option.filter_eq_none_iff] using hat

end Grammar

namespace ParseError

variable (tokens : List Token) (i : Nat) (expected : Expectation)

@[simp] theorem ofIndex_expected : (ofIndex tokens i expected).expected = expected := by
  unfold ofIndex
  split <;> rfl

theorem ofIndex_found :
    (ofIndex tokens i expected).found = (Grammar.tokenAt? tokens i).map Token.text := by
  unfold ofIndex Grammar.tokenAt?
  split
  next token htoken =>
    by_cases hkind : token.kind = .endOfInput <;>
      simp [htoken, Token.found?, Option.filter_some, hkind]
  next hnone => rw [hnone]; rfl

theorem ofIndex_place :
    (ofIndex tokens i expected).place =
      ((tokens[i]?.or tokens.getLast?).map Token.place).getD Place.start := by
  unfold ofIndex
  split
  next token htoken => rw [htoken]; rfl
  next hnone => rw [hnone]; rfl

end ParseError

open Grammar

/-- The error stands at the index that the parser computes from the symbols it has not read. -/
theorem standsAt_ofIndex {tokens : List Token} {stop : Stop}
    (h : Parse.program maxDepth (symbols tokens) = .error stop) :
    StandsAt (.ofIndex tokens ((symbols tokens).length - stop.unread.length) stop.expected) tokens
      ((symbols tokens).length - stop.unread.length) := by
  obtain ⟨front, hinput, hfits, hmore, hreason⟩ := program_stops h
  obtain ⟨read, left, rfl, hlength, hread, hleft⟩ := exists_tokens_of_symbols_eq hinput
  have hindex : (symbols (read ++ left)).length - stop.unread.length = read.length := by
    rw [hinput, List.length_append, hlength, Nat.add_sub_cancel]
  rw [hindex]
  refine ⟨by simp, ParseError.ofIndex_place .., ParseError.ofIndex_found .., ?_, ?_, ?_⟩
  · rw [List.take_left]
    exact (beginsSentence_iff hread).2 hmore
  · rw [List.take_left]
    exact (nestsWithin_iff hread).2 hfits
  · rw [ParseError.ofIndex_expected]
    rcases hreason with hdeep | hrefused
    · rw [if_pos hdeep.1]
      exact isTooDeepAt_of_isTooDeep hread hleft hfits hdeep
    · rw [if_neg hrefused.1]
      exact isRefusedAt_of_isRefused hread hleft hrefused

/-- An error of the parser stands at the earliest token that gives a reason for it, and at no other.
The tokens before it begin a sentence.  Either it is a brace that may stand there and opens a block
too deep, or no sentence begins with the tokens up to it; at the end of the input, those before it
are no sentence. -/
theorem existsUnique_standsAt_of_parse {tokens : List Token} {error : ParseError}
    (h : parse tokens = .error error) : ∃! i, StandsAt error tokens i := by
  rw [parse] at h
  cases hprogram : Parse.program maxDepth (symbols tokens) with
  | ok statements => simp [hprogram] at h
  | error stop =>
    simp only [hprogram, Except.error.injEq] at h
    have hstands := standsAt_ofIndex hprogram
    rw [h] at hstands
    refine ⟨_, hstands, fun j hj => ?_⟩
    exact Nat.le_antisymm (Nat.le_of_not_lt (hstands.not_lt hj))
      (Nat.le_of_not_lt (hj.not_lt hstands))

/-- A variable without a value inside a target, behind a run with a script. -/
theorem existsUnique_standsAt_of_parse_valueless :
    let tokens : List Token :=
      [⟨.target, "target", ⟨1, 1, 0⟩, 0, .during⟩, ⟨.identifier, "t", ⟨1, 8, 7⟩, 0, .during⟩,
        ⟨.leftBrace, "\x7b", ⟨1, 10, 9⟩, 0, .during⟩, ⟨.run, "run", ⟨2, 1, 11⟩, 1, .before⟩,
        ⟨.leftBrace, "\x7b", ⟨2, 12, 22⟩, 1, .during⟩, ⟨.script, "x", ⟨2, 13, 23⟩, 2, .during⟩,
        ⟨.rightBrace, "\x7d", ⟨2, 16, 26⟩, 1, .during⟩, ⟨.var, "var", ⟨3, 1, 28⟩, 1, .during⟩,
        ⟨.leftBrace, "\x7b", ⟨3, 5, 32⟩, 1, .during⟩, ⟨.identifier, "v", ⟨3, 7, 34⟩, 2, .during⟩,
        ⟨.rightBrace, "\x7d", ⟨3, 9, 36⟩, 1, .during⟩,
        ⟨.rightBrace, "\x7d", ⟨4, 1, 38⟩, 0, .during⟩, ⟨.endOfInput, "", ⟨4, 2, 39⟩, 0, .during⟩]
    let error : ParseError := ⟨.initializer "v", some "\x7d", ⟨3, 9, 36⟩⟩
    parse tokens = .error error ∧ StandsAt error tokens 10 ∧
      ∃! i, StandsAt error tokens i := by
  intro tokens error
  have h : parse tokens = .error error := by decide +kernel
  have hunique := existsUnique_standsAt_of_parse h
  refine ⟨h, ?_, hunique⟩
  -- No other token has the place of the error.
  have hplace : ∀ i < tokens.length + 1, error.place =
      ((tokens[i]?.or tokens.getLast?).map Token.place).getD Place.start → i = 10 := by decide
  obtain ⟨i, hstands, -⟩ := hunique
  rwa [hplace i (Nat.lt_succ_of_le hstands.le_length) hstands.place_eq] at hstands

end TaskRunner
