import TaskRunner.Proofs.Grammar.Earliest
import TaskRunner.Statement.Cursor

/-! Where the parser stands among the tokens, and what each of its moves finds there. -/

namespace TaskRunner

/-- The kind of the tokens that a symbol stands for. -/
def Symbol.kind : Symbol → Token.Kind
  | .openBrace => .leftBrace
  | .closeBrace => .rightBrace
  | .comma => .comma
  | .config => .config
  | .var => .var
  | .target => .target
  | .run _ => .run
  | .desc => .desc
  | .extend => .extend
  | .script _ => .script
  | .literal (.identifier _) => .identifier
  | .literal (.string _) => .string
  | .literal (.number _) => .number

theorem Token.kind_of_symbol? {token : Token} {symbol : Symbol}
    (h : token.symbol? = some symbol) : token.kind = symbol.kind := by
  obtain ⟨kind, text, place, depth, stage⟩ := token
  cases kind <;> cases h <;> rfl

theorem Token.text_of_literal {token : Token} {value : Literal}
    (h : token.symbol? = some (.literal value)) : token.text = value.value := by
  obtain ⟨kind, text, place, depth, stage⟩ := token
  cases kind <;> cases h <;> rfl

theorem Token.text_of_script {token : Token} {script : String}
    (h : token.symbol? = some (.script script)) : token.text = script := by
  obtain ⟨kind, text, place, depth, stage⟩ := token
  cases kind <;> cases h
  rfl

theorem Token.stage_of_run {token : Token} {stage : Stage}
    (h : token.symbol? = some (.run stage)) : token.stage = stage := by
  obtain ⟨kind, text, place, depth, stage⟩ := token
  cases kind <;> cases h
  rfl

/-- The literal of a symbol. -/
def Symbol.literal? : Symbol → Option Literal
  | .literal value => some value
  | _ => none

theorem Token.literal?_of_symbol? {token : Token} {symbol : Symbol}
    (h : token.symbol? = some symbol) : token.literal? = symbol.literal? := by
  obtain ⟨kind, text, place, depth, stage⟩ := token
  cases kind <;> cases h <;> rfl

namespace Cursor

open Grammar

/-- The tokens before the cursor are none past the end of the input, its depth is the number of the
braces open among them, and neither they nor the blocks being read are too many. -/
structure IsSound (tokens : List Token) (cursor : Cursor) : Prop where
  index_le : cursor.index ≤ tokens.length
  beforeEnd : ∀ token ∈ tokens.take cursor.index, token.kind ≠ .endOfInput
  count_eq : (tokens.take cursor.index).countP (·.kind == .leftBrace) =
    (tokens.take cursor.index).countP (·.kind == .rightBrace) + cursor.depth
  depth_le : cursor.depth ≤ maxDepth
  blocks_le : cursor.blocks ≤ cursor.depth

theorem isSound_start (tokens : List Token) : start.IsSound tokens where
  index_le := Nat.zero_le _
  beforeEnd := by simp [start]
  count_eq := rfl
  depth_le := Nat.zero_le _
  blocks_le := Nat.le_refl _

/-- Behind one more token the cursor is sound if its depth is right again. -/
theorem IsSound.next {tokens : List Token} {cursor : Cursor} (h : cursor.IsSound tokens)
    {token : Token} (htoken : tokens[cursor.index]? = some token)
    (hkind : token.kind ≠ .endOfInput) {depth blocks : Nat}
    (hcount : cursor.depth + [token].countP (·.kind == .leftBrace) =
      [token].countP (·.kind == .rightBrace) + depth)
    (hdepth : depth ≤ maxDepth) (hblocks : blocks ≤ depth) :
    IsSound tokens ⟨cursor.index + 1, depth, blocks⟩ := by
  have htake : tokens.take (cursor.index + 1) = tokens.take cursor.index ++ [token] := by
    rw [List.take_add_one, htoken]
    rfl
  refine ⟨?_, ?_, ?_, hdepth, hblocks⟩
  · exact (List.getElem?_eq_some_iff.1 htoken).1
  · dsimp only
    rw [htake]
    exact List.forall_mem_append.2 ⟨h.beforeEnd, List.forall_mem_singleton.2 hkind⟩
  · have := h.count_eq
    dsimp only
    rw [htake, List.countP_append, List.countP_append]
    omega

/-- All places of the trail are sound. -/
def Trail.IsSound (tokens : List Token) (trail : Trail) : Prop :=
  ∀ cursor ∈ trail.cursors, cursor.IsSound tokens

/-- The parser stands before `input`, may open `room` more braces, and reads the statements of so
many blocks. -/
structure Trail.StandsBefore (tokens : List Token) (input : List Symbol) (room blocks : Nat)
    (trail : Trail) : Prop where
  sound : trail.IsSound tokens
  symbols_eq : symbols (tokens.drop trail.current.index) = input
  room_eq : trail.current.depth + room = maxDepth
  blocks_eq : trail.current.blocks = blocks

/-- The kind that the parser finds before `input`. -/
def nextKind : List Symbol → Token.Kind
  | [] => .endOfInput
  | symbol :: _ => symbol.kind

section

variable {input : List Symbol}

theorem nextKind_ne_leftBrace (h : ∀ rest, input ≠ .openBrace :: rest) :
    nextKind input ≠ .leftBrace := by
  unfold nextKind Symbol.kind
  grind

theorem nextKind_ne_rightBrace (h : ∀ rest, input ≠ .closeBrace :: rest) :
    nextKind input ≠ .rightBrace := by
  unfold nextKind Symbol.kind
  grind

theorem nextKind_ne_comma (h : ∀ rest, input ≠ .comma :: rest) : nextKind input ≠ .comma := by
  unfold nextKind Symbol.kind
  grind

theorem nextKind_ne_run (h : ∀ stage rest, input ≠ .run stage :: rest) :
    nextKind input ≠ .run := by
  unfold nextKind Symbol.kind
  grind

theorem nextKind_ne_string (h : ∀ text rest, input ≠ .literal (.string text) :: rest) :
    nextKind input ≠ .string := by
  unfold nextKind Symbol.kind
  grind

theorem nextKind_ne_identifier (h : ∀ word rest, input ≠ .literal (.identifier word) :: rest) :
    nextKind input ≠ .identifier := by
  unfold nextKind Symbol.kind
  grind

end

/-- Whether a row of entries goes on before `input`, neither with a closing brace nor at the end. -/
def rowGoesOn : List Symbol → Bool
  | [] => false
  | .closeBrace :: _ => false
  | _ => true

namespace Move

variable {α β : Type}

theorem bind_of_ok {move : Move α} {next : α → Move β} {trail after : Trail} {value : α}
    (h : move trail = some (.ok value, after)) : (move >>= next) trail = next value after := by
  show (move trail >>= _) = _
  rw [h]
  rfl

/-- What follows a move depends on what it comes to. -/
theorem bind_congr {move : Move α} {next : α → Move β} {trail other : Trail}
    (h : move trail = move other) : (move >>= next) trail = (move >>= next) other := by
  show (move trail >>= _) = (move other >>= _)
  rw [h]

theorem bind_of_error {move : Move α} {next : α → Move β} {trail after : Trail} {ending : Ending}
    (h : move trail = some (.error ending, after)) :
    (move >>= next) trail = some (.error ending, after) := by
  show (move trail >>= _) = _
  rw [h]
  rfl

end Move

namespace Trail.StandsBefore

open Move Tokens

variable {tokens : List Token} {input rest : List Symbol} {symbol : Symbol} {room blocks : Nat}
  {trail : Trail}

theorem current_isSound (h : trail.StandsBefore tokens input room blocks) :
    trail.current.IsSound tokens :=
  h.sound _ List.mem_cons_self

/-- The token that is next, if the input goes on. -/
theorem exists_token (h : trail.StandsBefore tokens (symbol :: rest) room blocks) :
    ∃ token, tokens[trail.current.index]? = some token ∧ token.symbol? = some symbol ∧
      symbols (tokens.drop (trail.current.index + 1)) = rest := by
  obtain ⟨token, more, hdrop, htoken, hmore⟩ := symbols_eq_cons_iff.1 h.symbols_eq
  refine ⟨token, ?_, htoken, ?_⟩
  · rw [← List.head?_drop, hdrop, List.head?_cons]
  · rw [← List.tail_drop, hdrop, List.tail_cons, hmore]

/-- At the end of the input there is no token, or one of that kind. -/
theorem literal?_of_nil (h : trail.StandsBefore tokens [] room blocks) :
    (tokens[trail.current.index]?.map Token.kind).getD .endOfInput = .endOfInput ∧
      tokens[trail.current.index]?.bind Token.literal? = none := by
  have hend := symbols_eq_nil_iff.1 h.symbols_eq
  rw [tokenAt?, List.getElem?_drop, Nat.add_zero] at hend
  cases htoken : tokens[trail.current.index]? with
  | none => simp
  | some token => simp_all [Option.filter_eq_none_iff, Token.literal?]

theorem kind_apply (h : trail.StandsBefore tokens input room blocks) :
    kind tokens trail = some (.ok (nextKind input), trail) := by
  have hkind : (tokens[trail.current.index]?.map Token.kind).getD .endOfInput =
      nextKind input := by
    cases input with
    | nil => exact h.literal?_of_nil.1
    | cons symbol rest =>
      obtain ⟨token, htoken, hsymbol, -⟩ := h.exists_token
      rw [htoken]
      exact Token.kind_of_symbol? hsymbol
  rw [← hkind]
  rfl

section

variable {α : Type} {move other : Move α}

theorem check_apply (h : trail.StandsBefore tokens input room blocks) (kind : Token.Kind) :
    check tokens kind trail = some (.ok (nextKind input == kind), trail) := by
  rw [check, bind_of_ok h.kind_apply]
  rfl

theorem check_pos (h : trail.StandsBefore tokens input room blocks) (kind : Token.Kind)
    (hkind : nextKind input = kind) :
    (do if ← check tokens kind then move else other) trail = move trail := by
  rw [bind_of_ok (h.check_apply kind), if_pos (beq_iff_eq.2 hkind)]

theorem check_neg (h : trail.StandsBefore tokens input room blocks) (kind : Token.Kind)
    (hkind : nextKind input ≠ kind) :
    (do if ← check tokens kind then move else other) trail = other trail := by
  rw [bind_of_ok (h.check_apply kind), if_neg (by simpa using hkind)]

end

/-- Where the parser goes on to behind one more token. -/
theorem go_apply (h : trail.StandsBefore tokens (symbol :: rest) room blocks)
    (next : Cursor → Cursor) {depth left : Nat}
    (hnext : next trail.current = ⟨trail.current.index + 1, depth, trail.current.blocks⟩)
    (hcount : trail.current.depth + [symbol].count .openBrace =
      [symbol].count .closeBrace + depth)
    (hroom : depth + left = maxDepth) (hblocks : blocks ≤ depth) :
    ∃ after : Trail, go next trail = some (.ok (), after) ∧
      after.StandsBefore tokens rest left blocks := by
  obtain ⟨token, htoken, hsymbol, hrest⟩ := h.exists_token
  have hmap : [token].map Token.symbol? = [symbol].map some := by simp [hsymbol]
  have hkind : token.kind ≠ .endOfInput := by
    rw [Ne, ← symbol?_eq_none_iff, hsymbol]
    exact Option.some_ne_none symbol
  rw [← countP_eq_count hmap symbol?_eq_openBrace_iff,
    ← countP_eq_count hmap symbol?_eq_closeBrace_iff] at hcount
  rw [h.blocks_eq] at hnext
  refine ⟨⟨next trail.current, trail.cursors⟩, rfl, List.forall_mem_cons.2 ⟨?_, h.sound⟩, ?_, ?_,
    ?_⟩
  · rw [hnext]
    exact h.current_isSound.next htoken hkind hcount (by omega) hblocks
  all_goals dsimp only; rw [hnext]
  · exact hrest
  · exact hroom

theorem blocks_le (h : trail.StandsBefore tokens input room blocks) :
    blocks ≤ trail.current.depth := by
  rw [← h.blocks_eq]
  exact h.current_isSound.blocks_le

theorem pass_apply (h : trail.StandsBefore tokens (symbol :: rest) room blocks)
    (hopen : symbol ≠ .openBrace) (hclose : symbol ≠ .closeBrace) :
    ∃ after : Trail, pass trail = some (.ok (), after) ∧
      after.StandsBefore tokens rest room blocks := by
  refine h.go_apply _ rfl ?_ h.room_eq h.blocks_le
  rw [List.count_singleton, List.count_singleton, if_neg (by simpa using hopen),
    if_neg (by simpa using hclose), Nat.add_zero, Nat.zero_add]

/-- Taking a token, where there is one that is no brace. -/
theorem advance_apply (h : trail.StandsBefore tokens (symbol :: rest) room blocks)
    (hopen : symbol ≠ .openBrace) (hclose : symbol ≠ .closeBrace) :
    ∃ token after, token.symbol? = some symbol ∧
      advance tokens trail = some (.ok token, after) ∧
      after.StandsBefore tokens rest room blocks := by
  obtain ⟨token, htoken, hsymbol, -⟩ := h.exists_token
  obtain ⟨after, hpass, hafter⟩ := h.pass_apply hopen hclose
  have hpeek : peek? tokens trail = some (.ok (some token), trail) := by rw [← htoken]; rfl
  refine ⟨token, after, hsymbol, ?_, hafter⟩
  rw [advance, bind_of_ok hpeek]
  exact bind_of_ok hpass

/-- Taking a literal, where there is one. -/
theorem literal_apply {value : Literal}
    (h : trail.StandsBefore tokens (.literal value :: rest) room blocks) :
    ∃ after, literal tokens trail = some (.ok (some value), after) ∧
      after.StandsBefore tokens rest room blocks := by
  obtain ⟨token, htoken, hsymbol, -⟩ := h.exists_token
  obtain ⟨after, hpass, hafter⟩ := h.pass_apply (by simp) (by simp)
  have hpeek : peek? tokens trail = some (.ok (some token), trail) := by rw [← htoken]; rfl
  refine ⟨after, ?_, hafter⟩
  rw [literal, bind_of_ok hpeek, Option.bind_some, Token.literal?_of_symbol? hsymbol]
  exact bind_of_ok hpass

/-- No literal is taken where there is none. -/
theorem literal_apply_none (h : trail.StandsBefore tokens input room blocks)
    (hinput : ∀ value rest, input ≠ .literal value :: rest) :
    literal tokens trail = some (.ok none, trail) := by
  have hnone : tokens[trail.current.index]?.bind Token.literal? = none := by
    cases input with
    | nil => exact h.literal?_of_nil.2
    | cons symbol rest =>
      obtain ⟨token, htoken, hsymbol, -⟩ := h.exists_token
      rw [htoken, Option.bind_some, Token.literal?_of_symbol? hsymbol]
      cases symbol with
      | literal value => exact absurd rfl (hinput value rest)
      | _ => rfl
  have hpeek : peek? tokens trail = some (.ok tokens[trail.current.index]?, trail) := rfl
  rw [literal, bind_of_ok hpeek, hnone]
  rfl

/-- Taking an opening brace, where there is room for it. -/
theorem openBrace_apply (h : trail.StandsBefore tokens (.openBrace :: rest) (room + 1) blocks) :
    ∃ after, openBrace tokens trail = some (.ok (), after) ∧
      after.StandsBefore tokens rest room blocks := by
  have hroom := h.room_eq
  have hblocks := h.blocks_le
  have hdepth : Move.depth trail = some (.ok trail.current.depth, trail) := rfl
  obtain ⟨after, hgo, hafter⟩ :=
    h.go_apply (fun cursor =>
        { cursor with index := cursor.index + 1, depth := cursor.depth + 1 })
      rfl (by simp) (show _ + room = maxDepth by omega) (by omega)
  refine ⟨after, ?_, hafter⟩
  rw [openBrace, h.check_pos .leftBrace rfl, bind_of_ok hdepth, if_neg (by omega)]
  exact hgo

/-- Where a brace is open the depth can be lowered. -/
theorem lowered_apply {outside : Nat} (h : trail.current.depth = outside + 1) :
    lowered trail = some (.ok outside, trail) := by
  have hread : Move.depth trail = some (.ok (outside + 1), trail) := by rw [Move.depth, h]
  rw [lowered, bind_of_ok hread]
  rfl

/-- Taking a closing brace, where one is open. -/
theorem closeBrace_apply (h : trail.StandsBefore tokens (.closeBrace :: rest) room blocks)
    (hblocks : blocks < trail.current.depth) :
    ∃ after, closeBrace tokens trail = some (.ok (), after) ∧
      after.StandsBefore tokens rest (room + 1) blocks := by
  have hroom := h.room_eq
  obtain ⟨outside, hdepth⟩ := Nat.exists_eq_succ_of_ne_zero (Nat.ne_zero_of_lt hblocks)
  obtain ⟨after, hgo, hafter⟩ :=
    h.go_apply (fun cursor => { cursor with index := cursor.index + 1, depth := outside })
      rfl (by simp [hdepth, Nat.add_comm]) (show _ + (room + 1) = maxDepth by omega) (by omega)
  refine ⟨after, ?_, hafter⟩
  rw [closeBrace, h.check_pos .rightBrace rfl, bind_of_ok (lowered_apply hdepth)]
  exact hgo

/-- Taking a name, where there is one. -/
theorem name_apply {word : String} (role : NameRole)
    (h : trail.StandsBefore tokens (.literal (.identifier word) :: rest) room blocks) :
    ∃ after, name tokens role trail = some (.ok word, after) ∧
      after.StandsBefore tokens rest room blocks := by
  obtain ⟨token, after, hsymbol, hadvance, hafter⟩ := h.advance_apply (by simp) (by simp)
  refine ⟨after, ?_, hafter⟩
  rw [name, h.check_pos .identifier rfl, bind_of_ok hadvance, Token.text_of_literal hsymbol]
  rfl

/-- A name is refused where there is none. -/
theorem name_apply_none (role : NameRole) (h : trail.StandsBefore tokens input room blocks)
    (hinput : ∀ word rest, input ≠ .literal (.identifier word) :: rest) :
    name tokens role trail = refuse tokens (.name role) trail := by
  rw [name, h.check_neg .identifier (nextKind_ne_identifier hinput)]

/-- The name of a run, where there is one. -/
theorem name?_apply {word : String}
    (h : trail.StandsBefore tokens (.literal (.identifier word) :: rest) room blocks) :
    ∃ after, name? tokens trail = some (.ok (some word), after) ∧
      after.StandsBefore tokens rest room blocks := by
  obtain ⟨token, after, hsymbol, hadvance, hafter⟩ := h.advance_apply (by simp) (by simp)
  refine ⟨after, ?_, hafter⟩
  rw [name?, h.check_pos .identifier rfl, bind_of_ok hadvance, Token.text_of_literal hsymbol]
  rfl

theorem name?_apply_none (h : trail.StandsBefore tokens input room blocks)
    (hinput : ∀ word rest, input ≠ .literal (.identifier word) :: rest) :
    name? tokens trail = some (.ok none, trail) := by
  rw [name?, h.check_neg .identifier (nextKind_ne_identifier hinput)]
  rfl

theorem goesOn_apply (h : trail.StandsBefore tokens input room blocks) :
    goesOn tokens trail = some (.ok (rowGoesOn input), trail) := by
  rw [goesOn, bind_of_ok (h.check_apply _), bind_of_ok (h.check_apply _)]
  cases input with
  | nil => rfl
  | cons symbol rest =>
    cases symbol with
    | literal value => cases value <;> rfl
    | _ => rfl

/-- No commas are passed by where there is none. -/
theorem skipCommas_apply (h : trail.StandsBefore tokens input room blocks)
    (hinput : ∀ rest, input ≠ .comma :: rest) :
    skipCommas tokens trail = some (.ok (rowGoesOn input), trail) := by
  rw [skipCommas, h.check_neg .comma (nextKind_ne_comma hinput)]
  exact h.goesOn_apply

/-- A row that goes on is read on. -/
theorem skipCommas_pos {α : Type} {move other : Move α}
    (h : trail.StandsBefore tokens input room blocks) (hinput : ∀ rest, input ≠ .comma :: rest)
    (hend : input ≠ []) (hclose : ∀ rest, input ≠ .closeBrace :: rest) :
    (do if ← skipCommas tokens then move else other) trail = move trail := by
  have hgoes : rowGoesOn input = true := by
    unfold rowGoesOn
    grind
  rw [bind_of_ok (h.skipCommas_apply hinput), if_pos hgoes]

/-- A row that does not go on is read no further. -/
theorem skipCommas_neg {α : Type} {move other : Move α}
    (h : trail.StandsBefore tokens input room blocks) (hinput : ∀ rest, input ≠ .comma :: rest)
    (hgoes : rowGoesOn input = false) :
    (do if ← skipCommas tokens then move else other) trail = other trail := by
  rw [bind_of_ok (h.skipCommas_apply hinput), if_neg (by simp [hgoes])]

/-- A comma is passed by. -/
theorem skipCommas_comma (h : trail.StandsBefore tokens (.comma :: rest) room blocks) :
    ∃ after, skipCommas tokens trail = skipCommas tokens after ∧
      after.StandsBefore tokens rest room blocks := by
  obtain ⟨after, hpass, hafter⟩ := h.pass_apply (by simp) (by simp)
  refine ⟨after, ?_, hafter⟩
  conv_lhs => rw [skipCommas]
  rw [h.check_pos .comma rfl, bind_of_ok hpass]

theorem enter_apply (h : trail.StandsBefore tokens input room blocks)
    (hblocks : blocks < trail.current.depth) :
    ∃ after, enter trail = some (.ok (), after) ∧
      after.StandsBefore tokens input room (blocks + 1) := by
  refine ⟨_, rfl, List.forall_mem_cons.2 ⟨?_, h.sound⟩, h.symbols_eq, h.room_eq, ?_⟩
  · refine { h.current_isSound with blocks_le := ?_ }
    dsimp only
    rw [h.blocks_eq]
    exact hblocks
  · dsimp only
    rw [h.blocks_eq]

theorem leave_apply (h : trail.StandsBefore tokens input room (blocks + 1)) :
    ∃ after, leave trail = some (.ok (), after) ∧
      after.StandsBefore tokens input room blocks := by
  refine ⟨_, rfl, List.forall_mem_cons.2 ⟨?_, h.sound⟩, h.symbols_eq, h.room_eq, ?_⟩
  · refine { h.current_isSound with blocks_le := ?_ }
    exact Nat.le_trans (Nat.sub_le _ _) h.current_isSound.blocks_le
  · dsimp only
    rw [h.blocks_eq, Nat.add_sub_cancel]

end Trail.StandsBefore

end Cursor

end TaskRunner
