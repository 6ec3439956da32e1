import TaskRunner.Proofs.Cursor.Following

/-! The parser is safe.  On every list of tokens it comes to an end, with what `parse` returns and
without a breakdown, and wherever it stands on the way its depth is the number of the braces that
are open before it. -/

namespace TaskRunner

open Grammar

/-- So many symbols stand behind tokens that are not past the end of the input. -/
theorem length_symbols_eq_add {tokens : List Token} {i : Nat} (hle : i ≤ tokens.length)
    (hend : ∀ token ∈ tokens.take i, token.kind ≠ .endOfInput) :
    (symbols tokens).length = i + (symbols (tokens.drop i)).length := by
  induction tokens generalizing i with
  | nil =>
    obtain rfl : i = 0 := Nat.le_zero.1 hle
    rfl
  | cons token tokens ih =>
    cases i with
    | zero => simp
    | succ i =>
      rw [List.take_succ_cons] at hend
      obtain ⟨hkind, hrest⟩ := List.forall_mem_cons.1 hend
      obtain ⟨symbol, hsymbol⟩ :=
        Option.ne_none_iff_exists'.1 (fun hnone => hkind (symbol?_eq_none_iff.1 hnone))
      have hsymbols : symbols (token :: tokens) = symbol :: symbols tokens := by
        rw [symbols, hsymbol]
      rw [hsymbols, List.length_cons, List.drop_succ_cons, ih (Nat.le_of_succ_le_succ hle) hrest]
      omega

namespace Cursor

variable {tokens : List Token} {room blocks : Nat} {input : List Symbol} {trail : Trail}

theorem Trail.StandsBefore.index_add (h : trail.StandsBefore tokens input room blocks) :
    (symbols tokens).length = trail.current.index + input.length := by
  rw [← h.symbols_eq]
  exact length_symbols_eq_add h.current_isSound.index_le h.current_isSound.beforeEnd

/-- Before the first token all symbols are left, and there is room for all blocks. -/
theorem standsBefore_start (tokens : List Token) :
    Trail.start.StandsBefore tokens (symbols tokens) maxDepth 0 where
  sound := List.forall_mem_singleton.2 (isSound_start tokens)
  symbols_eq := rfl
  room_eq := Nat.zero_add _
  blocks_eq := rfl

/-- Every sound place is before some input. -/
theorem Trail.IsSound.standsBefore (h : trail.IsSound tokens) :
    trail.StandsBefore tokens (symbols (tokens.drop trail.current.index))
      (maxDepth - trail.current.depth) trail.current.blocks where
  sound := h
  symbols_eq := rfl
  room_eq := Nat.add_sub_cancel' (h _ List.mem_cons_self).depth_le
  blocks_eq := rfl

/-- The parser has ended as the reading of all symbols does. -/
inductive Concludes (tokens : List Token) : Except Stop (List Statement) →
    Option (Except Ending (List Statement) × Trail) → Prop where
  | ok (statements : List Statement) {after : Trail} (h : after.IsSound tokens) :
      Concludes tokens (.ok statements) (some (.ok statements, after))
  | error {stop : Stop} {after : Trail} {left inside : Nat}
      (h : after.StandsBefore tokens stop.unread left inside) :
      Concludes tokens (.error stop)
        (some (.error (.refused (.ofIndex tokens after.current.index stop.expected)), after))

/-- Reading on behind a first statement. -/
theorem Concludes.cons (value : Statement) {reading : Except Stop (List Statement)}
    {move : Move (List Statement)} (h : Concludes tokens reading (move trail)) :
    Concludes tokens (do let more ← reading; return value :: more)
      ((do let more ← move; return value :: more) trail) := by
  generalize hended : move trail = ended at h
  cases h with
  | ok statements hsound =>
    rw [Move.bind_of_ok hended]
    exact .ok (value :: statements) hsound
  | error hstop =>
    rw [Move.bind_of_error hended]
    exact .error hstop

/-- The input is read to its end, or refused where the reading of its symbols stops. -/
theorem concludes_program (h : trail.StandsBefore tokens input room blocks) :
    Concludes tokens (Parse.program room input) (Tokens.program tokens trail) := by
  fun_induction Parse.program room input generalizing trail with
  | case1 =>
    rw [Tokens.program, h.check_pos .endOfInput rfl]
    exact .ok [] h.sound
  | case2 symbol rest ih =>
    have hgoes : nextKind (symbol :: rest) ≠ .endOfInput := by
      unfold nextKind Symbol.kind
      grind
    rw [Tokens.program, h.check_neg .endOfInput hgoes]
    have hfirst := (followsBelow tokens _).statement (Nat.lt_succ_self _) h
    generalize Parse.statement room (symbol :: rest) = reading at hfirst
    generalize hended : Tokens.statement tokens trail = ended at hfirst
    cases hfirst with
    | error hstop =>
      rw [Move.bind_of_error hended]
      exact .error hstop
    | ok value shorter hmiddle =>
      rw [Move.bind_of_ok hended]
      exact (ih ⟨value, _, shorter⟩ hmiddle).cons value

/-- The parser returns what is read of all symbols, or it refuses the input at the index of the
symbol where the reading stops. -/
theorem outcome_cases (tokens : List Token) :
    (∃ (statements : List Statement) (trail : Trail),
      Parse.program maxDepth (symbols tokens) = .ok statements ∧
        parse tokens = .ok statements ∧ outcome tokens = some (.ok statements, trail) ∧
          trail.IsSound tokens) ∨
    ∃ (stop : Stop) (trail : Trail) (error : ParseError),
      Parse.program maxDepth (symbols tokens) = .error stop ∧
        (symbols tokens).length = trail.current.index + stop.unread.length ∧
          error = .ofIndex tokens trail.current.index stop.expected ∧
            parse tokens = .error error ∧ outcome tokens = some (.error (.refused error), trail) ∧
              trail.IsSound tokens := by
  have hends := concludes_program (standsBefore_start tokens)
  rw [outcome, parse]
  generalize Parse.program maxDepth (symbols tokens) = reading at hends ⊢
  generalize Tokens.program tokens Trail.start = ended at hends ⊢
  cases hends with
  | ok statements hsound => exact .inl ⟨statements, _, rfl, rfl, rfl, hsound⟩
  | @error stop after left inside hstop =>
    have hindex := hstop.index_add
    refine .inr ⟨stop, after, _, rfl, hindex, rfl, ?_, rfl, hstop.sound⟩
    dsimp only
    rw [hindex, Nat.add_sub_cancel]

/-- The move comes to an end and does not break down.  All its places are sound, and what is said of
the trail holds if it yields a value. -/
inductive EndsSafely {α : Type} (tokens : List Token) (P : Trail → Prop) :
    Option (Except Ending α × Trail) → Prop where
  | ok (value : α) {after : Trail} (hsound : after.IsSound tokens) (h : P after) :
      EndsSafely tokens P (some (.ok value, after))
  | refused (error : ParseError) {after : Trail} (hsound : after.IsSound tokens) :
      EndsSafely tokens P (some (.error (.refused error), after))

/-- The parser is safe on every list of tokens.  It comes to the end that `parse` tells, without a
breakdown, and wherever it stands on the way its depth is the number of the braces open before it,
at most `maxDepth`, and no more blocks than that are being read.  A statement that is read from any
sound place takes at least one token, none past the end of the input, and leaves the depth as it
was. -/
theorem parser_is_safe (tokens : List Token) :
    (∃ trail : Trail, outcome tokens = some ((parse tokens).mapError .refused, trail) ∧
      trail.IsSound tokens) ∧
    ∀ trail : Trail, trail.IsSound tokens →
      EndsSafely tokens
        (fun after => trail.current.index < after.current.index ∧
          after.current.depth = trail.current.depth)
        (Tokens.statement tokens trail) := by
  refine ⟨?_, fun trail hsound => ?_⟩
  · rcases outcome_cases tokens with
      ⟨statements, trail, -, hparse, houtcome, hsound⟩ |
        ⟨stop, trail, error, -, -, -, hparse, houtcome, hsound⟩ <;>
    · rw [hparse]
      exact ⟨trail, houtcome, hsound⟩
  have hbefore := hsound.standsBefore
  have hends := (followsBelow tokens _).statement (Nat.lt_succ_self _) hbefore
  generalize Parse.statement _ _ = reading at hends
  generalize Tokens.statement tokens trail = ended at hends
  cases hends with
  | error hstop => exact .refused _ hstop.sound
  | ok value shorter hafter =>
    refine .ok value hafter.sound ⟨?_, ?_⟩
    · have hindex := hbefore.index_add
      rw [hafter.index_add] at hindex
      omega
    · have hroom := hbefore.room_eq
      have hroom' := hafter.room_eq
      omega

/-- In an open block, before a run whose block is not closed. -/
theorem parser_is_safe_open_block :
    let tokens : List Token :=
      [⟨.target, "target", ⟨1, 1, 0⟩, 0, .during⟩, ⟨.identifier, "t", ⟨1, 8, 7⟩, 0, .during⟩,
        ⟨.leftBrace, "\x7b", ⟨1, 10, 9⟩, 0, .during⟩, ⟨.run, "run", ⟨1, 12, 11⟩, 1, .during⟩,
        ⟨.leftBrace, "\x7b", ⟨1, 16, 15⟩, 1, .during⟩]
    let trail : Trail := ⟨⟨3, 1, 1⟩, [⟨0, 0, 0⟩]⟩
    trail.IsSound tokens ∧
      EndsSafely tokens (fun after => 3 < after.current.index ∧ after.current.depth = 1)
        (Tokens.statement tokens trail) := by
  intro tokens trail
  have hsound : trail.IsSound tokens :=
    List.forall_mem_cons.2 ⟨⟨by decide, by decide, by decide, by decide, by decide⟩,
      List.forall_mem_singleton.2 (isSound_start tokens)⟩
  exact ⟨hsound, (parser_is_safe tokens).2 trail hsound⟩

end Cursor

end TaskRunner
