import TaskRunner.Proofs.Cursor.Standing
import TaskRunner.Proofs.Grammar.Reading

/-! The parser does among the tokens what the readings of their symbols say.  Each of its moves
comes to an end: it yields the value that is read and stands before what is left, or it refuses the
input where the reading stops. -/

namespace TaskRunner.Cursor

open Move Tokens

variable {α β : Type}

/-- A move has ended as the reading does.  After a success so much room is left, and the statements
of so many blocks are being read. -/
inductive Follows (tokens : List Token) (room blocks : Nat) {input : List Symbol} :
    Reading α input → Option (Except Ending α × Trail) → Prop where
  | ok (value : α) {rest : List Symbol} (shorter : rest.length < input.length) {after : Trail}
      (h : after.StandsBefore tokens rest room blocks) :
      Follows tokens room blocks (.ok ⟨value, rest, shorter⟩) (some (.ok value, after))
  | error {stop : Stop} {after : Trail} {left inside : Nat}
      (h : after.StandsBefore tokens stop.unread left inside) :
      Follows tokens room blocks (.error stop)
        (some (.error (.refused (.ofIndex tokens after.current.index stop.expected)), after))

section

variable {tokens : List Token} {room blocks left inside : Nat} {input other : List Symbol}
  {trail : Trail}

theorem follows_refuse (expected : Expectation)
    (h : trail.StandsBefore tokens input left inside) :
    Follows tokens room blocks (.error ⟨expected, input⟩ : Reading α other)
      (refuse tokens expected trail) :=
  .error h

/-- Two moves one after the other. -/
theorem Follows.bind {first : Reading β other} {next : Parsed β other → Reading α input}
    {move : Move β} {after : β → Move α} (h : Follows tokens left inside first (move trail))
    (hnext : ∀ parsed middle, Trail.StandsBefore tokens parsed.rest left inside middle →
      Follows tokens room blocks (next parsed) (after parsed.value middle)) :
    Follows tokens room blocks (first >>= next) ((move >>= after) trail) := by
  generalize hended : move trail = ended at h
  cases h with
  | ok value shorter hmiddle =>
    rw [bind_of_ok hended]
    exact hnext ⟨value, _, shorter⟩ _ hmiddle
  | error hstop =>
    rw [bind_of_error hended]
    exact .error hstop

/-- An opening brace and what follows it. -/
theorem follows_opening_bind {next : Parsed Nat other → Reading α input} {after : Move α}
    (h : trail.StandsBefore tokens other left inside)
    (hnext : ∀ opened middle, left = opened.value + 1 →
      Trail.StandsBefore tokens opened.rest opened.value inside middle →
        Follows tokens room blocks (next opened) (after middle)) :
    Follows tokens room blocks (Parse.opening left other >>= next)
      ((openBrace tokens >>= fun _ => after) trail) := by
  unfold Parse.opening
  split
  next rest =>
    split
    next =>
      have hdeep : openBrace tokens trail = refuse tokens .shallowerBlock trail := by
        have hroom := h.room_eq
        have hdepth : Move.depth trail = some (.ok trail.current.depth, trail) := rfl
        rw [openBrace, h.check_pos .leftBrace rfl, bind_of_ok hdepth, if_pos (by omega)]
      rw [bind_of_error hdeep]
      exact follows_refuse .shallowerBlock h
    next inner =>
      obtain ⟨middle, hopen, hmiddle⟩ := h.openBrace_apply
      rw [bind_of_ok hopen]
      exact hnext ⟨inner, rest, by simp⟩ middle rfl hmiddle
  next hother =>
    have hnone : openBrace tokens trail = refuse tokens .openBrace trail := by
      rw [openBrace, h.check_neg .leftBrace (nextKind_ne_leftBrace hother)]
    rw [bind_of_error hnone]
    exact follows_refuse .openBrace h

theorem follows_closing (h : trail.StandsBefore tokens input room blocks)
    (hroom : blocks + room < maxDepth) :
    Follows tokens (room + 1) blocks (Parse.closing input) (closeBrace tokens trail) := by
  unfold Parse.closing
  split
  next rest =>
    obtain ⟨after, hclose, hafter⟩ := h.closeBrace_apply (by have := h.room_eq; omega)
    rw [hclose]
    exact .ok () _ hafter
  next hother =>
    rw [closeBrace, h.check_neg .rightBrace (nextKind_ne_rightBrace hother)]
    exact follows_refuse .closeBrace h

/-- The closing brace where a row of entries ends, and the end of the input in its place. -/
theorem closeBrace_bind_of_nil {after : Move α} (h : trail.StandsBefore tokens [] room blocks) :
    (closeBrace tokens >>= fun _ => after) trail = refuse tokens .closeBrace trail := by
  have hnone : closeBrace tokens trail = refuse tokens .closeBrace trail := by
    rw [closeBrace, h.check_neg .rightBrace (by decide)]
  exact bind_of_error hnone

/-- What is read behind a comma is all that is read. -/
theorem Follows.widen {reading : Reading α input} {ended : Option (Except Ending α × Trail)}
    (h : Follows tokens room blocks reading ended) (hle : input.length ≤ other.length) :
    Follows tokens room blocks
      (do let more ← reading; return more.widen hle : Reading α other) ended := by
  cases h with
  | ok value shorter hafter => exact .ok value _ hafter
  | error hstop => exact .error hstop

theorem follows_descriptions (h : trail.StandsBefore tokens input room blocks)
    (hroom : blocks + room < maxDepth) :
    Follows tokens (room + 1) blocks (Parse.descriptions input) (descriptions tokens trail) := by
  fun_induction Parse.descriptions input generalizing trail with
  | case1 =>
    rw [descriptions, h.skipCommas_neg (by simp) rfl, closeBrace_bind_of_nil h]
    exact follows_refuse .closeBrace h
  | case2 rest =>
    obtain ⟨after, hclose, hafter⟩ := h.closeBrace_apply (by have := h.room_eq; omega)
    rw [descriptions, h.skipCommas_neg (by simp) rfl, bind_of_ok hclose]
    exact .ok [] _ hafter
  | case3 rest ih =>
    obtain ⟨after, hskip, hafter⟩ := h.skipCommas_comma
    have hrest := ih hafter
    rw [descriptions] at hrest ⊢
    rw [bind_congr hskip]
    exact hrest.widen _
  | case4 text rest ih =>
    obtain ⟨token, after, hsymbol, hadvance, hafter⟩ := h.advance_apply (by simp) (by simp)
    rw [descriptions, h.skipCommas_pos (by simp) (by simp) (by simp), h.check_pos .string rfl,
      bind_of_ok hadvance, Token.text_of_literal hsymbol]
    exact (ih hafter).bind fun more middle hmiddle => .ok (text :: more.value) _ hmiddle
  | case5 other hnil hclose hcomma hstring =>
    rw [descriptions, h.skipCommas_pos hcomma hnil hclose,
      h.check_neg .string (nextKind_ne_string hstring)]
    exact follows_refuse .description h

theorem follows_paths (h : trail.StandsBefore tokens input room blocks)
    (hroom : blocks + room < maxDepth) :
    Follows tokens (room + 1) blocks (Parse.paths input) (paths tokens trail) := by
  fun_induction Parse.paths input generalizing trail with
  | case1 =>
    rw [paths, h.skipCommas_neg (by simp) rfl, closeBrace_bind_of_nil h]
    exact follows_refuse .closeBrace h
  | case2 rest =>
    obtain ⟨after, hclose, hafter⟩ := h.closeBrace_apply (by have := h.room_eq; omega)
    rw [paths, h.skipCommas_neg (by simp) rfl, bind_of_ok hclose]
    exact .ok [] _ hafter
  | case3 rest ih =>
    obtain ⟨after, hskip, hafter⟩ := h.skipCommas_comma
    have hrest := ih hafter
    rw [paths] at hrest ⊢
    rw [bind_congr hskip]
    exact hrest.widen _
  | case4 path rest ih =>
    obtain ⟨after, hliteral, hafter⟩ := h.literal_apply
    rw [paths, h.skipCommas_pos (by simp) (by simp) (by simp), bind_of_ok hliteral]
    exact (ih hafter).bind fun more _ hmiddle => .ok (path :: more.value) _ hmiddle
  | case5 other hnil hclose hcomma hliteral =>
    rw [paths, h.skipCommas_pos hcomma hnil hclose, bind_of_ok (h.literal_apply_none hliteral)]
    exact follows_refuse .path h

end

/-! ### Statements -/

/-- The parser follows the readings of inputs of fewer than `n` symbols. -/
structure FollowsBelow (tokens : List Token) (n : Nat) : Prop where
  statement {room blocks : Nat} {input : List Symbol} {trail : Trail} : input.length < n →
    trail.StandsBefore tokens input room blocks →
      Follows tokens room blocks (Parse.statement room input) (statement tokens trail)
  run {room blocks : Nat} {stage : Stage} {input : List Symbol} {trail : Trail} :
    input.length < n → trail.StandsBefore tokens (.run stage :: input) room blocks →
      Follows tokens room blocks (Parse.run room stage input) (run tokens trail)
  statements {room blocks : Nat} {input : List Symbol} {trail : Trail} : input.length < n →
    trail.StandsBefore tokens input room (blocks + 1) →
      Follows tokens (room + 1) blocks (Parse.statements room input) (statements tokens trail)
  bindings {room blocks : Nat} {role : NameRole} {input : List Symbol} {trail : Trail} :
    input.length < n → trail.StandsBefore tokens input room blocks → blocks + room < maxDepth →
      Follows tokens (room + 1) blocks (Parse.bindings room role input)
        (bindings tokens role trail)
  initializer {room blocks : Nat} {name : String} {input : List Symbol} {trail : Trail} :
    input.length < n → trail.StandsBefore tokens input room blocks →
      Follows tokens room blocks (Parse.initializer room name input)
        (initializer tokens name trail)

theorem FollowsBelow.mono {tokens : List Token} {m n : Nat} (h : FollowsBelow tokens n)
    (hmn : m ≤ n) : FollowsBelow tokens m where
  statement hlt := h.statement (Nat.lt_of_lt_of_le hlt hmn)
  run hlt := h.run (Nat.lt_of_lt_of_le hlt hmn)
  statements hlt := h.statements (Nat.lt_of_lt_of_le hlt hmn)
  bindings hlt := h.bindings (Nat.lt_of_lt_of_le hlt hmn)
  initializer hlt := h.initializer (Nat.lt_of_lt_of_le hlt hmn)

section Steps

variable {tokens : List Token} {room blocks : Nat} {input : List Symbol} {trail : Trail}

theorem follows_block (ih : FollowsBelow tokens input.length)
    (h : trail.StandsBefore tokens input room blocks) :
    Follows tokens room blocks (Parse.block room input) (block tokens trail) := by
  rw [Parse.block, block]
  refine follows_opening_bind h fun opened middle hroom hmiddle => ?_
  subst hroom
  have hbound := h.blocks_le
  have hbefore := h.room_eq
  have hopened := hmiddle.room_eq
  have hinner : middle.current.depth = trail.current.depth + 1 := by omega
  obtain ⟨inside, henter, hinside⟩ := hmiddle.enter_apply (by omega)
  rw [bind_of_ok (Trail.StandsBefore.lowered_apply hinner),
    bind_of_ok henter]
  refine (ih.statements opened.shorter hinside).bind fun body after hafter => ?_
  have hclosed := hafter.room_eq
  have hdepth : Move.depth after = some (.ok after.current.depth, after) := rfl
  rw [bind_of_ok hdepth, if_pos (by omega)]
  exact .ok body.value _ hafter

/-- A word and a row of entries between braces. -/
theorem follows_braced {symbol : Symbol} {rest : List Symbol}
    (h : trail.StandsBefore tokens (symbol :: rest) room blocks) (hopen : symbol ≠ .openBrace)
    (hclose : symbol ≠ .closeBrace) {next : Parsed Nat rest → Reading α input} {after : Move α}
    (hnext : ∀ opened middle, room = opened.value + 1 → blocks + opened.value < maxDepth →
      Trail.StandsBefore tokens opened.rest opened.value blocks middle →
        Follows tokens room blocks (next opened) (after middle)) :
    Follows tokens room blocks (Parse.opening room rest >>= next)
      ((do let _ ← advance tokens; openBrace tokens; after) trail) := by
  obtain ⟨_, passed, -, hadvance, hpassed⟩ := h.advance_apply hopen hclose
  rw [bind_of_ok hadvance]
  refine follows_opening_bind hpassed fun opened middle hroom hmiddle => ?_
  have hbound := h.blocks_le
  have hbefore := h.room_eq
  exact hnext opened middle hroom (by omega) hmiddle

theorem follows_statement (ih : FollowsBelow tokens input.length)
    (h : trail.StandsBefore tokens input room blocks) :
    Follows tokens room blocks (Parse.statement room input) (statement tokens trail) := by
  rw [Parse.statement.eq_def, statement, bind_of_ok h.kind_apply]
  split
  next rest =>
    refine follows_braced h (by simp) (by simp) fun opened middle hroom hbound hmiddle => ?_
    subst hroom
    refine (ih.bindings (Nat.lt_succ_of_lt opened.shorter) hmiddle hbound).bind
      fun items last hlast => ?_
    exact .ok (Statement.config items.value) _ hlast
  next rest =>
    refine follows_braced h (by simp) (by simp) fun opened middle hroom hbound hmiddle => ?_
    subst hroom
    refine (ih.bindings (Nat.lt_succ_of_lt opened.shorter) hmiddle hbound).bind
      fun items last hlast => ?_
    exact .ok (Statement.var items.value) _ hlast
  next word rest =>
    obtain ⟨_, passed, -, hadvance, hpassed⟩ := h.advance_apply (by simp) (by simp)
    obtain ⟨named, hname, hnamed⟩ := hpassed.name_apply .target
    show Follows _ _ _ _ ((advance tokens >>= _) trail)
    rw [bind_of_ok hadvance, bind_of_ok hname]
    have hblock := follows_block (ih.mono (by simp only [List.length_cons]; omega)) hnamed
    exact hblock.bind fun body last hlast => .ok (Statement.target word body.value) _ hlast
  next rest hname =>
    obtain ⟨_, passed, -, hadvance, hpassed⟩ := h.advance_apply (by simp) (by simp)
    show Follows _ _ _ _ ((advance tokens >>= _) trail)
    rw [bind_of_ok hadvance, bind_of_error (hpassed.name_apply_none .target hname)]
    exact follows_refuse (.name .target) hpassed
  next stage rest =>
    exact (ih.run (Nat.lt_succ_self _) h).bind fun run last hlast =>
      .ok (Statement.run run.value) _ hlast
  next rest =>
    refine follows_braced h (by simp) (by simp) fun opened middle hroom hbound hmiddle => ?_
    subst hroom
    exact (follows_descriptions hmiddle hbound).bind fun lines last hlast =>
      .ok (Statement.describe lines.value) _ hlast
  next rest =>
    refine follows_braced h (by simp) (by simp) fun opened middle hroom hbound hmiddle => ?_
    subst hroom
    exact (follows_paths hmiddle hbound).bind fun entries last hlast =>
      .ok (Statement.extend entries.value) _ hlast
  next text rest =>
    obtain ⟨token, after, hsymbol, hadvance, hafter⟩ := h.advance_apply (by simp) (by simp)
    show Follows _ _ _ _ ((advance tokens >>= _) trail)
    rw [bind_of_ok hadvance, Token.text_of_script hsymbol]
    exact .ok (Statement.action text) _ hafter
  next value rest =>
    obtain ⟨after, hliteral, hafter⟩ := h.literal_apply
    cases value <;>
      · show Follows _ _ _ _ ((literal tokens >>= _) trail)
        rw [bind_of_ok hliteral]
        exact .ok (Statement.literal _) _ hafter
  next hconfig hvar htarget htarget' hrun hdesc hextend hscript hliteral =>
    have hnone := h.literal_apply_none hliteral
    have hrefused {next : Option Literal → Move Statement}
        (hnext : next none = refuse tokens .statement) :
        Follows tokens room blocks (.error ⟨.statement, input⟩ : Reading Statement input)
          ((literal tokens >>= next) trail) := by
      rw [bind_of_ok hnone, hnext]
      exact follows_refuse .statement h
    -- What is left are the end of the input, braces and commas.
    cases input with
    | nil => exact hrefused rfl
    | cons symbol rest => cases symbol <;> first | exact hrefused rfl | simp_all

/-- The block that a run may have, behind its name. -/
theorem follows_runBody_bind {rest : List Symbol} {name : Option String}
    {next : Parsed (List Statement) (.openBrace :: rest) → Reading α input}
    {after : List Statement → Move α} (ih : FollowsBelow tokens (rest.length + 1))
    (h : trail.StandsBefore tokens (.openBrace :: rest) room blocks)
    (hnext : ∀ body middle, Trail.StandsBefore tokens body.rest room blocks middle →
      Follows tokens room blocks (next body) (after body.value middle)) :
    Follows tokens room blocks (Parse.block room (.openBrace :: rest) >>= next)
      ((runBody tokens name >>= after) trail) := by
  refine Follows.bind ?_ hnext
  rw [runBody, h.check_pos .leftBrace rfl]
  exact follows_block ih h

theorem follows_run {stage : Stage} (ih : FollowsBelow tokens input.length)
    (h : trail.StandsBefore tokens (.run stage :: input) room blocks) :
    Follows tokens room blocks (Parse.run room stage input) (run tokens trail) := by
  obtain ⟨token, passed, hsymbol, hadvance, hpassed⟩ := h.advance_apply (by simp) (by simp)
  rw [Parse.run.eq_def, run, bind_of_ok hadvance, Token.stage_of_run hsymbol]
  split
  next word rest =>
    obtain ⟨named, hname, hnamed⟩ := hpassed.name?_apply
    rw [bind_of_ok hname]
    exact follows_runBody_bind (ih.mono (by simp)) hnamed fun body last hlast =>
      .ok (Run.mk (some word) body.value stage) _ hlast
  next word rest hblock =>
    obtain ⟨named, hname, hnamed⟩ := hpassed.name?_apply
    have hbody : runBody tokens (some word) named = some (.ok [], named) := by
      rw [runBody, hnamed.check_neg .leftBrace (nextKind_ne_leftBrace hblock)]
      rfl
    rw [bind_of_ok hname, bind_of_ok hbody]
    exact .ok (Run.mk (some word) [] stage) _ hnamed
  next rest =>
    rw [bind_of_ok (hpassed.name?_apply_none (by simp))]
    exact follows_runBody_bind ih hpassed fun body last hlast =>
      .ok (Run.mk none body.value stage) _ hlast
  next hblock hname hopen =>
    have hbody : runBody tokens none passed = refuse tokens .runBlock passed := by
      rw [runBody, hpassed.check_neg .leftBrace (nextKind_ne_leftBrace hopen)]
      rfl
    rw [bind_of_ok (hpassed.name?_apply_none hname), bind_of_error hbody]
    exact follows_refuse .runBlock hpassed

theorem follows_statements (ih : FollowsBelow tokens input.length)
    (h : trail.StandsBefore tokens input room (blocks + 1)) :
    Follows tokens (room + 1) blocks (Parse.statements room input) (statements tokens trail) := by
  have hgoesOn (move : Move (List Statement)) (hgoes : rowGoesOn input = true) :
      (do if ← goesOn tokens then move else do leave; closeBrace tokens; return []) trail =
        move trail := by
    rw [bind_of_ok h.goesOn_apply, if_pos hgoes]
  have hends (move : Move (List Statement)) (hgoes : rowGoesOn input = false) :
      (do if ← goesOn tokens then move else do leave; closeBrace tokens; return []) trail =
        (do leave; closeBrace tokens; return []) trail := by
    rw [bind_of_ok h.goesOn_apply, if_neg (by simp [hgoes])]
  have hbound := h.blocks_le
  obtain ⟨outside, hleave, houtside⟩ := h.leave_apply
  rw [Parse.statements.eq_def, statements]
  split
  next =>
    rw [hends _ rfl, bind_of_ok hleave, closeBrace_bind_of_nil houtside]
    exact follows_refuse .closeBrace houtside
  next rest =>
    have hbefore := h.room_eq
    have hbeyond := houtside.room_eq
    obtain ⟨after, hclose, hafter⟩ := houtside.closeBrace_apply (by omega)
    rw [hends _ rfl, bind_of_ok hleave, bind_of_ok hclose]
    exact .ok [] _ hafter
  next symbol rest hclose =>
    rw [hgoesOn _ (by unfold rowGoesOn; grind)]
    refine (follows_statement ih h).bind fun first middle hmiddle => ?_
    exact (ih.statements first.shorter hmiddle).bind fun more last hlast =>
      .ok (first.value :: more.value) _ hlast

theorem follows_initializer {name : String} (ih : FollowsBelow tokens input.length)
    (h : trail.StandsBefore tokens input room blocks) :
    Follows tokens room blocks (Parse.initializer room name input)
      (initializer tokens name trail) := by
  rw [Parse.initializer.eq_def, initializer]
  split
  next value rest =>
    obtain ⟨after, hliteral, hafter⟩ := h.literal_apply
    rw [bind_of_ok hliteral]
    exact .ok (Statement.literal value) _ hafter
  next rest =>
    rw [bind_of_ok (h.literal_apply_none (by simp))]
    dsimp only
    rw [h.check_pos .leftBrace rfl]
    refine follows_opening_bind h fun opened middle hroom hmiddle => ?_
    subst hroom
    have hbound := h.blocks_le
    have hbefore := h.room_eq
    split
    next stage rest' hrest =>
      have hshorter := opened.shorter
      rw [hrest] at hmiddle hshorter
      rw [hmiddle.check_pos .run rfl]
      refine (ih.run (Nat.lt_of_succ_lt hshorter) hmiddle).bind fun run after hafter => ?_
      exact (follows_closing hafter (by omega)).bind fun close last hlast =>
        .ok (Statement.run run.value) _ hlast
    next left hrest =>
      rw [hmiddle.check_neg .run (nextKind_ne_run hrest)]
      exact follows_refuse (.initializer name) hmiddle
  next hliteral hopen =>
    rw [bind_of_ok (h.literal_apply_none hliteral)]
    dsimp only
    rw [h.check_neg .leftBrace (nextKind_ne_leftBrace hopen)]
    exact follows_refuse (.initializer name) h

theorem follows_bindings {role : NameRole} (ih : FollowsBelow tokens input.length)
    (h : trail.StandsBefore tokens input room blocks) (hroom : blocks + room < maxDepth) :
    Follows tokens (room + 1) blocks (Parse.bindings room role input)
      (bindings tokens role trail) := by
  rw [Parse.bindings.eq_def, bindings]
  split
  next =>
    rw [h.skipCommas_neg (by simp) rfl, closeBrace_bind_of_nil h]
    exact follows_refuse .closeBrace h
  next rest =>
    obtain ⟨after, hclose, hafter⟩ := h.closeBrace_apply (by have := h.room_eq; omega)
    rw [h.skipCommas_neg (by simp) rfl, bind_of_ok hclose]
    exact .ok [] _ hafter
  next rest =>
    obtain ⟨after, hskip, hafter⟩ := h.skipCommas_comma
    have hrest : Follows tokens (room + 1) blocks (Parse.bindings room role rest)
        (bindings tokens role after) := ih.bindings (by simp) hafter hroom
    rw [bindings] at hrest
    rw [bind_congr hskip]
    exact hrest.widen _
  next word rest =>
    obtain ⟨named, hname, hnamed⟩ := h.name_apply role
    rw [h.skipCommas_pos (by simp) (by simp) (by simp), bind_of_ok hname]
    refine (ih.initializer (by simp) hnamed).bind fun value middle hmiddle => ?_
    exact (ih.bindings (Nat.lt_succ_of_lt value.shorter) hmiddle hroom).bind fun more last hlast =>
      .ok (Binding.mk word value.value :: more.value) _ hlast
  next hnil hclose hcomma hname =>
    rw [h.skipCommas_pos hcomma hnil hclose, bind_of_error (h.name_apply_none role hname)]
    exact follows_refuse (.name role) h

end Steps

theorem followsBelow (tokens : List Token) (n : Nat) : FollowsBelow tokens n := by
  induction n with
  | zero => constructor <;> intros <;> contradiction
  | succ n ih =>
    have below {input : List Symbol} (h : input.length < n + 1) :
        FollowsBelow tokens input.length :=
      ih.mono (Nat.le_of_lt_succ h)
    exact
      { statement := fun hlt => follows_statement (below hlt)
        run := fun hlt => follows_run (below hlt)
        statements := fun hlt => follows_statements (below hlt)
        bindings := fun hlt => follows_bindings (below hlt)
        initializer := fun hlt => follows_initializer (below hlt) }

end TaskRunner.Cursor
