import TaskRunner.Proofs.Scan.Readable
import TaskRunner.Proofs.Scan.Symbols

/-! Where tokens stand.  The tokens of a source text lie on it like tiles: each owns a stretch of
characters that it can be read off, no shorter than it may be, they follow one another in the order
of the text, and between them stand white space, comments and blank scripts only.  The place of a
token is that of the first character of its stretch. -/

namespace TaskRunner

/-! ### Places -/

/-- The place behind `front`, with `skipped` before it, which counts for the offset only. -/
def Place.behind (skipped front : List Char) : Place where
  line := 1 + front.count '\n'
  column := 1 + (front.reverse.takeWhile (· != '\n')).length
  offset := (String.ofList (skipped ++ front)).utf8ByteSize

theorem utf8ByteSize_ofList_append (front text : List Char) :
    (String.ofList (front ++ text)).utf8ByteSize =
      (String.ofList front).utf8ByteSize + (String.ofList text).utf8ByteSize := by
  rw [String.ofList_append, String.utf8ByteSize_append]

theorem utf8ByteSize_ofList_singleton (c : Char) :
    (String.ofList [c]).utf8ByteSize = c.utf8Size := by
  rw [← String.singleton_eq_ofList, String.utf8ByteSize_singleton]

namespace Place

theorem next_behind (skipped front : List Char) (c : Char) :
    (behind skipped front).next c = behind skipped (front ++ [c]) := by
  have hoffset : (String.ofList (skipped ++ (front ++ [c]))).utf8ByteSize =
      (String.ofList (skipped ++ front)).utf8ByteSize + c.utf8Size := by
    rw [← List.append_assoc, utf8ByteSize_ofList_append _ [c], utf8ByteSize_ofList_singleton]
  unfold next behind
  rw [hoffset]
  by_cases hc : c = '\n'
  · subst hc
    simp [Nat.add_assoc]
  · simp [hc, List.count_append, Nat.add_comm]

theorem after_behind (skipped front text : List Char) :
    (behind skipped front).after text = behind skipped (front ++ text) := by
  induction text generalizing front with
  | nil => simp
  | cons c text ih =>
    rw [after_cons, next_behind, ih, List.append_assoc]
    rfl

end Place

/-! ### Tiles -/

/-- The text can be that of a token of the kind, where the token's text is spelled as it stands. -/
def Token.Kind.Spells (kind : Token.Kind) (stage : Stage) (text : List Char) : Prop :=
  match kind with
  | .leftBrace => text = ['\x7b']
  | .rightBrace => text = ['\x7d']
  | .comma => text = [',']
  | .number => text ≠ [] ∧ ∀ c ∈ text, c.isDigit = true
  | _ =>
    (∃ c cs, text = c :: cs ∧ isWordStart c = true) ∧ (∀ c ∈ text, isWordChar c = true) ∧
      classifyWord text = (kind, stage)

/-- The token is what is read off a stretch of the source.  Text stands in quotes that it does not
hold itself; a script is what is left of its stretch without the white space at the ends, and no
brace of the stretch closes more than the stretch opened. -/
def Token.Owns (token : Token) (owned : List Char) : Prop :=
  match token.kind with
  | .string => ∃ quote, isQuote quote = true ∧ quote ∉ token.text.toList ∧
      owned = quote :: token.text.toList ++ [quote]
  | .script => token.text.toList = trim owned ∧ token.text ≠ "" ∧ StaysOpen 0 owned
  | .endOfInput => token.text = "" ∧ owned = []
  | kind => owned = token.text.toList ∧ kind.Spells token.stage owned

/-- A token of the kind may end before `rest`: a number goes on as long as there are digits, and a
word as long as there are characters of words. -/
def Token.Kind.EndsBefore (kind : Token.Kind) (rest : List Char) : Prop :=
  match kind with
  | .leftBrace | .rightBrace | .comma | .string | .script | .endOfInput => True
  | .number => ∀ c ∈ rest.head?, c.isDigit = false
  | _ => ∀ c ∈ rest.head?, isWordChar c = false

/-- A token of any kind may end where a word has to. -/
theorem Token.Kind.endsBefore_of_isWordChar (kind : Token.Kind) {rest : List Char}
    (h : ∀ c ∈ rest.head?, isWordChar c = false) : kind.EndsBefore rest := by
  cases kind with
  | number =>
    refine fun c hc => Bool.eq_false_iff.2 fun hdigit => ?_
    exact Bool.noConfusion ((h c hc).symm.trans (isWordChar_of_isDigit hdigit))
  | leftBrace | rightBrace | comma | string | script | endOfInput => trivial
  | _ => exact h

/-- A stretch that belongs to no token, with `rest` after it: white space, and comments up to the
end of their lines. -/
inductive IsGap : List Char → List Char → Prop where
  | nil (rest : List Char) : IsGap [] rest
  | space {c : Char} {gap rest : List Char} (hspace : isSpace c = true) (more : IsGap gap rest) :
      IsGap (c :: gap) rest
  | comment {text gap rest : List Char} (inside : '\n' ∉ text)
      (ends : ∀ c ∈ (gap ++ rest).head?, c = '\n') (more : IsGap gap rest) :
      IsGap ('#' :: text ++ gap) rest

/-- A token with the stretch of the source that it owns and the one before it that belongs to no
token. -/
structure Tile where
  gap : List Char
  token : Token
  owned : List Char

namespace Tile

/-- The characters of the source that the tile covers. -/
def text (tile : Tile) : List Char :=
  tile.gap ++ tile.owned

/-- The tiles begin with one of the kind, without a gap. -/
def Begin (kind : Token.Kind) (tiles : List Tile) : Prop :=
  ∃ tile more, tiles = tile :: more ∧ tile.gap = [] ∧ tile.token.kind = kind

/-- The gap may lie between a token of the kind `last` and one of the kind `next`, with which `rest`
begins.  Behind the brace that opens a block, a blank script is a gap as well. -/
def Separates (last : Option Token.Kind) (gap : List Char) (next : Token.Kind)
    (rest : List Char) : Prop :=
  IsGap gap rest ∨ last = some .leftBrace ∧ isBlankText gap = true ∧
    (next = .rightBrace ∨ next = .endOfInput)

/-- The tile lies behind `front`, after a token of the kind `last` and before the tiles `more`.  A
script begins right behind the brace that opens its block, and goes on to the one that closes the
block or else to the end of the source. -/
structure Fits (skipped front : List Char) (last : Option Token.Kind) (tile : Tile)
    (more : List Tile) : Prop where
  goesOn : last ≠ some .endOfInput
  place : tile.token.place = Place.behind skipped (front ++ tile.gap)
  owned : tile.token.Owns tile.owned
  ends : tile.token.kind.EndsBefore (more.flatMap text)
  gap : Separates last tile.gap tile.token.kind (tile.owned ++ more.flatMap text)
  script : tile.token.kind = .script → last = some .leftBrace ∧ tile.gap = [] ∧
    (ClosesAll 0 tile.owned ∧ Begin .rightBrace more ∨ Begin .endOfInput more)

/-- The tile with `piece` before its gap. -/
def widen (piece : List Char) (tile : Tile) : Tile :=
  { tile with gap := piece ++ tile.gap }

end Tile

/-- The tiles lie one behind another, the first of them behind `front` and after a token of the kind
`last`.  The last one is the end of the input. -/
def IsTiling (skipped : List Char) : List Char → Option Token.Kind → List Tile → Prop
  | _, last, [] => last = some .endOfInput
  | front, last, tile :: more =>
    tile.Fits skipped front last more ∧
      IsTiling skipped (front ++ tile.text) (some tile.token.kind) more

/-! ### The tiles of lexemes -/

/-- A stretch of the source with the token that owns it, if there is one. -/
structure Piece where
  token : Option Token
  text : List Char

/-- The tiles from a piece on: that of its token, or else the gap before the next token begins with
it. -/
def Piece.lay (piece : Piece) (others : List Tile) : List Tile :=
  match piece.token, others with
  | some token, others => ⟨[], token, piece.text⟩ :: others
  | none, [] => []
  | none, tile :: more => tile.widen piece.text :: more

theorem Piece.lay_ne_nil (piece : Piece) {others : List Tile} (h : others ≠ []) :
    piece.lay others ≠ [] := by
  obtain ⟨tile, more, rfl⟩ := List.exists_cons_of_ne_nil h
  unfold lay
  cases piece.token <;> simp

theorem Piece.map_token_lay (piece : Piece) (others : List Tile) :
    (piece.lay others).map Tile.token = piece.token.toList ++ others.map Tile.token := by
  unfold lay
  cases piece.token with
  | none => cases others <;> rfl
  | some token => rfl

theorem Piece.flatMap_text_lay (piece : Piece) {others : List Tile} (h : others ≠ []) :
    (piece.lay others).flatMap Tile.text = piece.text ++ others.flatMap Tile.text := by
  obtain ⟨tile, more, rfl⟩ := List.exists_cons_of_ne_nil h
  unfold lay
  cases piece.token <;> simp [Tile.text, Tile.widen]

namespace Scanner

/-- The pieces of a lexeme: an opening brace and the script that it takes along are two. -/
def pieces (scanner : Scanner) : Lexeme → List Piece
  | .openBrace script =>
    [⟨scanner.token .leftBrace ['\x7b'] .during, ['\x7b']⟩,
      ⟨(scanner.scriptTokens script).head?, script⟩]
  | lexeme => [⟨(scanner.tokens lexeme).head?, lexeme.spelling⟩]

/-- The tiles of a row of lexemes. -/
def tiles (scanner : Scanner) : List Lexeme → List Tile
  | [] => [⟨[], scanner.token .endOfInput [] .during, []⟩]
  | lexeme :: more =>
    (scanner.pieces lexeme).foldr Piece.lay ((scanner.advance lexeme).tiles more)

theorem flatMap_token_pieces (scanner : Scanner) (lexeme : Lexeme) :
    (scanner.pieces lexeme).flatMap (·.token.toList) = scanner.tokens lexeme := by
  cases lexeme with
  | openBrace script =>
    by_cases hblank : (trim script).isEmpty = true <;>
      simp [pieces, tokens, scriptTokens, hblank]
  | _ => rfl

theorem flatMap_text_pieces (scanner : Scanner) (lexeme : Lexeme) :
    (scanner.pieces lexeme).flatMap Piece.text = lexeme.spelling := by
  cases lexeme <;> simp [pieces, Lexeme.spelling]

theorem map_token_tiles (scanner : Scanner) (lexemes : List Lexeme) :
    (scanner.tiles lexemes).map Tile.token = scanner.tokensOf lexemes := by
  have hlay (pieces : List Piece) (others : List Tile) :
      (pieces.foldr Piece.lay others).map Tile.token =
        pieces.flatMap (·.token.toList) ++ others.map Tile.token := by
    induction pieces with
    | nil => rfl
    | cons piece pieces ih => simp [Piece.map_token_lay, ih]
  induction lexemes generalizing scanner with
  | nil => rfl
  | cons lexeme more ih => rw [tiles, hlay, flatMap_token_pieces, ih, tokensOf]

theorem foldr_lay_ne_nil (pieces : List Piece) {others : List Tile} (h : others ≠ []) :
    pieces.foldr Piece.lay others ≠ [] := by
  induction pieces with
  | nil => exact h
  | cons piece pieces ih => exact piece.lay_ne_nil ih

theorem tiles_ne_nil (scanner : Scanner) (lexemes : List Lexeme) : scanner.tiles lexemes ≠ [] := by
  induction lexemes generalizing scanner with
  | nil => exact List.cons_ne_nil _ _
  | cons lexeme more ih => exact foldr_lay_ne_nil _ (ih _)

theorem flatMap_text_tiles (scanner : Scanner) (lexemes : List Lexeme) :
    (scanner.tiles lexemes).flatMap Tile.text = lexemes.flatMap Lexeme.spelling := by
  have hlay (pieces : List Piece) {others : List Tile} (hothers : others ≠ []) :
      (pieces.foldr Piece.lay others).flatMap Tile.text =
        pieces.flatMap Piece.text ++ others.flatMap Tile.text := by
    induction pieces with
    | nil => rfl
    | cons piece pieces ih =>
      rw [List.foldr_cons, piece.flatMap_text_lay (foldr_lay_ne_nil pieces hothers), ih,
        List.flatMap_cons, List.append_assoc]
  induction lexemes generalizing scanner with
  | nil => rfl
  | cons lexeme more ih =>
    rw [tiles, hlay _ (tiles_ne_nil _ more), flatMap_text_pieces, ih, List.flatMap_cons]

/-! ### The lexemes of a text -/

/-- What holds of the lexemes of every text, because a lexeme that is read keeps it. -/
theorem lexemes_induction {motive : Scanner → List Char → List Lexeme → Prop}
    (nil : ∀ scanner, motive scanner [] [])
    (cons : ∀ (scanner : Scanner) (c : Char) (cs rest : List Char) (lexeme : Lexeme)
      (more : List Lexeme), Lexeme.read scanner.expectsScript c cs = .ok (lexeme, rest) →
      (scanner.advance lexeme).lexemes rest = .ok more →
      motive (scanner.advance lexeme) rest more → motive scanner (c :: cs) (lexeme :: more))
    {scanner : Scanner} {text : List Char} {lexemes : List Lexeme}
    (h : scanner.lexemes text = .ok lexemes) : motive scanner text lexemes := by
  induction hlength : text.length using Nat.strong_induction_on
    generalizing scanner text lexemes with
  | _ length ih =>
    cases text with
    | nil =>
      rw [Scanner.lexemes] at h
      cases h
      exact nil scanner
    | cons c cs =>
      rw [Scanner.lexemes] at h
      split at h
      · cases h
      next lexeme rest hread =>
        split at h
        · cases h
        next more hmore =>
          cases h
          have hshorter := Lexeme.length_rest_of_read hread
          exact cons scanner c cs rest lexeme more hread hmore
            (ih rest.length (hlength ▸ hshorter) hmore rfl)

theorem exists_lexemes_of_scan {scanner : Scanner} {text : List Char} {tokens : List Token}
    (h : scanner.scan text = .ok tokens) :
    ∃ lexemes, scanner.lexemes text = .ok lexemes ∧ scanner.tokensOf lexemes = tokens := by
  rw [scan] at h
  cases hlexemes : scanner.lexemes text with
  | error error => simp [hlexemes, Except.map] at h
  | ok lexemes => exact ⟨lexemes, rfl, by simpa [hlexemes, Except.map] using h⟩

theorem flatMap_spelling_of_lexemes {scanner : Scanner} {text : List Char}
    {lexemes : List Lexeme} (h : scanner.lexemes text = .ok lexemes) :
    lexemes.flatMap Lexeme.spelling = text := by
  refine lexemes_induction (motive := fun _ text lexemes => lexemes.flatMap Lexeme.spelling = text)
    (fun _ => rfl) (fun _ _ _ _ _ _ hread _ ih => ?_) h
  rw [List.flatMap_cons, ih, Lexeme.spelling_append_of_read hread]

theorem begin_tiles_nil {scanner : Scanner} {lexemes : List Lexeme}
    (h : scanner.lexemes [] = .ok lexemes) : Tile.Begin .endOfInput (scanner.tiles lexemes) := by
  rw [Scanner.lexemes] at h
  cases h
  exact ⟨_, _, rfl, rfl, rfl⟩

theorem begin_tiles_closeBrace {scanner : Scanner} {rest : List Char} {lexemes : List Lexeme}
    (h : scanner.lexemes ('\x7d' :: rest) = .ok lexemes) :
    Tile.Begin .rightBrace (scanner.tiles lexemes) := by
  have hread (raw : Bool) : Lexeme.read raw '\x7d' rest = .ok (.closeBrace, rest) := rfl
  rw [Scanner.lexemes] at h
  split at h
  · cases h
  next lexeme rest' hfound =>
    rw [hread] at hfound
    cases hfound
    split at h
    · cases h
    · cases h
      exact ⟨_, _, rfl, rfl, rfl⟩

end Scanner

/-- What a lexeme is known to be followed by, where it is not its own characters that end it: a
comment ends with its line, a script where its block is closed or with the text, and a number and a
word where they cannot go on. -/
def Lexeme.IsFollowed : Lexeme → List Char → Prop
  | .space c, _ => isSpace c = true
  | .comment text, rest => '\n' ∉ text ∧ ∀ c ∈ rest.head?, c = '\n'
  | .openBrace script, rest =>
    script = [] ∨ StaysOpen 0 script ∧
      (rest = [] ∨ ClosesAll 0 script ∧ ∃ more, rest = '\x7d' :: more)
  | .number _, rest => ∀ c ∈ rest.head?, c.isDigit = false
  | .word _, rest => ∀ c ∈ rest.head?, isWordChar c = false
  | _, _ => True

theorem head?_dropWhile_of_mem {p : Char → Bool} {cs : List Char} {c : Char}
    (h : c ∈ (cs.dropWhile p).head?) : p c = false := by
  have hhead := List.head?_dropWhile_not p cs
  rw [Option.mem_def.1 h] at hhead
  simpa using hhead

theorem Lexeme.isFollowed_of_read {raw : Bool} {c : Char} {cs rest : List Char} {lexeme : Lexeme}
    (h : Lexeme.read raw c cs = .ok (lexeme, rest)) : lexeme.IsFollowed rest := by
  unfold Lexeme.read at h
  split at h
  next hspace => cases h; exact hspace
  split at h
  · cases h
    refine ⟨fun hmem => ?_, fun d hd => ?_⟩
    · simpa using List.mem_takeWhile_imp hmem
    · simpa using head?_dropWhile_of_mem hd
  split at h
  · split at h
    · cases h
      exact .inr (splitScript_sound 0 cs)
    · cases h
      exact .inl rfl
  split at h
  · cases h; trivial
  split at h
  · cases h; trivial
  split at h
  · split at h
    · cases h
    · cases h; trivial
  split at h
  · cases h
    exact fun d hd => head?_dropWhile_of_mem hd
  split at h
  · cases h
    exact fun d hd => head?_dropWhile_of_mem hd
  · cases h

/-! ### The tiling -/

section Tiling

variable {skipped front : List Char} {last : Option Token.Kind} {others : List Tile}

/-- A piece that belongs to no token goes to the gap of the tile after it. -/
theorem IsTiling.widen {piece : List Char} (hlast : last ≠ some .endOfInput)
    (h : IsTiling skipped (front ++ piece) none others)
    (hgap : ∀ tile more, others = tile :: more →
      IsGap tile.gap (tile.owned ++ more.flatMap Tile.text) →
      Tile.Separates last (piece ++ tile.gap) tile.token.kind
        (tile.owned ++ more.flatMap Tile.text)) :
    IsTiling skipped front last (Piece.lay ⟨none, piece⟩ others) := by
  cases others with
  | nil => exact absurd h (by simp [IsTiling])
  | cons tile more =>
    obtain ⟨hfits, hmore⟩ := h
    have htext : front ++ (tile.widen piece).text = front ++ piece ++ tile.text := by
      simp [Tile.text, Tile.widen]
    refine ⟨⟨hlast, ?_, hfits.owned, hfits.ends, ?_, fun hkind => ?_⟩, htext ▸ hmore⟩
    · rw [Tile.widen, ← List.append_assoc]
      exact hfits.place
    · exact hgap tile more rfl (hfits.gap.resolve_right (by simp))
    · exact absurd (hfits.script hkind).1 (by simp)

/-- What may stand at the beginning may stand after any token. -/
theorem IsTiling.after (hlast : last ≠ some .endOfInput)
    (h : IsTiling skipped front none others) : IsTiling skipped front last others := by
  cases others with
  | nil => exact absurd h (by simp [IsTiling])
  | cons tile more =>
    obtain ⟨hfits, hmore⟩ := h
    refine ⟨⟨hlast, hfits.place, hfits.owned, hfits.ends, ?_, fun hkind => ?_⟩, hmore⟩
    · exact .inl (hfits.gap.resolve_right (by simp))
    · exact absurd (hfits.script hkind).1 (by simp)

/-- The tile of a piece with a token of its own. -/
theorem IsTiling.lay {token : Token} {text : List Char} (hlast : last ≠ some .endOfInput)
    (hkind : token.kind ≠ .script) (hplace : token.place = Place.behind skipped front)
    (howned : token.Owns text) (hends : token.kind.EndsBefore (others.flatMap Tile.text))
    (h : IsTiling skipped (front ++ text) (some token.kind) others) :
    IsTiling skipped front last (Piece.lay ⟨token, text⟩ others) := by
  refine ⟨⟨hlast, ?_, howned, hends, .inl (IsGap.nil _), fun hscript => absurd hscript hkind⟩, h⟩
  rw [List.append_nil]
  exact hplace

/-- The tile of a script. -/
theorem IsTiling.layScript {token : Token} {text : List Char} (hkind : token.kind = .script)
    (hplace : token.place = Place.behind skipped front) (howned : token.Owns text)
    (hends : ClosesAll 0 text ∧ Tile.Begin .rightBrace others ∨ Tile.Begin .endOfInput others)
    (h : IsTiling skipped (front ++ text) none others) :
    IsTiling skipped front (some .leftBrace) (Piece.lay ⟨token, text⟩ others) := by
  refine ⟨⟨by simp, ?_, howned, ?_, .inl (IsGap.nil _), fun _ => ⟨rfl, rfl, hends⟩⟩, ?_⟩
  · rw [List.append_nil]
    exact hplace
  · simp [Token.Kind.EndsBefore, hkind]
  · exact h.after (by simp [hkind])

end Tiling

theorem isBlankText_of_trim {text : List Char} (h : trim text = []) : isBlankText text = true := by
  rw [← solid_eq_nil_iff, ← solid_trim, h, solid_nil]

namespace Scanner

/-- A word is owned by the token of its kind. -/
theorem owns_word (scanner : Scanner) {text : List Char} (h : (Lexeme.word text).IsSpelled) :
    (scanner.token (classifyWord text).1 text (classifyWord text).2).Owns text ∧
      (classifyWord text).1 ≠ .script ∧ (classifyWord text).1 ≠ .endOfInput := by
  have hkind := classifyWord_kind text
  cases hclass : classifyWord text with
  | mk kind stage =>
    have howned : text = (String.ofList text).toList ∧
        (∃ c cs, text = c :: cs ∧ isWordStart c = true) ∧ (∀ c ∈ text, isWordChar c = true) ∧
          classifyWord text = (kind, stage) :=
      ⟨String.toList_ofList.symm, h.1, h.2, hclass⟩
    rw [hclass] at hkind
    cases kind <;>
      first
      | exact ⟨howned, Token.Kind.noConfusion, Token.Kind.noConfusion⟩
      | simp [Token.Kind.keyword?] at hkind

/-- Behind a brace stands the script that the brace takes along, if it is not blank. -/
theorem isTiling_script {skipped front script : List Char} {scanner : Scanner}
    {others : List Tile} (hplace : scanner.place.next '\x7b' = Place.behind skipped front)
    (hends : script = [] ∨ StaysOpen 0 script ∧
      (ClosesAll 0 script ∧ Tile.Begin .rightBrace others ∨ Tile.Begin .endOfInput others))
    (h : IsTiling skipped (front ++ script) none others) :
    IsTiling skipped front (some .leftBrace)
      (Piece.lay ⟨(scanner.scriptTokens script).head?, script⟩ others) := by
  by_cases hblank : trim script = []
  · have htokens : scanner.scriptTokens script = [] := if_pos (by simp [hblank])
    rw [htokens]
    refine IsTiling.widen (by simp) h fun tile more htiles hgap => ?_
    rcases hends with rfl | ⟨-, hbegin⟩
    · exact .inl hgap
    · have hnext : tile.gap = [] ∧
          (tile.token.kind = .rightBrace ∨ tile.token.kind = .endOfInput) := by
        rcases hbegin with ⟨-, _, _, hothers, hnil, hkind⟩ | ⟨_, _, hothers, hnil, hkind⟩
        · cases htiles.symm.trans hothers
          exact ⟨hnil, .inl hkind⟩
        · cases htiles.symm.trans hothers
          exact ⟨hnil, .inr hkind⟩
      refine .inr ⟨rfl, ?_, hnext.2⟩
      rw [hnext.1, List.append_nil]
      exact isBlankText_of_trim hblank
  · have htokens : scanner.scriptTokens script =
        [⟨.script, String.ofList (trim script), scanner.place.next '\x7b', scanner.depth + 1,
          .during⟩] := if_neg (by simp [hblank])
    have hscript : script ≠ [] := fun hnil => hblank (by simp [hnil])
    obtain ⟨hopen, hbegin⟩ := hends.resolve_left hscript
    rw [htokens]
    refine IsTiling.layScript rfl hplace ⟨String.toList_ofList, ?_, hopen⟩ hbegin h
    simpa using hblank

/-- What is read stands on the text as tiles. -/
theorem isTiling_tiles {skipped : List Char} {scanner : Scanner} {text : List Char}
    {lexemes : List Lexeme} (h : scanner.lexemes text = .ok lexemes) :
    ∀ front, scanner.place = Place.behind skipped front →
      IsTiling skipped front none (scanner.tiles lexemes) := by
  refine lexemes_induction (motive := fun scanner _ lexemes => ∀ front,
    scanner.place = Place.behind skipped front →
      IsTiling skipped front none (scanner.tiles lexemes)) ?_ ?_ h
  · intro scanner front hplace
    refine ⟨⟨by simp, ?_, ⟨rfl, rfl⟩, trivial, .inl (IsGap.nil _), by simp [token]⟩, rfl⟩
    rw [List.append_nil]
    exact hplace
  intro scanner c cs rest lexeme more hread hmore ih front hplace
  have hspelled := Lexeme.isSpelled_of_read hread
  have hfollowed := Lexeme.isFollowed_of_read hread
  have hrest : ((scanner.advance lexeme).tiles more).flatMap Tile.text = rest := by
    rw [flatMap_text_tiles, flatMap_spelling_of_lexemes hmore]
  have hnext : IsTiling skipped (front ++ lexeme.spelling) none
      ((scanner.advance lexeme).tiles more) := by
    refine ih _ ?_
    rw [← Place.after_behind, ← hplace]
    cases lexeme <;> rfl
  cases lexeme with
  | space c =>
    exact IsTiling.widen (by simp) hnext fun tile others _ hgap => .inl (.space hfollowed hgap)
  | comment text =>
    refine IsTiling.widen (by simp) hnext fun tile others htiles hgap => .inl ?_
    refine .comment hfollowed.1 ?_ hgap
    have hcovered : tile.gap ++ (tile.owned ++ others.flatMap Tile.text) = rest := by
      rw [← hrest, ← List.append_assoc]
      exact congrArg (List.flatMap Tile.text) htiles.symm
    rw [hcovered]
    exact hfollowed.2
  | openBrace script =>
    refine IsTiling.lay (by simp) (by simp [token]) hplace ⟨String.toList_ofList.symm, rfl⟩
      trivial (isTiling_script ?_ ?_ ?_)
    · rw [hplace, Place.next_behind]
    · refine hfollowed.imp_right (And.imp_right fun hrest => ?_)
      rcases hrest with rfl | ⟨hclose, after, rfl⟩
      · exact .inr (begin_tiles_nil hmore)
      · exact .inl ⟨hclose, begin_tiles_closeBrace hmore⟩
    · rw [List.append_assoc]
      exact hnext
  | closeBrace =>
    have howned : "\x7d".toList = ['\x7d'] := by decide
    exact IsTiling.lay (by simp) (by simp) hplace ⟨howned.symm, rfl⟩ trivial
      (hnext.after (by simp))
  | comma =>
    exact IsTiling.lay (by simp) (by simp [token]) hplace ⟨String.toList_ofList.symm, rfl⟩
      trivial (hnext.after (by simp [token]))
  | quoted quote text =>
    refine IsTiling.lay (by simp) (by simp [token]) hplace ⟨quote, hspelled.1, ?_⟩
      trivial (hnext.after (by simp [token]))
    simpa [token, Lexeme.spelling] using hspelled.2
  | number digits =>
    exact IsTiling.lay (by simp) (by simp [token]) hplace ⟨String.toList_ofList.symm, hspelled⟩
      (hrest ▸ hfollowed) (hnext.after (by simp [token]))
  | word text =>
    obtain ⟨howned, hscript, hend⟩ := scanner.owns_word hspelled
    exact IsTiling.lay (by simp) hscript hplace howned
      (hrest ▸ Token.Kind.endsBefore_of_isWordChar _ hfollowed)
      (hnext.after (by simpa [token] using hend))

end Scanner

end TaskRunner
