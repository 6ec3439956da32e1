import TaskRunner.Proofs.Scan.Tiling

/-! The tokens of a source text account for all of it.  The last one, and no other, is the end of
the input; offsets grow from token to token; and each token tells its line, its column and its
offset in the text. -/

namespace TaskRunner

theorem utf8ByteSize_ofList_pos {text : List Char} (h : text ≠ []) :
    0 < (String.ofList text).utf8ByteSize := by
  obtain ⟨c, cs, rfl⟩ := List.exists_cons_of_ne_nil h
  have hsize := utf8ByteSize_ofList_append [c] cs
  have hpos := c.utf8Size_pos
  rw [utf8ByteSize_ofList_singleton, List.singleton_append] at hsize
  omega

theorem Place.offset_behind_append (skipped front text : List Char) :
    (Place.behind skipped (front ++ text)).offset =
      (Place.behind skipped front).offset + (String.ofList text).utf8ByteSize := by
  unfold Place.behind
  rw [← List.append_assoc, utf8ByteSize_ofList_append]

/-! ### What a tiling tells of the tokens -/

section Consequences

variable {skipped front : List Char} {last : Option Token.Kind} {tiles : List Tile}

theorem Tile.owned_ne_nil {tile : Tile} {more : List Tile}
    (h : tile.Fits skipped front last more) (hend : tile.token.kind ≠ .endOfInput) :
    tile.owned ≠ [] := by
  have howned := h.owned
  unfold Token.Owns at howned
  split at howned
  · obtain ⟨quote, -, -, hquoted⟩ := howned
    simp [hquoted]
  · rintro hnil
    rw [hnil, trim_nil] at howned
    exact howned.2.1 (String.toList_eq_nil_iff.1 howned.1)
  · exact absurd ‹_› hend
  · intro hnil
    rw [hnil] at howned
    obtain ⟨-, hspells⟩ := howned
    unfold Token.Kind.Spells at hspells
    split at hspells <;> simp at hspells

/-- Every token stands behind a beginning of the text. -/
theorem IsTiling.exists_behind (h : IsTiling skipped front last tiles) :
    ∀ tile ∈ tiles, ∃ before, front <+: before ∧ before <+: front ++ tiles.flatMap Tile.text ∧
      tile.token.place = Place.behind skipped before := by
  induction tiles generalizing front last with
  | nil => simp
  | cons tile more ih =>
    obtain ⟨hfits, hmore⟩ := h
    rw [List.flatMap_cons, ← List.append_assoc]
    intro other hother
    rcases List.mem_cons.1 hother with rfl | hother
    · refine ⟨front ++ other.gap, List.prefix_append _ _, ?_, hfits.place⟩
      rw [Tile.text, ← List.append_assoc, List.append_assoc (front ++ other.gap)]
      exact List.prefix_append _ _
    · obtain ⟨before, hfront, hbefore, hplace⟩ := ih hmore other hother
      exact ⟨before, (List.prefix_append _ _).trans hfront, hbefore, hplace⟩

/-- Later tokens have greater offsets. -/
theorem IsTiling.pairwise_offset (h : IsTiling skipped front last tiles) :
    tiles.Pairwise fun tile other => tile.token.place.offset < other.token.place.offset := by
  induction tiles generalizing front last with
  | nil => exact List.Pairwise.nil
  | cons tile more ih =>
    obtain ⟨hfits, hmore⟩ := h
    refine List.Pairwise.cons (fun other hother => ?_) (ih hmore)
    have hend : tile.token.kind ≠ .endOfInput := by
      cases more with
      | nil => simp at hother
      | cons next more => exact fun hend => hmore.1.goesOn (by rw [hend])
    obtain ⟨before, ⟨between, hbetween⟩, -, hplace⟩ := hmore.exists_behind other hother
    have howned := utf8ByteSize_ofList_pos (Tile.owned_ne_nil hfits hend)
    rw [hfits.place, hplace, ← hbetween, Tile.text, ← List.append_assoc, List.append_assoc,
      Place.offset_behind_append _ (front ++ tile.gap), utf8ByteSize_ofList_append]
    omega

/-- Nothing but the last tile is the end of the input, which stands behind the whole text. -/
theorem IsTiling.exists_last (h : IsTiling skipped front last tiles)
    (hlast : last ≠ some .endOfInput) : ∃ init final, tiles = init ++ [final] ∧
      final.token.kind = .endOfInput ∧ (∀ tile ∈ init, tile.token.kind ≠ .endOfInput) ∧
        final.token.place = Place.behind skipped (front ++ tiles.flatMap Tile.text) := by
  induction tiles generalizing front last with
  | nil => exact absurd h hlast
  | cons tile more ih =>
    obtain ⟨hfits, hmore⟩ := h
    by_cases hend : tile.token.kind = .endOfInput
    · cases more with
      | nil =>
        refine ⟨[], tile, rfl, hend, by simp, ?_⟩
        have howned := hfits.owned
        simp only [Token.Owns, hend] at howned
        rw [hfits.place, List.flatMap_singleton, Tile.text, howned.2, List.append_nil]
      | cons next more => exact absurd (by rw [hend]) hmore.1.goesOn
    · obtain ⟨init, final, hmore', hfinal, hinit, hplace⟩ := ih hmore (by simpa using hend)
      refine ⟨tile :: init, final, by rw [hmore']; rfl, hfinal,
        List.forall_mem_cons.2 ⟨hend, hinit⟩, ?_⟩
      rw [hplace, List.flatMap_cons, List.append_assoc]

end Consequences

/-- The mark that a text begins with, if it does. -/
def leadingMark : List Char → List Char
  | [] => []
  | c :: _ => if c = byteOrderMark then [c] else []

theorem leadingMark_append_withoutMark (text : List Char) :
    leadingMark text ++ withoutMark text = text := by
  cases text with
  | nil => rfl
  | cons c cs => by_cases hmark : c = byteOrderMark <;> simp [leadingMark, withoutMark, hmark]

theorem scan_eq_scan_withoutMark (source : String) :
    scan source =
      (Scanner.initial (Place.behind (leadingMark source.toList) [])).scan
        (withoutMark source.toList) := by
  have hstart : Place.behind [] [] = Place.start := rfl
  have hmark : Place.behind [byteOrderMark] [] =
      { Place.start with offset := byteOrderMark.utf8Size } := by
    rw [Place.behind, List.append_nil, utf8ByteSize_ofList_singleton]
    rfl
  rw [scan]
  cases source.toList with
  | nil => rw [leadingMark, withoutMark, hstart]
  | cons c cs =>
    by_cases hc : c = byteOrderMark
    · subst hc
      rw [leadingMark, withoutMark]
      simp [hmark]
    · simp [leadingMark, withoutMark, hc, hstart]

/-- The tokens account for the whole source text, and each tells where it stands. -/
structure AccountFor (tokens : List Token) (source : String) : Prop where
  /-- The last token, and no other, is the end of the input, behind the whole text. -/
  ends : ∃ init last, tokens = init ++ [last] ∧ last.kind = .endOfInput ∧
    (∀ token ∈ init, token.kind ≠ .endOfInput) ∧ last.place.offset = source.utf8ByteSize
  /-- The tokens stand in the order of the text. -/
  ordered : tokens.Pairwise fun token other => token.place.offset < other.place.offset
  /-- Each token tells its place in the text. -/
  located : ∀ token ∈ tokens, ∃ before, leadingMark source.toList ++ before <+: source.toList ∧
    token.place = Place.behind (leadingMark source.toList) before
  /-- Every character belongs to a token, to a gap between two tokens, or is the mark. -/
  tiled : ∃ tiles : List Tile, tiles.map Tile.token = tokens ∧
    leadingMark source.toList ++ tiles.flatMap Tile.text = source.toList ∧
      IsTiling (leadingMark source.toList) [] none tiles

/-- Scanning loses nothing and tells the places right. -/
theorem accountFor_of_scan {source : String} {tokens : List Token}
    (h : scan source = .ok tokens) : AccountFor tokens source := by
  rw [scan_eq_scan_withoutMark] at h
  generalize hscanner : Scanner.initial (Place.behind (leadingMark source.toList) []) = scanner at h
  obtain ⟨lexemes, hlexemes, rfl⟩ := Scanner.exists_lexemes_of_scan h
  have htiling : IsTiling (leadingMark source.toList) [] none (scanner.tiles lexemes) :=
    Scanner.isTiling_tiles hlexemes [] (by rw [← hscanner]; rfl)
  have htext : leadingMark source.toList ++ (scanner.tiles lexemes).flatMap Tile.text =
      source.toList := by
    rw [Scanner.flatMap_text_tiles, Scanner.flatMap_spelling_of_lexemes hlexemes,
      leadingMark_append_withoutMark]
  rw [← Scanner.map_token_tiles]
  refine ⟨?_, ?_, ?_, ⟨_, rfl, htext, htiling⟩⟩
  · obtain ⟨init, final, htiles, hfinal, hinit, hplace⟩ := htiling.exists_last (by simp)
    refine ⟨init.map Tile.token, final.token, by rw [htiles]; simp, hfinal, ?_, ?_⟩
    · simpa using hinit
    · rw [hplace, List.nil_append, Place.behind, htext, String.ofList_toList]
  · exact List.pairwise_map.2 htiling.pairwise_offset
  · intro token htoken
    obtain ⟨tile, htile, rfl⟩ := List.mem_map.1 htoken
    obtain ⟨before, -, hbefore, hplace⟩ := htiling.exists_behind tile htile
    refine ⟨before, ?_, hplace⟩
    have hprefix := (List.prefix_append_right_inj (leadingMark source.toList)).2 hbefore
    rwa [List.nil_append, htext] at hprefix

/-- Behind the mark and a comment, a script that does not fill its block. -/
theorem accountFor_of_scan_script :
    let source := "\ufeff# a\nrun \x7b b\n\x7d"
    let tokens : List Token :=
      [⟨.run, "run", ⟨2, 1, 7⟩, 0, .during⟩, ⟨.leftBrace, "\x7b", ⟨2, 5, 11⟩, 0, .during⟩,
        ⟨.script, "b", ⟨2, 6, 12⟩, 1, .during⟩, ⟨.rightBrace, "\x7d", ⟨3, 1, 15⟩, 0, .during⟩,
        ⟨.endOfInput, "", ⟨3, 2, 16⟩, 0, .during⟩]
    scan source = .ok tokens ∧ AccountFor tokens source := by
  intro source tokens
  have hread : (scan source).toOption = some tokens := by decide +kernel
  have hscan : scan source = .ok tokens := by
    cases hsource : scan source with
    | error error => simp [hsource, Except.toOption] at hread
    | ok found => simpa [hsource, Except.toOption] using hread
  exact ⟨hscan, accountFor_of_scan hscan⟩

end TaskRunner
