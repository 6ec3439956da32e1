import TaskRunner.Proofs.Scan.Location
import TaskRunner.Proofs.Scan.Rows

/-! Where scanning stops.  A text is refused at the first character that goes on from nothing before
it and begins nothing: the text before that character scans, and the error is the same whatever
stands behind it.  Only quoted text that is left open can be mended, by the quote that it lacks. -/

namespace TaskRunner

/-! ### The character that is refused -/

/-- A token that is read off its own characters can begin with `c`.  Scripts are left out: within a
block that is taken as it stands, they may begin with any character. -/
def CanBeginToken (c : Char) : Prop :=
  ∃ (token : Token) (more : List Char), token.kind ≠ .script ∧ token.Owns (c :: more)

theorem Token.Kind.begins_of_spells {kind : Token.Kind} {stage : Stage} {c : Char}
    {more : List Char} (h : kind.Spells stage (c :: more)) :
    c ∈ Lexeme.marks ∨ c.isDigit = true ∨ isWordStart c = true := by
  unfold Token.Kind.Spells at h
  split at h
  · exact .inl (by simp [(List.cons.inj h).1, Lexeme.marks])
  · exact .inl (by simp [(List.cons.inj h).1, Lexeme.marks])
  · exact .inl (by simp [(List.cons.inj h).1, Lexeme.marks])
  · exact .inr (.inl (h.2 c List.mem_cons_self))
  · obtain ⟨⟨d, ds, htext, hd⟩, -⟩ := h
    exact .inr (.inr ((List.cons.inj htext).1 ▸ hd))

/-- Every token but a script begins with a mark, a digit or the beginning of a word. -/
theorem begins_of_canBeginToken {c : Char} (h : CanBeginToken c) :
    c ∈ Lexeme.marks ∨ c.isDigit = true ∨ isWordStart c = true := by
  obtain ⟨token, more, hkind, howns⟩ := h
  unfold Token.Owns at howns
  split at howns
  · obtain ⟨quote, hquote, -, howned⟩ := howns
    simp only [isQuote, Bool.or_eq_true, beq_iff_eq] at hquote
    rw [(List.cons.inj howned).1]
    rcases hquote with rfl | rfl <;> exact .inl (by simp [Lexeme.marks])
  · exact absurd ‹_› hkind
  · simp at howns
  · exact Token.Kind.begins_of_spells howns.2

namespace Lexeme

/-- Nothing is read where a quote is not closed, and where a character begins nothing. -/
theorem refused_of_read {raw : Bool} {c : Char} {cs : List Char} {cause : Refusal}
    (h : read raw c cs = .error cause) :
    cause = .unterminatedString ∧ isQuote c = true ∧ c ∉ cs ∨
      cause = .unexpectedCharacter c ∧ c ∉ marks ∧ c.isDigit = false ∧ isWordStart c = false := by
  unfold read at h
  split at h
  · cases h
  next hspace =>
  split at h
  · cases h
  next hhash =>
  split at h
  · split at h <;> cases h
  next hopen =>
  split at h
  · cases h
  next hclose =>
  split at h
  · cases h
  next hcomma =>
  split at h
  next hquote =>
    split at h
    next hdrop =>
      cases h
      refine .inl ⟨rfl, hquote, fun hmem => ?_⟩
      simpa using List.dropWhile_eq_nil_iff.1 hdrop c hmem
    · cases h
  next hquote =>
  split at h
  · cases h
  next hdigit =>
  split at h
  · cases h
  next hstart =>
    cases h
    simp only [isSpace, isQuote, Bool.or_eq_true, beq_iff_eq, not_or] at hspace hquote
    have hmarks : c ∉ marks := by
      simp [marks, hspace, hhash, hopen, hclose, hcomma, hquote]
    exact .inr ⟨rfl, hmarks, by simpa using hdigit, by simpa using hstart⟩

theorem read_unexpected {c : Char} (hmarks : c ∉ marks) (hdigit : c.isDigit = false)
    (hstart : isWordStart c = false) (raw : Bool) (cs : List Char) :
    read raw c cs = .error (.unexpectedCharacter c) := by
  rw [read_of_not_mem_marks hmarks, if_neg (by simp [hdigit]), if_neg (by simp [hstart])]

theorem read_unterminated {quote : Char} {cs : List Char} (hquote : isQuote quote = true)
    (hcs : quote ∉ cs) (raw : Bool) : read raw quote cs = .error .unterminatedString := by
  have hdrop : cs.dropWhile (· != quote) = [] :=
    List.dropWhile_eq_nil_iff.2 fun c hc => bne_iff_ne.2 fun heq => hcs (heq ▸ hc)
  simp only [isQuote, Bool.or_eq_true, beq_iff_eq] at hquote
  rcases hquote with rfl | rfl <;>
    rw [read, if_neg (by decide), if_neg (by decide), if_neg (by decide), if_neg (by decide),
      if_neg (by decide), if_pos (by decide), hdrop]

end Lexeme

/-! ### The text before it -/

namespace Scanner

/-- A text that is refused is a row of lexemes up to the character at which reading fails. -/
theorem exists_reads_of_error {scanner : Scanner} {text : List Char} {error : ScanError}
    (h : scanner.lexemes text = .error error) :
    ∃ row c cs, text = row.flatMap Lexeme.spelling ++ c :: cs ∧ scanner.Reads row (c :: cs) ∧
      Lexeme.read (scanner.behind row).expectsScript c cs = .error error.cause ∧
        error.place = (scanner.behind row).place := by
  induction hlength : text.length using Nat.strong_induction_on generalizing scanner text with
  | _ length ih =>
    cases text with
    | nil =>
      rw [Scanner.lexemes] at h
      cases h
    | cons c cs =>
      rw [Scanner.lexemes] at h
      split at h
      next cause hread =>
        cases h
        exact ⟨[], c, cs, rfl, trivial, hread, rfl⟩
      next lexeme rest hread =>
        split at h
        next error' hmore =>
          cases h
          have hshorter := Lexeme.length_rest_of_read hread
          obtain ⟨row, d, ds, hrest, hrow, hfails, hplace⟩ :=
            ih rest.length (hlength ▸ hshorter) hmore rfl
          refine ⟨lexeme :: row, d, ds, ?_, ⟨hrest ▸ Lexeme.isRead_of_read hread, hrow⟩,
            hfails, hplace⟩
          rw [List.flatMap_cons, List.append_assoc, ← hrest, Lexeme.spelling_append_of_read hread]
        · cases h

/-- The error at a character does not depend on the row before it. -/
theorem Reads.lexemes_error {scanner : Scanner} {row : List Lexeme} {c : Char} {cs : List Char}
    {cause : Lexeme.Refusal} (h : scanner.Reads row (c :: cs))
    (hread : Lexeme.read (scanner.behind row).expectsScript c cs = .error cause) :
    scanner.lexemes (row.flatMap Lexeme.spelling ++ c :: cs) =
      .error ⟨cause, (scanner.behind row).place⟩ := by
  rw [h.lexemes_eq, Scanner.lexemes]
  split
  next hfound => cases hread.symm.trans hfound; rfl
  next hfound => cases hread.symm.trans hfound

theorem scan_eq_error_iff {scanner : Scanner} {text : List Char} {error : ScanError} :
    scanner.scan text = .error error ↔ scanner.lexemes text = .error error := by
  rw [scan]
  cases scanner.lexemes text <;> simp [Except.map]

theorem exists_scan_of_lexemes {scanner : Scanner} {text : List Char} {lexemes : List Lexeme}
    (h : scanner.lexemes text = .ok lexemes) : ∃ tokens, scanner.scan text = .ok tokens := by
  rw [scan, h]
  exact ⟨_, rfl⟩

/-- A quote that is left open is closed by the same character. -/
theorem Reads.exists_scan_closed {scanner : Scanner} {row : List Lexeme} {c : Char}
    {after : List Char} (h : scanner.Reads row (c :: after)) (hquote : isQuote c = true)
    (hopen : c ∉ after) :
    ∃ tokens, scanner.scan (row.flatMap Lexeme.spelling ++ c :: (after ++ [c])) = .ok tokens := by
  have hquoted : (Lexeme.quoted c after).IsRead (scanner.behind row).expectsScript [] :=
    Lexeme.isRead_iff.2 ⟨⟨hquote, hopen⟩, trivial⟩
  have hclosed : (scanner.behind row).lexemes (c :: (after ++ [c])) = .ok [.quoted c after] := by
    have hlexemes := lexemes_of_isRead hquoted
    rwa [List.append_nil, lexemes_nil] at hlexemes
  refine @exists_scan_of_lexemes _ _ (row ++ [.quoted c after]) ?_
  rw [(h.of_beginsLike (.cons c (after ++ [c]) after)).lexemes_eq, hclosed]
  rfl

end Scanner

/-! ### Source texts -/

/-- Behind the mark of a source text, another text may stand that begins as its text does. -/
theorem scan_ofList_leadingMark (text : List Char) {other : List Char}
    (h : BeginsLike other (withoutMark text)) :
    scan (String.ofList (leadingMark text ++ other)) =
      (Scanner.initial (Place.behind (leadingMark text) [])).scan other := by
  have hmark : leadingMark (leadingMark text ++ other) = leadingMark text ∧
      withoutMark (leadingMark text ++ other) = other := by
    cases text with
    | nil =>
      cases other with
      | nil => exact ⟨rfl, rfl⟩
      | cons d ds => exact absurd (h d rfl) (by simp [withoutMark])
    | cons c cs =>
      by_cases hc : c = byteOrderMark
      · simp [leadingMark, withoutMark, hc]
      · cases other with
        | nil => simp [leadingMark, withoutMark, hc]
        | cons d ds =>
          obtain rfl : c = d := by simpa [withoutMark, hc] using h d rfl
          simp [leadingMark, withoutMark, hc]
  rw [scan_eq_scan_withoutMark, String.toList_ofList, hmark.1, hmark.2]

section Around

variable {source : String} {front after : List Char} {c : Char}

/-- The text of a source up to a character in it. -/
theorem scan_before (htext : withoutMark source.toList = front ++ c :: after) :
    scan (String.ofList (leadingMark source.toList ++ front)) =
      (Scanner.initial (Place.behind (leadingMark source.toList) [])).scan front := by
  refine scan_ofList_leadingMark _ ?_
  have hlike := (BeginsLike.nil (c :: after)).append front
  rwa [List.append_nil, ← htext] at hlike

/-- A source that goes on behind its end. -/
theorem scan_append (htext : withoutMark source.toList = front ++ c :: after) (more : String) :
    scan (source ++ more) =
      (Scanner.initial (Place.behind (leadingMark source.toList) [])).scan
        (front ++ c :: (after ++ more.toList)) := by
  have hlike : BeginsLike (front ++ c :: (after ++ more.toList)) (withoutMark source.toList) := by
    rw [htext]
    exact (BeginsLike.cons c _ _).append front
  rw [← scan_ofList_leadingMark _ hlike]
  refine congrArg scan (String.toList_injective ?_)
  rw [String.toList_append, String.toList_ofList]
  conv_lhs => rw [← leadingMark_append_withoutMark source.toList, htext]
  simp

end Around

/-- The error is about the first character of the source that cannot be read.  It tells the place of
that character, and the text before it scans.  A character that begins no token is refused whatever
stands behind the source, and an opening quote as long as the source does not go on to the quote
that closes it, with which it scans. -/
def ScanError.IsFirstIn (error : ScanError) (source : String) : Prop :=
  ∃ front c after, source.toList = leadingMark source.toList ++ (front ++ c :: after) ∧
    error.place = Place.behind (leadingMark source.toList) front ∧
    (∃ tokens, scan (String.ofList (leadingMark source.toList ++ front)) = .ok tokens) ∧
    match error.cause with
    | .unexpectedCharacter d =>
      d = c ∧ ¬CanBeginToken c ∧ ∀ more : String, scan (source ++ more) = .error error
    | .unterminatedString =>
      isQuote c = true ∧ c ∉ after ∧
        (∀ more : String, c ∉ more.toList → scan (source ++ more) = .error error) ∧
        ∃ tokens, scan (source ++ String.singleton c) = .ok tokens

/-- Scanning stops at the first character that cannot be read. -/
theorem isFirstIn_of_scan {source : String} {error : ScanError}
    (h : scan source = .error error) : error.IsFirstIn source := by
  rw [scan_eq_scan_withoutMark] at h
  generalize hscanner : Scanner.initial (Place.behind (leadingMark source.toList) []) = scanner at h
  obtain ⟨row, c, after, htext, hrow, hread, hplace⟩ :=
    Scanner.exists_reads_of_error (Scanner.scan_eq_error_iff.1 h)
  have herror {cs : List Char} (hfails : ∀ raw, Lexeme.read raw c cs = .error error.cause) :
      scanner.scan (row.flatMap Lexeme.spelling ++ c :: cs) = .error error := by
    refine Scanner.scan_eq_error_iff.2 ?_
    rw [(hrow.of_beginsLike (.cons c cs after)).lexemes_error (hfails _), ← hplace]
  have hmore (more : String) : scan (source ++ more) =
      scanner.scan (row.flatMap Lexeme.spelling ++ c :: (after ++ more.toList)) := by
    rw [scan_append htext, hscanner]
  refine ⟨row.flatMap Lexeme.spelling, c, after, ?_, ?_, ?_, ?_⟩
  · rw [← htext, leadingMark_append_withoutMark]
  · rw [hplace, Scanner.place_behind, ← hscanner]
    exact Place.after_behind _ [] _
  · rw [scan_before htext, hscanner]
    exact Scanner.exists_scan_of_lexemes hrow.lexemes_row
  rcases Lexeme.refused_of_read hread with
    ⟨hcause, hquote, hopen⟩ | ⟨hcause, hmarks, hdigit, hstart⟩
  · simp only [hcause]
    refine ⟨hquote, hopen, fun more hnone => ?_, ?_⟩
    · rw [hmore]
      refine herror fun raw => ?_
      rw [hcause]
      exact Lexeme.read_unterminated hquote (by simp [hopen, hnone]) raw
    · rw [hmore, String.toList_singleton]
      exact hrow.exists_scan_closed hquote hopen
  · simp only [hcause]
    refine ⟨trivial, fun hbegins => ?_, fun more => ?_⟩
    · rcases begins_of_canBeginToken hbegins with hc | hc | hc
      · exact hmarks hc
      · exact Bool.noConfusion (hdigit.symm.trans hc)
      · exact Bool.noConfusion (hstart.symm.trans hc)
    · rw [hmore]
      refine herror fun raw => ?_
      rw [hcause]
      exact Lexeme.read_unexpected hmarks hdigit hstart raw _

/-- Behind the mark, a script that holds the character that is refused after it, and a quote that is
open over the end of a line. -/
theorem isFirstIn_of_scan_mark :
    let refused : ScanError := ⟨.unexpectedCharacter '@', ⟨2, 5, 17⟩⟩
    let unclosed : ScanError := ⟨.unterminatedString, ⟨1, 8, 7⟩⟩
    scan "\ufeffrun \x7b @ \x7d\nvar @ \"" = .error refused ∧
      refused.IsFirstIn "\ufeffrun \x7b @ \x7d\nvar @ \"" ∧
      scan "desc \x7b \"a\n\x60b" = .error unclosed ∧
      unclosed.IsFirstIn "desc \x7b \"a\n\x60b" := by
  intro refused unclosed
  have hrefused : scan "\ufeffrun \x7b @ \x7d\nvar @ \"" = .error refused := by decide +kernel
  have hunclosed : scan "desc \x7b \"a\n\x60b" = .error unclosed := by decide +kernel
  exact ⟨hrefused, isFirstIn_of_scan hrefused, hunclosed, isFirstIn_of_scan hunclosed⟩

end TaskRunner
