import Mathlib.Data.List.Forall2
import TaskRunner.Proofs.Text.Dedent
import TaskRunner.Proofs.Text.Order

/-! What a script loses with its margin.  Only white space goes: the margin of each line after the
first, which is the same for all lines that are not blank, and white space at the ends of lines.  A
script that was trimmed keeps its number of lines, and what is left of it has no margin any more,
so it comes back from any level. -/

namespace TaskRunner

/-- The number of spaces and tabs that the lines which are not blank have in common. -/
structure IsMargin (width : Nat) (ls : List (List Char)) : Prop where
  le : ∀ line ∈ ls, isBlankText line = false → width ≤ indentWidth line
  attained : (∃ line ∈ ls, isBlankText line = false) →
    ∃ line ∈ ls, isBlankText line = false ∧ indentWidth line = width

/-- A line loses the first `width` spaces and tabs of its indentation, and white space at its end.
The cut is behind as many bytes as characters. -/
structure LosesMargin (width : Nat) (line kept : List Char) : Prop where
  split : ∃ front tail, line = front ++ (kept ++ tail) ∧ front.length = width ∧
    line.takeWhile isIndent = front ++ kept.takeWhile isIndent ∧ isBlankText tail = true
  ends : trimEnd kept = kept
  bytes : (utf8 (String.ofList line)).drop width = utf8 (String.ofList (line.drop width))

/-! ### Only white space goes -/

theorem joinLines_sublist {ls more : List (List Char)} (h : List.Forall₂ List.Sublist ls more) :
    (joinLines ls).Sublist (joinLines more) := by
  cases h with
  | nil => exact .slnil
  | @cons first first' rest rest' hfirst hrest =>
    have hlines : (rest.flatMap ('\n' :: ·)).Sublist (rest'.flatMap ('\n' :: ·)) := by
      induction hrest with
      | nil => exact .slnil
      | cons hline _ ih =>
        rw [List.flatMap_cons, List.flatMap_cons]
        exact (hline.cons_cons '\n').append ih
    rw [joinLines_cons, joinLines_cons]
    exact hfirst.append hlines

theorem joinLines_sublist_append (ls more : List (List Char)) :
    (joinLines ls).Sublist (joinLines (ls ++ more)) := by
  cases ls with
  | nil => exact List.nil_sublist _
  | cons first rest =>
    rw [List.cons_append, joinLines_cons, joinLines_cons, List.flatMap_append, ← List.append_assoc]
    exact List.sublist_append_left _ _

theorem dropReturn_sublist (line : List Char) : (dropReturn line).Sublist line := by
  obtain ⟨tail, hsplit, -⟩ := exists_dropReturn_append line
  conv_rhs => rw [hsplit]
  exact List.sublist_append_left _ tail

theorem trimEnd_sublist (line : List Char) : (trimEnd line).Sublist line := by
  obtain ⟨tail, hsplit, -⟩ := exists_dropEndWhile_append isBlank line
  conv_rhs => rw [hsplit]
  exact List.sublist_append_left _ tail

theorem outdentLine_sublist (width : Nat) (line : List Char) :
    (outdentLine width line).Sublist line := by
  rw [outdentLine]
  split
  · exact List.nil_sublist line
  · exact (trimEnd_sublist _).trans (List.drop_sublist width line)

/-- The lines of a text, joined again, are the text without some returns and the last line feed. -/
theorem joinLines_lines_sublist (text : List Char) : (joinLines (lines text)).Sublist text := by
  obtain ⟨parts, last, hsplit, hlines⟩ := exists_lines_eq text
  have htext : joinLines (parts ++ [last]) = text := by
    rw [← hsplit]
    exact joinWith_splitAt '\n' text
  have hparts : List.Forall₂ List.Sublist (parts.map dropReturn) parts := by
    rw [List.forall₂_map_left_iff]
    exact List.forall₂_same.2 fun part _ => dropReturn_sublist part
  rw [hlines, ← htext]
  split
  · rw [List.append_nil]
    exact (joinLines_sublist hparts).trans (joinLines_sublist_append parts [last])
  · exact joinLines_sublist (List.rel_append hparts (.cons (List.Sublist.refl last) .nil))

theorem dedent_sublist (script : List Char) : (dedent script).Sublist script := by
  refine List.Sublist.trans ?_ (joinLines_lines_sublist script)
  rw [dedent]
  cases lines script with
  | nil => exact List.nil_sublist _
  | cons first rest =>
    have hrest : List.Forall₂ List.Sublist (rest.map (outdentLine (margin rest))) rest := by
      rw [List.forall₂_map_left_iff]
      exact List.forall₂_same.2 fun line _ => outdentLine_sublist _ line
    exact joinLines_sublist (.cons (trimEnd_sublist first) hrest)

/-! ### The margin goes as a whole -/

theorem isMargin_margin (ls : List (List Char)) : IsMargin (margin ls) ls where
  le _ hmem hline := margin_le_indentWidth hmem hline
  attained := exists_indentWidth_eq_margin

theorem utf8_ofList_append (front back : List Char) :
    utf8 (String.ofList (front ++ back)) =
      utf8 (String.ofList front) ++ utf8 (String.ofList back) := by
  simp only [utf8_eq_flatMap, String.toList_ofList, List.flatMap_append]

/-- Indentation has as many bytes as characters. -/
theorem length_utf8_of_isIndent {front : List Char} (h : ∀ c ∈ front, isIndent c = true) :
    (utf8 (String.ofList front)).length = front.length := by
  induction front with
  | nil => rfl
  | cons c cs ih =>
    obtain ⟨hc, hcs⟩ := List.forall_mem_cons.1 h
    have hbyte : (String.utf8EncodeChar c).length = 1 := by
      rw [isIndent, Bool.or_eq_true, beq_iff_eq, beq_iff_eq] at hc
      rcases hc with rfl | rfl <;> rfl
    have hmore := ih hcs
    rw [utf8_eq_flatMap, String.toList_ofList] at hmore ⊢
    rw [List.flatMap_cons, List.length_append, hbyte, hmore, List.length_cons, Nat.add_comm]

/-- Trimming the end of a line that is not blank leaves its indentation. -/
theorem takeWhile_isIndent_trimEnd {line : List Char} (h : isBlankText line = false) :
    (trimEnd line).takeWhile isIndent = line.takeWhile isIndent := by
  obtain ⟨tail, hsplit, -⟩ := exists_dropEndWhile_append isBlank line
  rw [← trimEnd] at hsplit
  have hsolid : ∃ c ∈ trimEnd line, isIndent c = false := by
    by_contra hall
    -- A line of nothing but indentation is blank.
    have hblank : isBlankText (trimEnd line) = true := by
      rw [isBlankText, List.all_eq_true]
      intro c hc
      refine isIndent_isBlank ?_
      by_contra hindent
      exact hall ⟨c, hc, by simpa using hindent⟩
    rw [← solid_eq_nil_iff, solid_trimEnd, solid_eq_nil_iff, h] at hblank
    exact Bool.noConfusion hblank
  obtain ⟨c, hc, hindent⟩ := hsolid
  conv_rhs => rw [hsplit]
  rw [List.takeWhile_append, if_neg]
  intro hlength
  have hall : (trimEnd line).takeWhile isIndent = trimEnd line :=
    (List.takeWhile_prefix isIndent).eq_of_length hlength
  rw [← hall] at hc
  rw [List.mem_takeWhile_imp hc] at hindent
  exact Bool.noConfusion hindent

theorem losesMargin_outdentLine {width : Nat} {line : List Char} (hline : isBlankText line = false)
    (hwidth : width ≤ indentWidth line) : LosesMargin width line (outdentLine width line) := by
  have hkept : outdentLine width line = trimEnd (line.drop width) := by
    rw [outdentLine, hline, if_neg (by simp)]
  have hindent : ∀ c ∈ line.take width, isIndent c = true := fun _ => isIndent_of_mem_take hwidth
  have hlength := length_take_of_le_indentWidth hwidth
  constructor
  case split =>
    obtain ⟨tail, hsplit, htail⟩ := exists_dropEndWhile_append isBlank (line.drop width)
    refine ⟨line.take width, tail, ?_, hlength, ?_, htail⟩
    · rw [hkept, trimEnd, ← hsplit, List.take_append_drop]
    · calc line.takeWhile isIndent
          = (line.take width ++ line.drop width).takeWhile isIndent := by
            rw [List.take_append_drop]
        _ = line.take width ++ (line.drop width).takeWhile isIndent :=
            List.takeWhile_append_of_pos hindent
        _ = line.take width ++ (outdentLine width line).takeWhile isIndent := by
            rw [hkept, takeWhile_isIndent_trimEnd (isBlankText_drop hline hwidth)]
  case ends => exact trimEnd_outdentLine width line
  case bytes =>
    have hbytes : (utf8 (String.ofList (line.take width))).length = width := by
      rw [length_utf8_of_isIndent hindent, hlength]
    conv_lhs => rw [← List.take_append_drop width line, utf8_ofList_append]
    exact List.drop_left' hbytes

/-- Relative to each other the lines stay where they are. -/
theorem LosesMargin.indentWidth_eq {width : Nat} {line kept : List Char}
    (h : LosesMargin width line kept) : indentWidth line = width + indentWidth kept := by
  obtain ⟨front, tail, -, hlength, hindent, -⟩ := h.split
  rw [indentWidth, hindent, List.length_append, hlength, indentWidth]

/-! ### Scripts without their margin -/

/-- A line loses `width` spaces and tabs in front of it and white space at its end.  Of a blank line
nothing is left. -/
inductive LosesIndent (width : Nat) : List Char → List Char → Prop where
  | blank {line : List Char} (hline : isBlankText line = true) : LosesIndent width line []
  | solid {front body kept : List Char} (hbody : isBlankText body = false)
      (hfront : ∀ c ∈ front, isIndent c = true) (hlength : front.length = width)
      (hkept : LosesEnd isBlank body kept) : LosesIndent width (front ++ body) kept

/-- A script loses the margin that its lines after the first have in common, and white space at the
end of every line. -/
inductive Dedents : List Char → List Char → Prop where
  | nil {script : List Char} (hlines : lines script = []) : Dedents script []
  | lines {script first kept : List Char} {rest more : List (List Char)} {width : Nat}
      (hlines : lines script = first :: rest) (hfirst : LosesEnd isBlank first kept)
      (hwidth : IsMargin width rest) (hrest : List.Forall₂ (LosesIndent width) rest more) :
      Dedents script (joinLines (kept :: more))

theorem IsMargin.eq_margin {width : Nat} {ls : List (List Char)} (h : IsMargin width ls)
    {line : List Char} (hmem : line ∈ ls) (hline : isBlankText line = false) :
    width = margin ls := by
  obtain ⟨least, hleast, hsolid, rfl⟩ := h.attained ⟨line, hmem, hline⟩
  obtain ⟨other, hother, hsolid', hmargin⟩ := exists_indentWidth_eq_margin ⟨line, hmem, hline⟩
  refine Nat.le_antisymm ?_ (margin_le_indentWidth hleast hsolid)
  rw [← hmargin]
  exact h.le other hother hsolid'

theorem LosesIndent.eq_outdentLine {width : Nat} {line kept : List Char}
    (h : LosesIndent width line kept) : kept = outdentLine width line := by
  cases h with
  | blank hline => rw [outdentLine, if_pos hline]
  | @solid front body kept hbody hfront hlength hkept =>
    have hline : isBlankText (front ++ body) = false := by
      rw [isBlankText, List.all_append, ← isBlankText, ← isBlankText, hbody, Bool.and_false]
    rw [outdentLine, hline, if_neg Bool.false_ne_true, ← hlength, List.drop_left,
      losesEnd_iff.1 hkept, trimEnd]

theorem losesIndent_outdentLine {width : Nat} {line : List Char}
    (hwidth : isBlankText line = false → width ≤ indentWidth line) :
    LosesIndent width line (outdentLine width line) := by
  cases hline : isBlankText line with
  | true =>
    rw [outdentLine, if_pos hline]
    exact .blank hline
  | false =>
    have hle := hwidth hline
    have hkept : LosesEnd isBlank (line.drop width) (outdentLine width line) := by
      rw [losesEnd_iff, outdentLine, hline, if_neg Bool.false_ne_true, trimEnd]
    have hloses : LosesIndent width (line.take width ++ line.drop width)
        (outdentLine width line) :=
      .solid (isBlankText_drop hline hle) (fun _ => isIndent_of_mem_take hle)
        (length_take_of_le_indentWidth hle) hkept
    rwa [List.take_append_drop] at hloses

/-- Which width the lines lose matters for those that are not blank. -/
theorem outdentLine_congr {width more : Nat} {line : List Char}
    (h : isBlankText line = false → width = more) :
    outdentLine width line = outdentLine more line := by
  rw [outdentLine, outdentLine]
  split
  · rfl
  next hline => rw [h (by simpa using hline)]

/-- The lines that are left are those that the program leaves. -/
theorem eq_map_outdentLine {width : Nat} {ls more : List (List Char)}
    (h : List.Forall₂ (LosesIndent width) ls more) : more = ls.map (outdentLine width) := by
  induction h with
  | nil => rfl
  | cons hline _ ih => rw [List.map_cons, ← hline.eq_outdentLine, ← ih]

/-- What is left of a script without its margin. -/
theorem dedents_iff {script text : List Char} : Dedents script text ↔ text = dedent script := by
  constructor
  · intro h
    cases h with
    | nil hlines => rw [dedent, hlines]
    | lines hlines hfirst hwidth hrest =>
      rw [dedent, hlines, losesEnd_iff.1 hfirst, ← trimEnd, eq_map_outdentLine hrest]
      refine congrArg (fun more => joinLines (_ :: more)) (List.map_congr_left fun line hmem => ?_)
      exact outdentLine_congr (hwidth.eq_margin hmem)
  · rintro rfl
    rw [dedent]
    cases hlines : lines script with
    | nil => exact .nil hlines
    | cons first rest =>
      refine .lines hlines (losesEnd_iff.2 rfl) (isMargin_margin rest) ?_
      rw [List.forall₂_map_right_iff]
      exact List.forall₂_same.2 fun line hmem =>
        losesIndent_outdentLine fun hline => margin_le_indentWidth hmem hline

/-! ### What is left -/

theorem IsOutdented.dedent_eq {first : List Char} {rest : List (List Char)}
    (h : IsOutdented first rest) :
    dedent (joinLines (first :: rest)) = joinLines (first :: rest) := by
  have hlevel : rest.map (indentLine 0) = rest := by
    refine (List.map_congr_left fun line _ => ?_).trans (List.map_id rest)
    cases line <;> rfl
  have hback := h.dedent_indent 0
  rwa [hlevel] at hback

namespace IsTrimmed

variable {script : List Char}

theorem length_lines_dedent (h : IsTrimmed script) :
    (lines (dedent script)).length = (lines script).length := by
  cases hlines : lines script with
  | nil =>
    rw [dedent, hlines]
    rfl
  | cons first rest =>
    rw [dedent, hlines, (isOutdented_of_lines h hlines).lines_joinLines, List.length_cons,
      List.length_map, List.length_cons]

theorem isTrimmed_dedent (h : IsTrimmed script) : IsTrimmed (dedent script) := by
  rcases dedent_cases h with hnil | ⟨first, rest, hout, heq⟩
  · rw [hnil]
    exact ⟨by simp, by simp⟩
  · rw [heq]
    exact hout.isTrimmed

theorem dedent_dedent (h : IsTrimmed script) : dedent (dedent script) = dedent script := by
  rcases dedent_cases h with hnil | ⟨first, rest, hout, heq⟩
  · rw [hnil]
    rfl
  · rw [heq, hout.dedent_eq]

end IsTrimmed

/-- What removing the margin does to a text, and that it is a normal form of a trimmed one.  Of any
text only white space goes: white space at the ends of the lines, and from each line after the first
that is not blank the margin that these lines have in common.  Of a trimmed text every line stays,
and nothing more goes a second time, nor when the lines after the first are moved to the right. -/
theorem dedent_is_stable :
    (∀ script, (dedent script).Sublist script ∧ solid (dedent script) = solid script ∧
      ∀ first rest, lines script = first :: rest →
        ∃ width kept, IsMargin width rest ∧ dedent script = joinLines (trimEnd first :: kept) ∧
          List.Forall₂ (fun line kept =>
            (isBlankText line = true → kept = []) ∧
              (isBlankText line = false → LosesMargin width line kept ∧
                indentWidth line = width + indentWidth kept)) rest kept) ∧
    ∀ script, IsTrimmed script →
      (lines (dedent script)).length = (lines script).length ∧ IsTrimmed (dedent script) ∧
        dedent (dedent script) = dedent script ∧
        ∀ level, dedent (hang level (dedent script)) = dedent script := by
  constructor
  · intro script
    refine ⟨dedent_sublist script, solid_dedent script, fun first rest hlines => ?_⟩
    refine ⟨margin rest, rest.map (outdentLine (margin rest)), isMargin_margin rest,
      by rw [dedent, hlines], ?_⟩
    rw [List.forall₂_map_right_iff]
    refine List.forall₂_same.2 fun line hmem => ⟨fun hblank => ?_, fun hline => ?_⟩
    · rw [outdentLine, if_pos hblank]
    · have hloses : LosesMargin (margin rest) line (outdentLine (margin rest) line) :=
        losesMargin_outdentLine hline (margin_le_indentWidth hmem hline)
      exact ⟨hloses, hloses.indentWidth_eq⟩
  · intro script h
    exact ⟨h.length_lines_dedent, h.isTrimmed_dedent, h.dedent_dedent, h.dedent_hang⟩

/-- Tabs among spaces, a blank line that is indented less, and a return before a line feed. -/
theorem dedent_is_stable_mixed :
    let script := "a \r\n \t b\n\t\n  \t\tc".toList
    lines script = "a ".toList :: [" \t b".toList, ['\t'], "  \t\tc".toList] ∧
      dedent script = "a\nb\n\n\tc".toList ∧ solid (dedent script) = solid script ∧
      IsTrimmed script ∧ (lines (dedent script)).length = 4 ∧
      dedent (dedent script) = dedent script ∧
      dedent (hang 2 (dedent script)) = dedent script := by
  intro script
  have hlines : lines script = "a ".toList :: [" \t b".toList, ['\t'], "  \t\tc".toList] := by
    decide
  have htrimmed : IsTrimmed script := isTrimmed_iff.2 (by decide)
  obtain ⟨hany, htrim⟩ := dedent_is_stable
  obtain ⟨-, hsolid, -⟩ := hany script
  obtain ⟨hlength, -, htwice, hlevel⟩ := htrim script htrimmed
  refine ⟨hlines, by decide, hsolid, htrimmed, ?_, htwice, hlevel 2⟩
  rw [hlength, hlines]
  rfl

end TaskRunner
