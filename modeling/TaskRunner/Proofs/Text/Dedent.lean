import TaskRunner.Statement.Layout
import TaskRunner.Proofs.Text.Lines

/-! Scripts without their margin, and the same scripts moved to the right again.  Whatever the
script was, what is left once it is trimmed and its margin removed comes back from any level. -/

namespace TaskRunner

/-- A line at the given level.  An empty line is not indented. -/
def indentLine (level : Nat) (line : List Char) : List Char :=
  if line.isEmpty then [] else indentation level ++ line

/-- A script whose lines after the first stand at the given level. -/
def hang (level : Nat) (script : List Char) : List Char :=
  match lines script with
  | [] => []
  | first :: rest => joinLines (first :: rest.map (indentLine level))

/-- Tidy lines, one of which after the first stands at the very left unless all of them are
empty. -/
structure IsOutdented (first : List Char) (rest : List (List Char)) : Prop
    extends IsTidy first rest where
  flush : margin rest = 0

/-! ### The margin -/

theorem exists_indentWidth_eq_margin {ls : List (List Char)}
    (h : ∃ line ∈ ls, isBlankText line = false) :
    ∃ line ∈ ls, isBlankText line = false ∧ indentWidth line = margin ls := by
  obtain ⟨line, hmem, hline⟩ := h
  have hwidth : indentWidth line ∈ (ls.filter fun line => !isBlankText line).map indentWidth :=
    List.mem_map_of_mem (List.mem_filter.2 ⟨hmem, by simp [hline]⟩)
  cases hmin : ((ls.filter fun line => !isBlankText line).map indentWidth).min? with
  | none =>
    rw [List.min?_eq_none_iff.1 hmin] at hwidth
    exact absurd hwidth List.not_mem_nil
  | some width =>
    obtain ⟨least, hleast, rfl⟩ := List.mem_map.1 (List.min?_eq_some_iff.1 hmin).1
    obtain ⟨hls, hblank⟩ := List.mem_filter.1 hleast
    exact ⟨least, hls, by simpa using hblank, by rw [margin, hmin]; rfl⟩

theorem margin_eq_zero_of_blank {ls : List (List Char)}
    (h : ∀ line ∈ ls, isBlankText line = true) : margin ls = 0 := by
  have hfilter : (ls.filter fun line => !isBlankText line) = [] :=
    List.filter_eq_nil_iff.2 fun line hline => by simp [h line hline]
  rw [margin, hfilter]
  rfl

theorem isIndent_isBlank {c : Char} (h : isIndent c = true) : isBlank c = true := by
  rw [isIndent, Bool.or_eq_true, beq_iff_eq, beq_iff_eq] at h
  rcases h with rfl | rfl <;> decide

/-- No more is cut off a line than it is indented. -/
theorem take_prefix_takeWhile {line : List Char} {width : Nat} (h : width ≤ indentWidth line) :
    line.take width <+: line.takeWhile isIndent := by
  refine List.prefix_of_prefix_length_le (List.take_prefix width line)
    (List.takeWhile_prefix isIndent) ?_
  rw [List.length_take]
  exact (Nat.min_le_left ..).trans h

theorem isIndent_of_mem_take {line : List Char} {width : Nat} (h : width ≤ indentWidth line)
    {c : Char} (hc : c ∈ line.take width) : isIndent c = true :=
  List.mem_takeWhile_imp ((take_prefix_takeWhile h).subset hc)

theorem length_take_of_le_indentWidth {line : List Char} {width : Nat}
    (h : width ≤ indentWidth line) : (line.take width).length = width := by
  rw [List.length_take]
  exact Nat.min_eq_left (h.trans (List.takeWhile_prefix isIndent).length_le)

theorem isBlankText_take {line : List Char} {width : Nat} (h : width ≤ indentWidth line) :
    isBlankText (line.take width) = true :=
  List.all_eq_true.2 fun _ hc => isIndent_isBlank (isIndent_of_mem_take h hc)

/-- A line that is not blank is not blank without its margin either. -/
theorem isBlankText_drop {line : List Char} {width : Nat} (hline : isBlankText line = false)
    (h : width ≤ indentWidth line) : isBlankText (line.drop width) = false := by
  rw [← Bool.not_eq_true, ← solid_eq_nil_iff] at hline ⊢
  rwa [← List.take_append_drop width line, solid_append, solid_eq_nil_iff.2 (isBlankText_take h),
    List.nil_append] at hline

theorem solid_outdentLine {line : List Char} {width : Nat}
    (h : isBlankText line = false → width ≤ indentWidth line) :
    solid (outdentLine width line) = solid line := by
  rw [outdentLine]
  cases hline : isBlankText line with
  | true => simp [solid_eq_nil_iff.2 hline]
  | false =>
    rw [if_neg (by simp), solid_trimEnd]
    conv_rhs => rw [← List.take_append_drop width line, solid_append,
      solid_eq_nil_iff.2 (isBlankText_take (h hline)), List.nil_append]

theorem indentWidth_eq_zero_iff {line : List Char} :
    indentWidth line = 0 ↔ line.head?.filter isIndent = none := by
  rw [indentWidth, List.length_eq_zero_iff, ← List.head?_eq_none_iff, List.head?_takeWhile]

theorem indentWidth_drop_indentWidth (line : List Char) :
    indentWidth (line.drop (indentWidth line)) = 0 := by
  have hdrop : line.drop (indentWidth line) = line.dropWhile isIndent := by
    have hwhole : (line.takeWhile isIndent ++ line.dropWhile isIndent).drop (indentWidth line) =
        line.dropWhile isIndent := List.drop_left' rfl
    rwa [List.takeWhile_append_dropWhile] at hwhole
  rw [hdrop, indentWidth_eq_zero_iff]
  have hhead := List.head?_dropWhile_not isIndent line
  cases hline : (line.dropWhile isIndent).head? with
  | none => rfl
  | some c => simpa [hline] using hhead

theorem indentWidth_trimEnd {line : List Char} (h : indentWidth line = 0) :
    indentWidth (trimEnd line) = 0 := by
  obtain ⟨tail, hsplit, -⟩ := exists_dropEndWhile_append isBlank line
  rw [indentWidth_eq_zero_iff] at h ⊢
  rw [trimEnd]
  cases hkept : dropEndWhile isBlank line with
  | nil => rfl
  | cons c cs =>
    rw [hsplit, hkept] at h
    exact h

/-- Lines without their margin have none. -/
theorem margin_map_outdentLine (ls : List (List Char)) :
    margin (ls.map (outdentLine (margin ls))) = 0 := by
  by_cases h : ∃ line ∈ ls, isBlankText line = false
  · obtain ⟨line, hmem, hline, hwidth⟩ := exists_indentWidth_eq_margin h
    have hsolid : isBlankText (outdentLine (margin ls) line) = false := by
      rw [← Bool.not_eq_true, ← solid_eq_nil_iff] at hline ⊢
      rwa [solid_outdentLine fun _ => hwidth.ge]
    have hzero : indentWidth (outdentLine (margin ls) line) = 0 := by
      rw [outdentLine, hline, if_neg (by simp), ← hwidth]
      exact indentWidth_trimEnd (indentWidth_drop_indentWidth line)
    have hle := margin_le_indentWidth (List.mem_map_of_mem hmem) hsolid
    omega
  · refine margin_eq_zero_of_blank fun line hline => ?_
    obtain ⟨old, hold, rfl⟩ := List.mem_map.1 hline
    have hblank : isBlankText old = true := by
      by_contra hsolid
      exact h ⟨old, hold, by simpa using hsolid⟩
    rw [outdentLine, if_pos hblank]
    rfl

/-! ### Removing the margin -/

theorem trimEnd_cons {c : Char} (hc : isBlank c = false) (cs : List Char) :
    trimEnd (c :: cs) = c :: trimEnd cs := by
  rw [trimEnd, trimEnd, dropEndWhile]
  cases dropEndWhile isBlank cs <;> simp [hc]

theorem mem_of_mem_trimEnd {c : Char} {text : List Char} (h : c ∈ trimEnd text) : c ∈ text := by
  obtain ⟨tail, hsplit, -⟩ := exists_dropEndWhile_append isBlank text
  rw [hsplit]
  exact List.mem_append_left tail h

theorem mem_of_mem_outdentLine {c : Char} {width : Nat} {line : List Char}
    (h : c ∈ outdentLine width line) : c ∈ line := by
  rw [outdentLine] at h
  split at h
  · exact absurd h List.not_mem_nil
  · exact List.mem_of_mem_drop (mem_of_mem_trimEnd h)

theorem trimEnd_outdentLine (width : Nat) (line : List Char) :
    trimEnd (outdentLine width line) = outdentLine width line := by
  rw [outdentLine]
  split
  · rfl
  · exact trimEnd_trimEnd _

theorem outdentLine_ne_nil {ls : List (List Char)} {line : List Char} (hmem : line ∈ ls)
    (hline : isBlankText line = false) : outdentLine (margin ls) line ≠ [] := by
  intro hnil
  have hsolid := solid_outdentLine fun _ => margin_le_indentWidth hmem hline
  rw [hnil, solid_nil] at hsolid
  rw [solid_eq_nil_iff.1 hsolid.symm] at hline
  exact Bool.noConfusion hline

/-- The lines of a trimmed script without its margin. -/
theorem isOutdented_of_lines {script first : List Char} {rest : List (List Char)}
    (h : IsTrimmed script) (hlines : lines script = first :: rest) :
    IsOutdented (trimEnd first) (rest.map (outdentLine (margin rest))) := by
  have hne : script ≠ [] := by
    rintro rfl
    cases hlines
  obtain ⟨begin, more, hbegin, ⟨c, cs, rfl, hc⟩, last, hlast, hblank⟩ :=
    exists_lines_of_isTrimmed h hne
  obtain ⟨rfl, rfl⟩ := List.cons.inj (hlines.symm.trans hbegin)
  refine ⟨⟨?_, ?_, ?_, ?_⟩, ?_⟩
  · have hfeed : ∀ line ∈ (c :: cs) :: rest, '\n' ∉ line := fun line hline =>
      not_mem_of_mem_lines (by rwa [hlines])
    rw [List.forall_mem_cons] at hfeed ⊢
    refine ⟨fun hmem => hfeed.1 (mem_of_mem_trimEnd hmem), fun line hline hmem => ?_⟩
    obtain ⟨old, hold, rfl⟩ := List.mem_map.1 hline
    exact hfeed.2 old hold (mem_of_mem_outdentLine hmem)
  · rw [List.forall_mem_cons]
    refine ⟨trimEnd_trimEnd _, fun line hline => ?_⟩
    obtain ⟨old, -, rfl⟩ := List.mem_map.1 hline
    exact trimEnd_outdentLine _ old
  · exact ⟨c, trimEnd cs, trimEnd_cons hc cs, hc⟩
  · cases rest using List.reverseRecOn with
    | nil => simp [trimEnd_cons hc]
    | append_singleton rest line =>
      rw [← List.cons_append, List.getLast?_concat, Option.some_inj] at hlast
      rw [List.map_append, List.map_singleton, ← List.cons_append, List.getLast?_concat, ne_eq,
        Option.some_inj, hlast]
      exact outdentLine_ne_nil (by simp) hblank
  · exact margin_map_outdentLine rest

theorem dedent_cases {script : List Char} (h : IsTrimmed script) :
    dedent script = [] ∨
      ∃ first rest, IsOutdented first rest ∧ dedent script = joinLines (first :: rest) := by
  cases hlines : lines script with
  | nil => exact .inl (by rw [dedent, hlines])
  | cons first rest =>
    exact .inr ⟨_, _, isOutdented_of_lines h hlines, by rw [dedent, hlines]⟩

/-! ### Indenting again -/

theorem isBlankText_indentation (level : Nat) : isBlankText (indentation level) = true := by
  rw [isBlankText, List.all_eq_true]
  intro c hc
  rw [List.eq_of_mem_replicate hc]
  decide

theorem solid_indentLine (level : Nat) (line : List Char) :
    solid (indentLine level line) = solid line := by
  cases line with
  | nil => rfl
  | cons c cs =>
    rw [indentLine, if_neg (by simp), solid_append,
      solid_eq_nil_iff.2 (isBlankText_indentation level), List.nil_append]

theorem indentWidth_indentation_append (level : Nat) (line : List Char) :
    indentWidth (indentation level ++ line) = level + indentWidth line := by
  have hindent : ∀ c ∈ indentation level, isIndent c = true := fun c hc => by
    rw [List.eq_of_mem_replicate hc]
    decide
  rw [indentWidth, List.takeWhile_append_of_pos hindent, List.length_append, indentation,
    List.length_replicate]
  rfl

theorem trimEnd_indentLine {line : List Char} (h : trimEnd line = line) (level : Nat) :
    trimEnd (indentLine level line) = indentLine level line := by
  cases line with
  | nil => rfl
  | cons c cs =>
    rw [indentLine, if_neg (by simp), trimEnd_eq_self_iff,
      List.getLast?_append_of_ne_nil _ (List.cons_ne_nil c cs)]
    exact trimEnd_eq_self_iff.1 h

/-- Tidy lines stay so when those after the first are moved to the right. -/
theorem IsTidy.indent {first : List Char} {rest : List (List Char)} (h : IsTidy first rest)
    (level : Nat) : IsTidy first (rest.map (indentLine level)) := by
  obtain ⟨hfeed, hends, hbegins, hlast⟩ := h
  rw [List.forall_mem_cons] at hfeed hends
  refine ⟨?_, ?_, hbegins, ?_⟩
  · rw [List.forall_mem_cons, List.forall_mem_map]
    refine ⟨hfeed.1, fun line hline => ?_⟩
    have := hfeed.2 line hline
    cases line <;> simp_all [indentLine, indentation]
  · rw [List.forall_mem_cons, List.forall_mem_map]
    exact ⟨hends.1, fun line hline => trimEnd_indentLine (hends.2 line hline) level⟩
  · cases rest using List.reverseRecOn with
    | nil => exact hlast
    | append_singleton rest line =>
      rw [← List.cons_append, List.getLast?_concat, ne_eq, Option.some_inj] at hlast
      rw [List.map_append, List.map_singleton, ← List.cons_append, List.getLast?_concat, ne_eq,
        Option.some_inj, indentLine, if_neg (by simpa using hlast)]
      simp [hlast]

theorem isBlankText_of_trimEnd {line : List Char} (h : trimEnd line = line) :
    isBlankText line = true ↔ line = [] := by
  rw [← trimEnd_eq_nil_iff, h]

/-- The margin of indented lines is what indents them, unless all are empty. -/
theorem margin_map_indentLine {ls : List (List Char)} (hends : ∀ line ∈ ls, trimEnd line = line)
    (hmargin : margin ls = 0) (level : Nat) (h : ∃ line ∈ ls, line ≠ []) :
    margin (ls.map (indentLine level)) = level := by
  obtain ⟨line, hmem, hline⟩ := h
  have hsolid (line : List Char) (hmem : line ∈ ls) :
      isBlankText (indentLine level line) = false ↔ line ≠ [] := by
    rw [← Bool.not_eq_true, ← solid_eq_nil_iff, solid_indentLine, solid_eq_nil_iff,
      isBlankText_of_trimEnd (hends line hmem)]
  have hwidth (line : List Char) (hline : line ≠ []) :
      indentWidth (indentLine level line) = level + indentWidth line := by
    rw [indentLine, if_neg (by simpa using hline), indentWidth_indentation_append]
  apply Nat.le_antisymm
  · obtain ⟨least, hleast, hblank, hzero⟩ := exists_indentWidth_eq_margin
      ⟨line, hmem, by rwa [← Bool.not_eq_true, isBlankText_of_trimEnd (hends line hmem)]⟩
    have hne : least ≠ [] := by
      rwa [← Bool.not_eq_true, isBlankText_of_trimEnd (hends least hleast)] at hblank
    have hle := margin_le_indentWidth (List.mem_map_of_mem hleast) ((hsolid least hleast).2 hne)
    rw [hwidth least hne] at hle
    omega
  · obtain ⟨least, hleast, hblank, hmin⟩ := exists_indentWidth_eq_margin
      ⟨_, List.mem_map_of_mem hmem, (hsolid line hmem).2 hline⟩
    obtain ⟨old, hold, rfl⟩ := List.mem_map.1 hleast
    rw [hwidth old ((hsolid old hold).1 hblank)] at hmin
    omega

theorem outdentLine_indentLine {line : List Char} (h : trimEnd line = line) (level : Nat) :
    outdentLine level (indentLine level line) = line := by
  cases line with
  | nil => rfl
  | cons c cs =>
    have hsolid : isBlankText (indentation level ++ c :: cs) = false := by
      rw [← Bool.not_eq_true, ← solid_eq_nil_iff, solid_append,
        solid_eq_nil_iff.2 (isBlankText_indentation level), List.nil_append, solid_eq_nil_iff,
        isBlankText_of_trimEnd h]
      exact List.cons_ne_nil c cs
    rw [indentLine, if_neg (by simp), outdentLine, hsolid, if_neg (by simp),
      List.drop_left' (by simp [indentation]), h]

/-- The margin that indenting gives to the lines is removed again. -/
theorem IsOutdented.dedent_indent {first : List Char} {rest : List (List Char)}
    (h : IsOutdented first rest) (level : Nat) :
    dedent (joinLines (first :: rest.map (indentLine level))) = joinLines (first :: rest) := by
  have hends := h.ends
  rw [List.forall_mem_cons] at hends
  have hrest : (rest.map (indentLine level)).map
      (outdentLine (margin (rest.map (indentLine level)))) = rest := by
    by_cases hempty : ∃ line ∈ rest, line ≠ []
    · rw [margin_map_indentLine hends.2 h.flush level hempty, List.map_map]
      exact (List.map_congr_left fun line hline =>
        outdentLine_indentLine (hends.2 line hline) level).trans (List.map_id rest)
    · -- Where every line is empty, the margin does not matter.
      rw [List.map_map]
      refine (List.map_congr_left fun line hline => ?_).trans (List.map_id rest)
      have hnil : line = [] := by
        by_contra hne
        exact hempty ⟨line, hline, hne⟩
      rw [hnil]
      rfl
  rw [dedent, (h.toIsTidy.indent level).lines_joinLines]
  simp only [hends.1, hrest]

theorem hang_joinLines {first : List Char} {rest : List (List Char)} (h : IsTidy first rest)
    (level : Nat) :
    hang level (joinLines (first :: rest)) = joinLines (first :: rest.map (indentLine level)) := by
  rw [hang, h.lines_joinLines]

theorem IsTrimmed.hang_dedent {script : List Char} (h : IsTrimmed script) (level : Nat) :
    IsTrimmed (hang level (dedent script)) := by
  rcases dedent_cases h with hnil | ⟨first, rest, hout, heq⟩
  · rw [hnil]
    exact ⟨by simp [hang], by simp [hang]⟩
  · rw [heq, hang_joinLines hout.toIsTidy]
    exact (hout.toIsTidy.indent level).isTrimmed

/-- From any level a script comes back once its margin is removed. -/
theorem IsTrimmed.dedent_hang {script : List Char} (h : IsTrimmed script) (level : Nat) :
    dedent (hang level (dedent script)) = dedent script := by
  rcases dedent_cases h with hnil | ⟨first, rest, hout, heq⟩
  · rw [hnil]
    rfl
  · rw [heq, hang_joinLines hout.toIsTidy, hout.dedent_indent]

theorem isTrimmed_hang (level : Nat) (script : List Char) :
    IsTrimmed (hang level (dedent (trim script))) :=
  (isTrimmed_trim script).hang_dedent level

theorem dedent_trim_hang (level : Nat) (script : List Char) :
    dedent (trim (hang level (dedent (trim script)))) = dedent (trim script) := by
  rw [(isTrimmed_hang level script).trim_eq, (isTrimmed_trim script).dedent_hang]

theorem hang_eq_nil_iff {level : Nat} {script : List Char} :
    hang level (dedent (trim script)) = [] ↔ dedent (trim script) = [] := by
  constructor
  · intro hnil
    have hback := dedent_trim_hang level script
    rw [hnil] at hback
    exact hback.symm
  · intro hnil
    rw [hnil]
    rfl

theorem solid_dedent (script : List Char) : solid (dedent script) = solid script := by
  rw [← flatMap_solid_lines script, dedent]
  cases lines script with
  | nil => rfl
  | cons first rest =>
    rw [solid_joinLines, List.flatMap_cons, List.flatMap_cons, solid_trimEnd, List.flatMap_map]
    exact congrArg (solid first ++ ·) (List.flatMap_congr fun line hline =>
      solid_outdentLine (margin_le_indentWidth hline))

theorem solid_hang (level : Nat) (script : List Char) :
    solid (hang level script) = solid script := by
  rw [← flatMap_solid_lines script, hang]
  cases lines script with
  | nil => rfl
  | cons first rest =>
    rw [solid_joinLines, List.flatMap_cons, List.flatMap_cons, List.flatMap_map]
    exact congrArg (solid first ++ ·) (List.flatMap_congr fun line _ =>
      solid_indentLine level line)

/-! ### The block of a script -/

theorem flatMap_scriptLine (level : Nat) (first : List Char) (rest : List (List Char)) :
    (first :: rest).flatMap (Layout.scriptLine level) =
      joinLines ((first :: rest).map (indentLine level)) ++ ['\n'] := by
  have hline (line : List Char) :
      Layout.scriptLine level line = indentLine level line ++ ['\n'] := by
    cases line <;> simp [Layout.scriptLine, indentLine]
  induction rest generalizing first with
  | nil => simp [hline, joinLines]
  | cons next rest ih =>
    rw [List.flatMap_cons, ih next, hline, List.map_cons, List.map_cons, List.map_cons,
      joinLines_cons, joinLines_cons]
    simp

theorem scriptBlock_congr {script other : List Char}
    (h : dedent (trim script) = dedent (trim other)) (level : Nat) :
    Layout.scriptBlock level script = Layout.scriptBlock level other := by
  rw [Layout.scriptBlock, Layout.scriptBlock, h]

theorem scriptBlock_of_nil {script : List Char} (h : dedent (trim script) = []) (level : Nat) :
    Layout.scriptBlock level script = Layout.emptyBlock := by
  rw [Layout.scriptBlock, h]
  rfl

/-- Between the braces of its block a script stands with white space around it. -/
theorem exists_scriptBlock_eq {script : List Char} (h : dedent (trim script) ≠ []) (level : Nat) :
    ∃ before after, isBlankText before = true ∧ isBlankText after = true ∧
      Layout.scriptBlock level script =
        ' ' :: '\x7b' :: (before ++ (hang (level + 1) (dedent (trim script)) ++ after) ++
          ['\x7d', '\n']) := by
  obtain ⟨first, rest, hout, heq⟩ := (dedent_cases (isTrimmed_trim script)).resolve_left h
  rw [heq] at h
  rw [Layout.scriptBlock, heq, if_neg (by simpa using h), hang_joinLines hout.toIsTidy,
    hout.lines_joinLines]
  obtain ⟨c, cs, hfirst, -⟩ := hout.begins
  have hindent : indentLine (level + 1) first = indentation (level + 1) ++ first := by
    rw [indentLine, if_neg (by simp [hfirst])]
  cases rest with
  | nil =>
    have hfeed : '\n' ∉ joinLines [first] := by
      simpa [joinLines] using hout.feed first List.mem_cons_self
    rw [if_neg hfeed]
    exact ⟨[' '], [' '], by decide, by decide, by simp⟩
  | cons next rest =>
    have hfeed : '\n' ∈ joinLines (first :: next :: rest) := by
      simp [joinLines_cons]
    rw [if_pos hfeed, flatMap_scriptLine]
    refine ⟨'\n' :: indentation (level + 1), '\n' :: indentation level, ?_, ?_, ?_⟩
    · rw [isBlankText, List.all_cons, ← isBlankText, isBlankText_indentation]
      decide
    · rw [isBlankText, List.all_cons, ← isBlankText, isBlankText_indentation]
      decide
    · rw [List.map_cons, hindent, joinLines_cons, joinLines_cons]
      simp [Layout.blockOpening, Layout.blockClosing]

end TaskRunner
