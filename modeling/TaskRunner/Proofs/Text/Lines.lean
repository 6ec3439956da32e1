import TaskRunner.Text.Lines
import TaskRunner.Proofs.Text.Trim

/-! Lines that come back when they are joined and the text is read as lines again.  They are tidy:
no line ends in white space, and the text that they make is trimmed. -/

namespace TaskRunner

/-! ### Cutting and joining -/

theorem splitAt_of_not_mem {sep : Char} {text : List Char} (h : sep ∉ text) :
    splitAt sep text = [text] := by
  induction text with
  | nil => rfl
  | cons c cs ih =>
    rw [List.mem_cons, not_or] at h
    rw [splitAt, if_neg (Ne.symm h.1), ih h.2]

theorem splitAt_append_sep {sep : Char} {part : List Char} (h : sep ∉ part) (text : List Char) :
    splitAt sep (part ++ sep :: text) = part :: splitAt sep text := by
  induction part with
  | nil => rw [List.nil_append, splitAt, if_pos rfl]
  | cons c part ih =>
    rw [List.mem_cons, not_or] at h
    rw [List.cons_append, splitAt, if_neg (Ne.symm h.1), ih h.2]

/-- Parts without the character between them are what the joined text is cut into. -/
theorem splitAt_joinWith {sep : Char} {part : List Char} {parts : List (List Char)}
    (h : ∀ p ∈ part :: parts, sep ∉ p) :
    splitAt sep (joinWith sep (part :: parts)) = part :: parts := by
  have hpart := h part List.mem_cons_self
  induction parts generalizing part with
  | nil => rw [joinWith_singleton, splitAt_of_not_mem hpart]
  | cons next parts ih =>
    have hmore : ∀ p ∈ next :: parts, sep ∉ p := fun p hp => h p (List.mem_cons_of_mem _ hp)
    rw [joinWith_cons_cons, splitAt_append_sep hpart, ih hmore (hmore next List.mem_cons_self)]

/-- The joined text ends with the last part, and the separator stands before that. -/
theorem exists_joinWith_concat (sep : Char) (parts : List (List Char)) (last : List Char) :
    ∃ front, joinWith sep (parts ++ [last]) = front ++ last ∧
      (parts = [] ∧ front = [] ∨ ∃ before, front = before ++ [sep]) := by
  induction parts with
  | nil => exact ⟨[], by simp, .inl ⟨rfl, rfl⟩⟩
  | cons part parts ih =>
    obtain ⟨front, hjoin, hfront⟩ := ih
    obtain ⟨next, more, hparts⟩ := List.exists_cons_of_ne_nil (l := parts ++ [last]) (by simp)
    refine ⟨part ++ sep :: front, ?_, .inr ?_⟩
    · rw [List.cons_append, hparts, joinWith_cons_cons, ← hparts, hjoin]
      simp
    · rcases hfront with ⟨-, rfl⟩ | ⟨before, rfl⟩
      · exact ⟨part, rfl⟩
      · exact ⟨part ++ sep :: before, by simp⟩

theorem joinLines_cons (first : List Char) (rest : List (List Char)) :
    joinLines (first :: rest) = first ++ rest.flatMap ('\n' :: ·) := by
  induction rest generalizing first with
  | nil => simp [joinLines]
  | cons next rest ih =>
    have hjoin : joinLines (first :: next :: rest) = first ++ '\n' :: joinLines (next :: rest) :=
      joinWith_cons_cons '\n' first next rest
    rw [hjoin, ih next]
    rfl

/-- A line loses a carriage return or nothing. -/
theorem exists_dropReturn_append (line : List Char) :
    ∃ tail, line = dropReturn line ++ tail ∧ isBlankText tail = true := by
  induction line using dropReturn.induct with
  | case1 => exact ⟨[], rfl, rfl⟩
  | case2 => exact ⟨['\r'], rfl, by decide⟩
  | case3 c cs hcs ih =>
    obtain ⟨tail, hsplit, htail⟩ := ih
    refine ⟨tail, ?_, htail⟩
    rw [dropReturn.eq_3 c cs hcs, List.cons_append, ← hsplit]

theorem dropReturn_of_trimEnd {line : List Char} (h : trimEnd line = line) :
    dropReturn line = line := by
  obtain ⟨tail, hsplit, htail⟩ := exists_dropReturn_append line
  rw [hsplit] at h
  have hnil := eq_nil_of_trimEnd_append h htail
  rw [hnil, List.append_nil] at hsplit
  exact hsplit.symm

/-! ### The characters of lines that are no white space -/

theorem solid_joinLines (ls : List (List Char)) : solid (joinLines ls) = ls.flatMap solid := by
  cases ls with
  | nil => rfl
  | cons first rest =>
    have hfeed : (fun line => ('\n' :: line).filter fun c => !isBlank c) = solid := by
      funext line
      simp [solid, show isBlank '\n' = true by decide]
    rw [joinLines_cons, solid_append, List.flatMap_cons, solid, solid, List.filter_flatMap, hfeed]

theorem solid_dropReturn (line : List Char) : solid (dropReturn line) = solid line := by
  obtain ⟨tail, hsplit, htail⟩ := exists_dropReturn_append line
  conv_rhs => rw [hsplit, solid_append, solid_eq_nil_iff.2 htail, List.append_nil]

/-- The lines of a text are what it is cut into, without the returns at their ends and without an
empty last one. -/
theorem exists_lines_eq (text : List Char) :
    ∃ parts last, splitAt '\n' text = parts ++ [last] ∧
      lines text = parts.map dropReturn ++ if last.isEmpty then [] else [last] := by
  have hne := splitAt_ne_nil '\n' text
  refine ⟨_, _, (List.dropLast_append_getLast hne).symm, ?_⟩
  rw [lines, List.getLastD_eq_getLast?, List.getLast?_eq_some_getLast hne, Option.getD_some]

theorem flatMap_solid_lines (text : List Char) : (lines text).flatMap solid = solid text := by
  obtain ⟨parts, last, hsplit, hlines⟩ := exists_lines_eq text
  have htext : joinLines (parts ++ [last]) = text := by
    rw [← hsplit]
    exact joinWith_splitAt '\n' text
  rw [hlines, ← htext, solid_joinLines, List.flatMap_append, List.flatMap_append,
    List.flatMap_map]
  cases last <;> simp [solid_dropReturn]

theorem not_mem_of_mem_lines {text line : List Char} (h : line ∈ lines text) : '\n' ∉ line := by
  obtain ⟨parts, last, hsplit, hlines⟩ := exists_lines_eq text
  rw [hlines, List.mem_append, List.mem_map] at h
  rcases h with ⟨part, hpart, rfl⟩ | h
  · obtain ⟨tail, hdrop, -⟩ := exists_dropReturn_append part
    have hmem : part ∈ splitAt '\n' text := by
      rw [hsplit]
      exact List.mem_append_left _ hpart
    have hfeed := not_mem_of_mem_splitAt hmem
    rw [hdrop, List.mem_append, not_or] at hfeed
    exact hfeed.1
  · have hlast : line = last := by
      split at h
      · exact absurd h List.not_mem_nil
      · exact List.mem_singleton.1 h
    have hmem : line ∈ splitAt '\n' text := by
      rw [hsplit, hlast]
      exact List.mem_append_right _ (List.mem_singleton.2 rfl)
    exact not_mem_of_mem_splitAt hmem

/-! ### Tidy lines -/

/-- No line holds a line feed or ends in white space, the text begins with a character that is no
white space, and the last line is not empty. -/
structure IsTidy (first : List Char) (rest : List (List Char)) : Prop where
  feed : ∀ line ∈ first :: rest, '\n' ∉ line
  ends : ∀ line ∈ first :: rest, trimEnd line = line
  begins : ∃ c cs, first = c :: cs ∧ isBlank c = false
  last : (first :: rest).getLast? ≠ some []

/-- Tidy lines are the lines of the text that they make. -/
theorem IsTidy.lines_joinLines {first : List Char} {rest : List (List Char)}
    (h : IsTidy first rest) : lines (joinLines (first :: rest)) = first :: rest := by
  obtain ⟨parts, last, hsplit, hlines⟩ := exists_lines_eq (joinLines (first :: rest))
  have hparts : first :: rest = parts ++ [last] := (splitAt_joinWith h.feed).symm.trans hsplit
  have hlast : last.isEmpty = false := by
    have hne := h.last
    rw [hparts, List.getLast?_concat, ne_eq, Option.some_inj] at hne
    simpa using hne
  have hmap : parts.map dropReturn = parts := by
    rw [List.map_congr_left fun part hpart => dropReturn_of_trimEnd (h.ends part ?_), List.map_id']
    rw [hparts]
    exact List.mem_append_left _ hpart
  rw [hlines, hmap, hlast, hparts]
  rfl

theorem IsTidy.isTrimmed {first : List Char} {rest : List (List Char)}
    (h : IsTidy first rest) : IsTrimmed (joinLines (first :: rest)) := by
  constructor
  · obtain ⟨c, cs, rfl, hc⟩ := h.begins
    rw [joinLines_cons]
    simpa using hc
  · obtain ⟨parts, last, hparts⟩ : ∃ parts last, first :: rest = parts ++ [last] :=
      ⟨_, _, (List.dropLast_append_getLast (List.cons_ne_nil first rest)).symm⟩
    have hne := h.last
    have hends := h.ends last (by rw [hparts]; simp)
    obtain ⟨front, hjoin, -⟩ := exists_joinWith_concat '\n' parts last
    rw [hparts, List.getLast?_concat, ne_eq, Option.some_inj] at hne
    rw [hparts, joinLines, hjoin, List.getLast?_append_of_ne_nil _ hne]
    exact trimEnd_eq_self_iff.1 hends

theorem dropReturn_cons {c : Char} (hc : isBlank c = false) (cs : List Char) :
    dropReturn (c :: cs) = c :: dropReturn cs :=
  dropReturn.eq_3 c cs fun hreturn _ => by
    rw [hreturn] at hc
    exact absurd hc (by decide)

/-- The last part of a trimmed text holds its last character. -/
theorem not_isBlankText_of_joinWith {parts : List (List Char)} {last : List Char}
    (h : IsTrimmed (joinWith '\n' (parts ++ [last]))) (hne : parts ≠ [] ∨ last ≠ []) :
    isBlankText last = false := by
  obtain ⟨front, hjoin, hfront⟩ := exists_joinWith_concat '\n' parts last
  rw [hjoin] at h
  by_cases hlast : last = []
  · obtain ⟨before, rfl⟩ := hfront.resolve_left fun hnil => by
      rcases hne with hne | hne
      · exact hne hnil.1
      · exact hne hlast
    have hfeed := h.last '\n' (by simp [hlast])
    exact absurd hfeed (by decide)
  · have hend := h.last (last.getLast hlast) (by
      rw [List.getLast?_append_of_ne_nil front hlast, List.getLast?_eq_some_getLast hlast]
      rfl)
    rw [isBlankText, List.all_eq_false]
    exact ⟨_, List.getLast_mem hlast, by simpa using hend⟩

/-- The first line of a trimmed text begins, and the last one ends, with a character that is no
white space. -/
theorem exists_lines_of_isTrimmed {text : List Char} (h : IsTrimmed text) (hne : text ≠ []) :
    ∃ first rest, lines text = first :: rest ∧ (∃ c cs, first = c :: cs ∧ isBlank c = false) ∧
      ∃ last, (first :: rest).getLast? = some last ∧ isBlankText last = false := by
  obtain ⟨parts, last, hsplit, hlines⟩ := exists_lines_eq text
  have htext : joinWith '\n' (parts ++ [last]) = text := by
    rw [← hsplit, joinWith_splitAt]
  have hblank : isBlankText last = false := by
    refine not_isBlankText_of_joinWith (htext ▸ h) ?_
    by_contra hnil
    obtain ⟨rfl, rfl⟩ := not_or.1 hnil |>.imp not_not.1 not_not.1
    exact hne htext.symm
  have hlast : last ≠ [] := fun hnil => by simp [hnil, isBlankText] at hblank
  rw [if_neg (by simpa using hlast)] at hlines
  obtain ⟨c, cs, rfl⟩ := List.exists_cons_of_ne_nil hne
  have hc : isBlank c = false := h.head c rfl
  cases parts with
  | nil =>
    rw [List.nil_append, joinWith_singleton] at htext
    exact ⟨last, [], hlines, ⟨c, cs, htext, hc⟩, last, rfl, hblank⟩
  | cons part parts =>
    refine ⟨dropReturn part, parts.map dropReturn ++ [last], hlines, ?_, last, ?_, hblank⟩
    · obtain ⟨next, more, hmore⟩ := List.exists_cons_of_ne_nil (l := parts ++ [last]) (by simp)
      rw [List.cons_append, hmore, joinWith_cons_cons] at htext
      cases part with
      | nil =>
        rw [← (List.cons.inj htext).1] at hc
        exact absurd hc (by decide)
      | cons d ds =>
        rw [(List.cons.inj htext).1]
        exact ⟨c, dropReturn ds, dropReturn_cons hc ds, hc⟩
    · rw [← List.cons_append, List.getLast?_concat]

end TaskRunner
