import TaskRunner.Text.Blank
import TaskRunner.Text.Lines

/-! Scripts with their common margin removed.  The first line of a script stands beside the brace
that opens its block, so the margin is that of the lines after it. -/

namespace TaskRunner

/-- A character that indents a line. -/
def isIndent (c : Char) : Bool :=
  c == ' ' || c == '\t'

/-- The number of spaces and tabs that `line` begins with. -/
def indentWidth (line : List Char) : Nat :=
  (line.takeWhile isIndent).length

/-- The least indentation among the lines that are not blank. -/
def margin (ls : List (List Char)) : Nat :=
  (((ls.filter fun line => !isBlankText line).map indentWidth).min?).getD 0

/-- A line without its first `width` characters and the white space at its end. -/
def outdentLine (width : Nat) (line : List Char) : List Char :=
  if isBlankText line then [] else trimEnd (line.drop width)

/-- A script with the margin of the lines after the first removed from them, and white space removed
at the end of every line. -/
def dedent (script : List Char) : List Char :=
  match lines script with
  | [] => []
  | first :: rest => joinLines (trimEnd first :: rest.map (outdentLine (margin rest)))

@[simp] theorem dedent_nil : dedent [] = [] := rfl

/-- No line that is not blank is indented less than the margin. -/
theorem margin_le_indentWidth {ls : List (List Char)} {line : List Char} (hmem : line ∈ ls)
    (hline : isBlankText line = false) : margin ls ≤ indentWidth line := by
  have h : indentWidth line ∈ (ls.filter fun line => !isBlankText line).map indentWidth :=
    List.mem_map.2 ⟨line, List.mem_filter.2 ⟨hmem, by simp [hline]⟩, rfl⟩
  unfold margin
  cases hmin : ((ls.filter fun line => !isBlankText line).map indentWidth).min? with
  | none =>
    rw [List.min?_eq_none_iff] at hmin
    rw [hmin] at h
    exact absurd h List.not_mem_nil
  | some m => exact (List.min?_eq_some_iff.1 hmin).2 _ h

end TaskRunner
