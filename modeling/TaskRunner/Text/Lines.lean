import TaskRunner.Text.Split

/-! Text as lines.  A line ends at a line feed; a carriage return just before the line feed belongs
to the ending. -/

namespace TaskRunner

/-- A line without the carriage return that may end it. -/
def dropReturn : List Char → List Char
  | [] => []
  | ['\r'] => []
  | c :: cs => c :: dropReturn cs

/-- The lines of a text.  A line feed at the very end starts no further line. -/
def lines (text : List Char) : List (List Char) :=
  let parts := splitAt '\n' text
  let last := parts.getLastD []
  parts.dropLast.map dropReturn ++ if last.isEmpty then [] else [last]

/-- The lines with one line feed between neighbours. -/
def joinLines (ls : List (List Char)) : List Char :=
  joinWith '\n' ls

@[simp] theorem lines_nil : lines [] = [] := rfl

end TaskRunner
