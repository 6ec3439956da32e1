import TaskRunner.Text.Layout

/-! Menus: numbered texts in columns, as a reader is shown them who is to choose one. -/

namespace TaskRunner.Shell

/-- The blanks that lead from one column to another: tabs, which end at every eighth column, as far
as they go, and spaces. -/
def leadTo (target : Nat) : Nat → Nat → Text
  | 0, _ => []
  | fuel + 1, column =>
    if target ≤ column then []
    else if column / 8 < target / 8 then '\t' :: leadTo target fuel (column + 8 - column % 8)
    else ' ' :: leadTo target fuel (column + 1)

/-- How wide the lines of a menu are. -/
def menuWidth : Nat := 80

/-- A number and a text in a menu, where the number has some width. -/
def menuEntry (width number : Nat) (text : Text) : Text :=
  let digits := decimal number
  List.replicate (width - digits.length) ' ' ++ digits ++ ')' :: ' ' :: text

/-- The texts with their numbers in columns, one column if they would fill one line. -/
def menu (texts : List Text) : Text :=
  let count := texts.length
  let digits := (decimal count).length
  let widest := texts.foldl (fun n text => max n text.length) 0 + digits + 4
  let columns := max 1 (menuWidth / widest)
  let rows := (count + columns - 1) / columns
  let rows := if rows = 1 then count else rows
  (List.range rows).flatMap fun row => menuRow rows widest digits row
where
  /-- A row of the menu. -/
  menuRow (rows widest digits row : Nat) : Text :=
    let numbers := (List.range (texts.length / rows + 1)).filterMap fun (n : Nat) =>
      if row + n * rows < texts.length then some (row + n * rows) else none
    let parts := numbers.zipIdx.map fun (index, n) =>
      let width := if n = 0 then (decimal rows).length else digits
      let entry := menuEntry width (index + 1) (texts.getD index [])
      let place := n * widest
      if n + 1 = numbers.length then entry
      else entry ++ leadTo (place + widest) (widest + 1) (place + entry.length)
    parts.flatten ++ ['\n']

end TaskRunner.Shell
