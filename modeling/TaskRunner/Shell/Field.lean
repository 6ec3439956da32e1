import TaskRunner.Shell.Pattern

/-! Fields: what an expanded word falls into.  Some stretches of an expanded word are regions, in
which separators end fields; outside of them they do not. -/

namespace TaskRunner.Shell

/-- A part of an expanded word: a character, a mark that something was quoted, or the beginning or
end of a region.  In a strict region a NUL is the only separator. -/
inductive Cell where
  | char (c : Char) (quoted : Bool)
  | mark
  | opening (strict : Bool)
  | closing
deriving DecidableEq, Repr

namespace Cell

/-- The characters of a text as cells. -/
def ofText (quoted : Bool) (text : Text) : List Cell :=
  text.map fun c => .char c quoted

/-- The characters of cells. -/
def text (cells : List Cell) : Text :=
  cells.filterMap fun cell =>
    match cell with
    | .char c _ => some c
    | _ => none

/-- The pattern that cells make up: quoted characters stand for themselves. -/
def pattern (cells : List Cell) : Text :=
  cells.flatMap fun cell =>
    match cell with
    | .char c quoted => if quoted then ['\\', c] else [c]
    | _ => []

/-- The characters that mean something in a regular expression. -/
def expressionSigns : Text :=
  ".[]()*+?\x7b\x7d|^$\\".toList

/-- The regular expression that cells make up: quoted characters stand for themselves. -/
def expression (cells : List Cell) : Text :=
  cells.flatMap fun cell =>
    match cell with
    | .char c quoted => if quoted && expressionSigns.contains c then ['\\', c] else [c]
    | _ => []

/-- Cells as a region. -/
def region (strict : Bool) (cells : List Cell) : List Cell :=
  .opening strict :: cells ++ [.closing]

end Cell

/-- How far the cutting of cells into fields has come: the fields that are done and the one that is
being read, both with what came last in front; how many fields may still be added before the last
one, if there is a bound; what of the last one is to be kept; whether white space has just ended a
field; and whether the region, and the one before it, are strict. -/
structure FieldReader where
  done : List (List Cell)
  current : List Cell
  left : Option Nat
  kept : Option Nat
  afterSpace : Bool
  inside : Bool
  strict : Bool
  strictBefore : Bool

namespace FieldReader

/-- The reader of a word that falls into a number of fields at most. -/
def start (most : Option Nat) : FieldReader :=
  ⟨[], [], most, none, false, false, false, false⟩

/-- The character separates fields and is white space, or stands between arguments. -/
def isSpacing (c : Char) : Bool :=
  c == ' ' || c == '\t' || c == '\n' || c == '\x00'

/-- The reader after one more character of the last field, which is not cut any more. -/
def readLast (reader : FieldReader) (cell : Cell) (separates spacing : Bool) : FieldReader :=
  let current := cell :: reader.current
  if separates ∧ spacing then
    { reader with current, kept := some (reader.kept.getD reader.current.length) }
  else
    let kept := if separates ∧ reader.afterSpace then reader.kept else none
    { reader with current, kept, afterSpace := false }

/-- The reader after a separator. -/
def separate (reader : FieldReader) (cell : Cell) (spacing : Bool) : FieldReader :=
  let afterSpace :=
    if reader.strict ∨ reader.strictBefore then reader.afterSpace else spacing
  if reader.current.isEmpty ∧ afterSpace then { reader with afterSpace := false }
  else
    let added : FieldReader :=
      { reader with done := reader.current :: reader.done, current := [], afterSpace }
    match reader.left with
    | none => added
    | some left =>
      if left ≤ 1 then
        { reader with
          left := some 0
          kept := some reader.current.length
          current := cell :: reader.current
          afterSpace }
      else { added with left := some (left - 1) }

/-- The reader after one more character of a region. -/
def readChar (separators : Text) (reader : FieldReader) (c : Char) (quoted : Bool) : FieldReader :=
  let cell := Cell.char c quoted
  let separates := c == '\x00' || (!reader.strict && separators.contains c)
  let spacing := separates && isSpacing c
  if reader.left = some 0 then reader.readLast cell separates spacing
  else if reader.afterSpace then
    if separates then
      if spacing then { reader with current := [] }
      else { reader with current := [], afterSpace := false }
    else { reader with current := [cell], afterSpace := false }
  else if separates then reader.separate cell spacing
  else { reader with current := cell :: reader.current }

/-- The reader after one more cell. -/
def read (separators : Text) (reader : FieldReader) (cell : Cell) : FieldReader :=
  match cell with
  | .opening strict =>
    { reader with
      inside := true, strict, strictBefore := reader.strict, afterSpace := false }
  | .closing => { reader with inside := false }
  | .mark => { reader with current := .mark :: reader.current }
  | .char c quoted =>
    if reader.inside then reader.readChar separators c quoted
    else { reader with current := cell :: reader.current }

/-- All fields. -/
def finish (reader : FieldReader) : List (List Cell) :=
  let last := match reader.kept with
    | some count => reader.current.drop (reader.current.length - count)
    | none => reader.current
  let fields := if last.isEmpty ∧ ¬ reader.strict then reader.done else last :: reader.done
  (fields.map List.reverse).reverse

end FieldReader

/-- The fields that cells fall into. -/
def fields (separators : Text) (most : Option Nat) (cells : List Cell) : List (List Cell) :=
  (cells.foldl (FieldReader.read separators) (.start most)).finish

end TaskRunner.Shell
