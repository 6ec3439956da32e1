import TaskRunner.Text.Octet

/-! Layouts: how numbers and texts are filled up to a width, with the flags and the precision that a
conversion in a format asks for. -/

namespace TaskRunner

/-- How a value is to be laid out: the flags, the width, and the precision. -/
structure Layout where
  flags : List Char
  width : Nat
  precision : Option Nat
deriving DecidableEq, Repr

namespace Layout

/-- The flag is set. -/
def has (layout : Layout) (flag : Char) : Bool :=
  layout.flags.contains flag

/-- A text filled up to the width with spaces. -/
def fill (layout : Layout) (text : Text) : Text :=
  let missing := List.replicate (layout.width - text.length) ' '
  if layout.has '-' then text ++ missing else missing ++ text

/-- A number filled up to the width, behind what stands before its digits if zeros are to fill it.
-/
def fillNumber (layout : Layout) (zeros : Bool) (front digits : Text) : Text :=
  if zeros ∧ layout.has '0' ∧ ¬ layout.has '-' then
    front ++ List.replicate (layout.width - front.length - digits.length) '0' ++ digits
  else layout.fill (front ++ digits)

/-- The sign that stands before a number. -/
def sign (layout : Layout) (negative : Bool) : Text :=
  if negative then ['-']
  else if layout.has '+' then ['+']
  else if layout.has ' ' then [' ']
  else []

/-- The digits of a number in a base, at least as many as the precision asks for. -/
def digits (layout : Layout) (base n : Nat) : Text :=
  let digits := if n = 0 ∧ layout.precision = some 0 then [] else Nat.toDigits base n
  List.replicate (layout.precision.getD 1 - digits.length) '0' ++ digits

/-- A text, of which no more counts than the precision says. -/
def text (layout : Layout) (content : Text) : Text :=
  layout.fill (match layout.precision with
    | some n => content.take n
    | none => content)

/-- A whole number with its sign. -/
def signed (layout : Layout) (n : Int) : Text :=
  layout.fillNumber layout.precision.isNone (layout.sign (n < 0)) (layout.digits 10 n.natAbs)

/-- A number without a sign, in a base.  With a mark, numbers show which base they are in. -/
def unsigned (layout : Layout) (conversion : Char) (n : Nat) : Text :=
  let zeros := layout.precision.isNone
  match conversion with
  | 'o' =>
    let digits := layout.digits 8 n
    let marked := layout.has '#' && digits.head? != some '0'
    layout.fillNumber zeros [] (if marked then '0' :: digits else digits)
  | 'x' =>
    layout.fillNumber zeros (if layout.has '#' && n != 0 then ['0', 'x'] else [])
      (layout.digits 16 n)
  | 'X' =>
    layout.fillNumber zeros (if layout.has '#' && n != 0 then ['0', 'X'] else [])
      ((layout.digits 16 n).map Char.toUpper)
  | _ => layout.fillNumber zeros [] (layout.digits 10 n)

end Layout

/-- A text with spaces before it, up to a width. -/
def padLeft (width : Nat) (text : Text) : Text :=
  List.replicate (width - text.length) ' ' ++ text

/-- A text with spaces behind it, up to a width. -/
def padRight (width : Nat) (text : Text) : Text :=
  text ++ List.replicate (width - text.length) ' '

/-- The decimal digits of a number. -/
def decimal (n : Nat) : Text :=
  (toString n).toList

end TaskRunner
