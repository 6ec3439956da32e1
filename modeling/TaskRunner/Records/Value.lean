import TaskRunner.Text.CharClass
import TaskRunner.Text.Fraction

/-! The values of a script that works on records: numbers and texts, each of which stands for the
other where that is asked for. -/

namespace TaskRunner.Records

/-- A value.  A text that was read counts as a number if it looks like one, and `missing` is that of
a variable that was never set. -/
inductive Value where
  | missing
  | number (x : Float)
  | text (text : Text)
  | input (text : Text)
deriving Inhabited

/-! ### Numbers in texts -/

/-- The number that hexadecimal digits at the front of a text stand for. -/
def hexadecimal? (text : Text) : Option Float :=
  let digits := text.takeWhile fun c => (hexDigit? c).isSome
  if digits.isEmpty then none
  else some (Float.ofNat (digits.foldl (fun n c => 16 * n + (hexDigit? c).getD 0) 0))

/-- The number at the front of a text, which is zero if there is none. -/
def numberAtFront (text : Text) : Float :=
  let text := text.dropWhile isSpaceChar
  let (negative, digits) := match text with
    | '-' :: rest => (true, rest)
    | '+' :: rest => (false, rest)
    | rest => (false, rest)
  let hexadecimal := match digits with
    | '0' :: c :: rest => if c = 'x' ∨ c = 'X' then hexadecimal? rest else none
    | _ => none
  match hexadecimal with
  | some x => if negative then -x else x
  | none => ((Fraction.read? text).map Prod.fst).getD 0

/-- The text is a number as a whole, but for white space around it. -/
def looksNumeric (text : Text) : Bool :=
  let text := text.dropWhile isSpaceChar
  let digits := match text with
    | '-' :: rest => rest
    | '+' :: rest => rest
    | rest => rest
  match Fraction.decimalAt? digits with
  | some (_, rest) => rest.all isSpaceChar
  | none => false

/-! ### Formats of numbers -/

/-- The greatest number that is written like a whole one, and the least one. -/
def wholeBounds : Float × Float := (-9223372036854775808.0, 18446744073709551615.0)

/-- The whole number that a number is, if it is one that is written like that. -/
def whole? (x : Float) : Option Int :=
  if wholeBounds.1 ≤ x ∧ x ≤ wholeBounds.2 ∧ Fraction.isWhole x then
    some (min (Fraction.truncate x) 18446744073709551615)
  else none

/-- A number laid out as a conversion says.  One that is undefined has a sign. -/
def writeNumber (layout : Layout) (conversion : Char) (x : Float) : Text :=
  if x.isNaN then layout.fill "-nan".toList else Fraction.write layout conversion x

/-- The layout that a format for numbers asks for, with its conversion and what stands around it. -/
def numberLayout (format : Text) : Layout × Char × Text × Text :=
  let front := format.takeWhile (· != '%')
  let rest := format.drop (front.length + 1)
  let flags := rest.takeWhile fun c => ['-', '+', ' ', '#', '0'].contains c
  let rest := rest.drop flags.length
  let width := rest.takeWhile Char.isDigit
  let rest := rest.drop width.length
  let (precision, rest) : Option Nat × Text := match rest with
    | '.' :: rest =>
      let digits := rest.takeWhile Char.isDigit
      (some (digitsValue digits), rest.drop digits.length)
    | rest => (none, rest)
  (⟨flags, digitsValue width, precision⟩, rest.headD 'g', front, rest.drop 1)

/-- The text of a number by a format.  Whole numbers are written without a fraction. -/
def numberText (format : Text) (x : Float) : Text :=
  match whole? x with
  | some n => (toString n).toList
  | none =>
    let (layout, conversion, front, back) := numberLayout format
    front ++ writeNumber layout conversion x ++ back

/-! ### Values -/

namespace Value

/-- The number that a value stands for. -/
def toNumber : Value → Float
  | missing => 0
  | number x => x
  | .text content => numberAtFront content
  | .input content => numberAtFront content

/-- The text that a value stands for, by the format for numbers. -/
def toText (format : Text) : Value → Text
  | missing => []
  | number x => numberText format x
  | .text content => content
  | .input content => content

/-- The value counts as a number in a comparison. -/
def isNumeric : Value → Bool
  | missing => true
  | number _ => true
  | .text _ => false
  | .input content => looksNumeric content

/-- The value holds as a condition. -/
def holds : Value → Bool
  | missing => false
  | number x => x != 0
  | .text content => !content.isEmpty
  | .input content =>
    if looksNumeric content then numberAtFront content != 0 else !content.isEmpty

/-- The value of a condition. -/
def ofBool (holds : Bool) : Value := .number (if holds then 1 else 0)

/-- The value of a whole number. -/
def ofNat (n : Nat) : Value := .number (Float.ofNat n)

/-- The order of two values: as numbers if both count as such, or as texts. -/
def compare (format : Text) (a b : Value) : Ordering :=
  if a.isNumeric ∧ b.isNumeric then
    let (x, y) := (a.toNumber, b.toNumber)
    if x < y then .lt else if y < x then .gt else .eq
  else
    let (s, t) := (a.toText format, b.toText format)
    if s == t then .eq else if isNotAfter s t then .lt else .gt

end Value

end TaskRunner.Records
