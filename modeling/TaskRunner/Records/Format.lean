import TaskRunner.Records.Value

/-! What a script for records writes by a format. -/

namespace TaskRunner.Records

/-- Why a format cannot be followed. -/
inductive FormatFault where
  | missing
  | improper (number : Nat)
deriving DecidableEq, Repr

/-- The text shown to a user. -/
def FormatFault.message (function : String) (format : Text) : FormatFault → Text
  | missing => "not enough arguments passed to " ++ ofString function ++ "(\"" ++ format ++ "\")"
  | improper number =>
    "improper conversion(number " ++ toString number ++ ") in " ++ ofString function ++ "(\"" ++
      format ++ "\")"

/-- The whole number that is written for a number. -/
def wholeNumber (x : Float) : Int :=
  if x.isNaN ∨ x ≤ wholeBounds.1 then -9223372036854775807
  else if wholeBounds.2 ≤ x then 18446744073709551615
  else Fraction.truncate x

/-- A value laid out as a conversion says, if there is such a conversion. -/
def converted? (numberFormat : Text) (layout : Layout) (conversion : Char) (value : Value) :
    Option Text :=
  let natural : Text :=
    layout.unsigned conversion (wholeNumber value.toNumber % 18446744073709551616).toNat
  match conversion with
  | 'd' => some (layout.signed (wholeNumber value.toNumber))
  | 'i' => some (layout.signed (wholeNumber value.toNumber))
  | 'o' => some natural
  | 'x' => some natural
  | 'X' => some natural
  | 'u' => some natural
  | 's' => some (layout.text (value.toText numberFormat))
  | 'c' =>
    match value with
    | .number x => some (layout.fill [Char.ofNat (wholeNumber x % 256).toNat])
    | value => some (layout.fill [(value.toText numberFormat).headD '\x00'])
  | conversion =>
    if ['e', 'f', 'g'].contains conversion.toLower then
      some (writeNumber layout conversion value.toNumber)
    else none

/-- A number for the layout, which a star takes from the values, and what is left of format and
values. -/
def layoutNumber (format : Text) (values : List Value) :
    Except FormatFault (Option Int × Text × List Value) :=
  match format with
  | '*' :: rest =>
    match values with
    | [] => .error .missing
    | value :: values => .ok (some (Fraction.truncate value.toNumber), rest, values)
  | format =>
    let digits := format.takeWhile Char.isDigit
    .ok (if digits.isEmpty then none else some (digitsValue digits), format.drop digits.length,
      values)

/-- The text of a conversion behind its sign, and what is left of format and values. -/
def conversionAt (numberFormat : Text) (number : Nat) (format : Text) (values : List Value) :
    Except FormatFault (Text × Text × List Value) := do
  let flags := format.takeWhile fun c => ['-', '+', ' ', '#', '0'].contains c
  let (width, rest, values) ← layoutNumber (format.drop flags.length) values
  let (precision, rest, values) : Option Int × Text × List Value ← match rest with
    | '.' :: rest => do
      let (precision, rest, values) ← layoutNumber rest values
      pure (some (precision.getD 0), rest, values)
    | rest => pure (none, rest, values)
  let width := width.getD 0
  let layout : Layout := ⟨if width < 0 then '-' :: flags else flags, width.natAbs,
    (precision.filter (0 ≤ ·)).map Int.toNat⟩
  match rest.dropWhile fun c => ['h', 'l', 'L'].contains c with
  | [] => throw (.improper number)
  | conversion :: rest =>
    let known := (converted? numberFormat layout conversion .missing).isSome
    if ¬ known then throw (.improper number)
    match values with
    | [] => throw .missing
    | value :: values =>
      return ((converted? numberFormat layout conversion value).getD [], rest, values)

/-- What is written by a format, and why that ends before the format does.  The first argument
bounds how many conversions there are; `written` stands with the last part in front. -/
def writeFormat (numberFormat : Text) : Nat → Nat → List Text → Text → List Value →
    Text × Option FormatFault
  | 0, _, written, _, _ => (written.reverse.flatten, none)
  | _ + 1, _, written, [], _ => (written.reverse.flatten, none)
  | fuel + 1, number, written, '%' :: '%' :: rest, values =>
    writeFormat numberFormat fuel number (['%'] :: written) rest values
  | fuel + 1, number, written, '%' :: rest, values =>
    match conversionAt numberFormat number rest values with
    | .error fault => (written.reverse.flatten, some fault)
    | .ok (text, rest, values) =>
      writeFormat numberFormat fuel (number + 1) (text :: written) rest values
  | fuel + 1, number, written, c :: rest, values =>
    writeFormat numberFormat fuel number ([c] :: written) rest values

/-- What is written for values by a format. -/
def formatted (numberFormat format : Text) (values : List Value) : Text × Option FormatFault :=
  writeFormat numberFormat (format.length + 1) 1 [] format values

end TaskRunner.Records
