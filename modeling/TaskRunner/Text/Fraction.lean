import TaskRunner.Text.Layout

/-! Numbers with a fraction, in the double precision of the machine: reading them off a text, and
writing them with some number of digits.  What is written is the exact value, rounded once. -/

namespace TaskRunner.Fraction

/-- A number as a whole number times a power of two. -/
structure Parts where
  negative : Bool
  mantissa : Nat
  exponent : Int
deriving DecidableEq, Repr

/-- The bits of a number from a place on. -/
def bitsFrom (place : Nat) (bits : UInt64) : Nat :=
  bits.toNat >>> place

/-- The parts of a number that is neither infinite nor undefined. -/
def parts (x : Float) : Parts :=
  let bits := x.toBits
  let negative := bitsFrom 63 bits == 1
  let exponent := bitsFrom 52 bits % 2048
  let fraction := bits.toNat % 4503599627370496
  if exponent = 0 then ⟨negative, fraction, -1074⟩
  else ⟨negative, fraction + 4503599627370496, (exponent : Int) - 1075⟩

/-- A quotient rounded to the nearest whole number, and to an even one from the middle. -/
def roundedQuotient (a b : Nat) : Nat :=
  let q := a / b
  let twice := 2 * (a % b)
  if twice < b ∨ (twice = b ∧ q % 2 = 0) then q else q + 1

/-- A number times a power of ten, as a quotient. -/
def scaled (parts : Parts) (places : Int) : Nat × Nat :=
  let ten := Nat.pow 10 places.natAbs
  let two := Nat.pow 2 parts.exponent.natAbs
  let above := (if 0 ≤ places then ten else 1) * (if 0 ≤ parts.exponent then two else 1)
  let below := (if 0 ≤ places then 1 else ten) * (if 0 ≤ parts.exponent then 1 else two)
  (parts.mantissa * above, below)

/-- The size of a number times a power of ten, rounded to a whole number. -/
def roundedAt (parts : Parts) (places : Int) : Nat :=
  roundedQuotient (scaled parts places).1 (scaled parts places).2

/-- The power of ten of the first digit of a number. -/
def magnitude (parts : Parts) : Int :=
  if parts.mantissa = 0 then 0
  else
    let (a, b) := scaled parts 400
    ((Nat.toDigits 10 (a / b)).length : Int) - 401

/-- Digits with a point before the last ones. -/
def withPoint (marked : Bool) (places n : Nat) : Text :=
  let digits := Nat.toDigits 10 n
  let digits := List.replicate (places + 1 - digits.length) '0' ++ digits
  let whole := digits.take (digits.length - places)
  let fraction := digits.drop (digits.length - places)
  if places = 0 ∧ ¬ marked then whole else whole ++ '.' :: fraction

/-- The size of a number with some digits behind the point. -/
def fixed (marked : Bool) (places : Nat) (parts : Parts) : Text :=
  withPoint marked places (roundedAt parts places)

/-- An exponent, with a sign and at least two digits. -/
def exponentText (e : Int) : Text :=
  let digits := Nat.toDigits 10 e.natAbs
  (if e < 0 then '-' else '+') :: (List.replicate (2 - digits.length) '0' ++ digits)

/-- The digits of a number to some place behind the first one, with the exponent of the first one.
-/
def significant (places : Nat) (parts : Parts) : Nat × Int :=
  let e := magnitude parts
  let n := roundedAt parts (places - e)
  if n = Nat.pow 10 (places + 1) then (n / 10, e + 1) else (n, e)

/-- The size of a number with an exponent, and with some digits behind the point. -/
def scientific (marked : Bool) (places : Nat) (parts : Parts) : Text :=
  let (n, e) := significant places parts
  withPoint marked places n ++ 'e' :: exponentText e

/-- Digits without the zeros that end their fraction. -/
def trimmed (digits : Text) : Text :=
  if digits.contains '.' then
    let kept := digits.reverse.dropWhile (· == '0')
    (kept.dropWhile (· == '.')).reverse
  else digits

/-- The size of a number with some digits, and with an exponent if it is very great or small. -/
def general (marked : Bool) (precision : Nat) (parts : Parts) : Text :=
  let precision := max precision 1
  let (_, e) := significant (precision - 1) parts
  let trim (digits : Text) : Text := if marked then digits else trimmed digits
  if -4 ≤ e ∧ e < precision then trim (fixed marked (precision - 1 - e).toNat parts)
  else
    let text := scientific marked (precision - 1) parts
    let digits := text.takeWhile (· != 'e')
    trim digits ++ text.drop digits.length

/-- A number laid out as a conversion says. -/
def write (layout : Layout) (conversion : Char) (x : Float) : Text :=
  let raise (text : Text) : Text := if conversion.isUpper then text.map Char.toUpper else text
  if x.isNaN then layout.fill (raise ((if (x.toBits >>> 63) = 1 then "-nan" else "nan" : String)))
  else if x.isInf then layout.fill (raise (layout.sign (x < 0) ++ ("inf" : String)))
  else
    let parts := parts x
    let precision := layout.precision.getD 6
    let marked := layout.has '#'
    let digits := match conversion.toLower with
      | 'e' => scientific marked precision parts
      | 'g' => general marked precision parts
      | _ => fixed marked precision parts
    layout.fillNumber true (layout.sign parts.negative) (raise digits)

/-- The decimal number at the front of a text, without a sign, and the text after it. -/
def decimalAt? (text : Text) : Option (Float × Text) :=
  let whole := text.takeWhile Char.isDigit
  let rest := text.drop whole.length
  let fraction := match rest with
    | '.' :: more => more.takeWhile Char.isDigit
    | _ => []
  if whole.isEmpty ∧ fraction.isEmpty then none
  else
    let rest := match rest with
      | '.' :: more => more.drop fraction.length
      | _ => rest
    let value (digits : Text) : Nat := digits.foldl (fun n c => 10 * n + (c.toNat - '0'.toNat)) 0
    let (e, rest) : Int × Text := match rest with
      | c :: more =>
        if c = 'e' ∨ c = 'E' then
          let (negative, digits) := match more with
            | '-' :: digits => (true, digits)
            | '+' :: digits => (false, digits)
            | digits => (false, digits)
          let power := digits.takeWhile Char.isDigit
          if power.isEmpty then (0, rest)
          else
            let e : Int := min (value power) 100000
            (if negative then -e else e, digits.drop power.length)
        else (0, rest)
      | [] => (0, rest)
    let e := e - fraction.length
    let digits := value (whole ++ fraction)
    let number :=
      if 0 ≤ e then Float.ofScientific digits false e.natAbs
      else Float.ofScientific digits true e.natAbs
    some (number, rest)

/-- The number at the front of a text, after white space and with a sign, and the text after it. -/
def read? (text : Text) : Option (Float × Text) :=
  let text := text.dropWhile fun c => c == ' ' || (9 ≤ c.toNat && c.toNat ≤ 13)
  let (negative, rest) := match text with
    | '-' :: rest => (true, rest)
    | '+' :: rest => (false, rest)
    | rest => (false, rest)
  let named (name : String) (number : Float) : Option (Float × Text) :=
    if (rest.take name.length).map Char.toLower = name.toList then
      some (number, rest.drop name.length)
    else none
  let found := decimalAt? rest <|> named "infinity" (1.0 / 0.0) <|> named "inf" (1.0 / 0.0) <|>
    named "nan" (0.0 / 0.0)
  found.map fun (number, rest) => (if negative then -number else number, rest)

/-- A number without its fraction. -/
def truncate (x : Float) : Int :=
  let parts := parts x
  let n := if 0 ≤ parts.exponent then parts.mantissa * Nat.pow 2 parts.exponent.natAbs
    else parts.mantissa / Nat.pow 2 parts.exponent.natAbs
  if parts.negative then -n else n

/-- The number has no fraction. -/
def isWhole (x : Float) : Bool :=
  x.isFinite && x == x.floor

/-- What is left of a number when another one is taken away from it as often as possible. -/
def remainder (x y : Float) : Float :=
  if y == 0 ∨ ¬ x.isFinite ∨ y.isNaN then 0.0 / 0.0
  else if y.isInf then x
  else
    let (a, b) := (parts x, parts y)
    let least := min a.exponent b.exponent
    let scaled (parts : Parts) : Nat :=
      parts.mantissa * Nat.pow 2 (parts.exponent - least).toNat
    let size := Float.ofNat (scaled a % scaled b) * (2.0 : Float).pow (Float.ofInt least)
    if a.negative then -size else size

end TaskRunner.Fraction
