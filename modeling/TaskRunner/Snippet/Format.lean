import TaskRunner.Snippet.Value
import TaskRunner.Text.CharClass

/-! How snippets lay out values: by a specification in a text with values in it, and by conversions
behind percent signs. -/

namespace TaskRunner.Snippet

/-! ### Specifications -/

/-- How a value is to be laid out. -/
structure Specification where
  fill : Char
  align : Option Char
  sign : Char
  marked : Bool
  zeros : Bool
  width : Nat
  grouping : Option Char
  precision : Option Nat
  kind : Option Char
deriving DecidableEq, Repr

namespace Specification

/-- The character says where a value stands. -/
def isAlign (c : Char) : Bool := c == '<' || c == '>' || c == '^' || c == '='

/-- The number at the front of a text, and the text after it. -/
def numberAt (text : List Char) : Option Nat × List Char :=
  let digits := text.takeWhile Char.isDigit
  (if digits.isEmpty then none else some (digitsValue digits), text.drop digits.length)

/-- The specification that a text is. -/
def ofText? (text : List Char) : Option Specification :=
  let (fill, align, rest) : Char × Option Char × List Char := match text with
    | c :: d :: rest =>
      if isAlign d then (c, some d, rest)
      else if isAlign c then (' ', some c, d :: rest)
      else (' ', none, c :: d :: rest)
    | [c] => if isAlign c then (' ', some c, []) else (' ', none, [c])
    | [] => (' ', none, [])
  let (sign, rest) := match rest with
    | '+' :: rest => ('+', rest)
    | '-' :: rest => ('-', rest)
    | ' ' :: rest => (' ', rest)
    | rest => ('-', rest)
  let (marked, rest) := match rest with
    | '#' :: rest => (true, rest)
    | rest => (false, rest)
  let (zeros, rest) := match rest with
    | '0' :: rest => (true, rest)
    | rest => (false, rest)
  let (width, rest) := numberAt rest
  let (grouping, rest) := match rest with
    | ',' :: rest => (some ',', rest)
    | '_' :: rest => (some '_', rest)
    | rest => (none, rest)
  let (precision, rest) := match rest with
    | '.' :: rest => numberAt rest
    | rest => (none, rest)
  match rest with
  | [] => some ⟨fill, align, sign, marked, zeros, width.getD 0, grouping, precision, none⟩
  | [c] => some ⟨fill, align, sign, marked, zeros, width.getD 0, grouping, precision, some c⟩
  | _ => none

/-- Digits with a mark between groups of three. -/
def grouped (mark : Char) (digits : List Char) : List Char :=
  let step (found : List Char × Nat) (c : Char) : List Char × Nat :=
    if found.2 ≠ 0 ∧ found.2 % 3 = 0 then (c :: mark :: found.1, found.2 + 1)
    else (c :: found.1, found.2 + 1)
  (digits.reverse.foldl step ([], 0)).1

/-- A text filled up to the width. -/
def filled (specification : Specification) (usual : Char) (text : List Char) : List Char :=
  let missing := specification.width - text.length
  match specification.align.getD usual with
  | '<' => text ++ List.replicate missing specification.fill
  | '^' =>
    List.replicate (missing / 2) specification.fill ++ text ++
      List.replicate (missing - missing / 2) specification.fill
  | _ => List.replicate missing specification.fill ++ text

/-- The sign of a number. -/
def signText (specification : Specification) (negative : Bool) : List Char :=
  if negative then ['-'] else if specification.sign = '-' then [] else [specification.sign]

/-- A number with its sign, filled up to the width. -/
def number (specification : Specification) (negative : Bool) (front digits : List Char) :
    List Char :=
  let whole := digits.takeWhile Char.isAlphanum
  let digits := match specification.grouping with
    | some mark => grouped mark whole ++ digits.drop whole.length
    | none => digits
  let sign := specification.signText negative ++ front
  if specification.align = some '=' ∨ (specification.zeros ∧ specification.align = none) then
    let fill := if specification.zeros then '0' else specification.fill
    sign ++ List.replicate (specification.width - sign.length - digits.length) fill ++ digits
  else specification.filled '>' (sign ++ digits)

/-- The size of a number with a fraction, as a kind of layout says. -/
def floatDigits (specification : Specification) (kind : Option Char) (x : Float) : List Char :=
  if x.isNaN then "nan".toList
  else if x.isInf then "inf".toList
  else
    let parts := Fraction.parts x.abs
    let precision := specification.precision.getD 6
    match kind with
    | some 'f' => Fraction.fixed specification.marked precision parts
    | some 'F' => Fraction.fixed specification.marked precision parts
    | some 'e' => Fraction.scientific specification.marked precision parts
    | some 'E' => (Fraction.scientific specification.marked precision parts).map Char.toUpper
    | some '%' =>
      Fraction.fixed specification.marked precision (Fraction.parts (x.abs * 100)) ++ ['%']
    | some _ => Fraction.general specification.marked precision parts
    | none =>
      match specification.precision with
      | some precision => Fraction.general specification.marked precision parts
      | none => (floatText x.abs).toList

/-- The digits of a whole number as a kind of layout says, with what stands before them. -/
def intDigits? (specification : Specification) (n : Nat) : Option (List Char × List Char) :=
  let front (letters : String) : List Char :=
    if specification.marked then letters.toList else []
  match specification.kind.getD 'd' with
  | 'd' => some ([], Nat.toDigits 10 n)
  | 'n' => some ([], Nat.toDigits 10 n)
  | 'b' => some (front "0b", Nat.toDigits 2 n)
  | 'o' => some (front "0o", Nat.toDigits 8 n)
  | 'x' => some (front "0x", Nat.toDigits 16 n)
  | 'X' => some (front "0X", (Nat.toDigits 16 n).map Char.toUpper)
  | _ => none

end Specification

/-- Kinds of layout for numbers with a fraction. -/
def isFloatKind (c : Char) : Bool := "eEfFgG%".toList.contains c

/-- The value laid out as a specification says, or the reason why it cannot be. -/
def laidOut (heap : Heap) (value : Value) (specification : List Char) : Except String String :=
  match Specification.ofText? specification with
  | none => .error "Invalid format specifier"
  | some found =>
    let unknown : Except String String :=
      .error ("Unknown format code '" ++ String.singleton (found.kind.getD ' ') ++
        "' for object of type '" ++ value.typeName heap ++ "'")
    match value with
    | .int n =>
      if (found.kind.map isFloatKind).getD false then
        let x := Float.ofInt n
        .ok (String.ofList (found.number (n < 0) [] (found.floatDigits found.kind x)))
      else if found.kind = some 'c' then
        .ok (String.ofList (found.filled '<' [Char.ofNat n.toNat]))
      else
        match found.intDigits? n.natAbs with
        | some (front, digits) => .ok (String.ofList (found.number (n < 0) front digits))
        | none => unknown
    | .float x =>
      if found.kind.isNone ∨ (found.kind.map isFloatKind).getD false ∨ found.kind = some 'n' then
        .ok (String.ofList (found.number (Fraction.parts x).negative []
          (found.floatDigits found.kind x)))
      else unknown
    | value =>
      if found.kind.isSome ∧ found.kind ≠ some 's' then unknown
      else
        let text := (value.plain heap).toList
        let text := match found.precision with
          | some precision => text.take precision
          | none => text
        .ok (String.ofList (found.filled '<' text))

/-! ### Conversions -/

/-- Why a conversion cannot be made: the kind of the failure and its text. -/
abbrev Complaint := String × String

/-- The number that a value is, for a conversion. -/
def wholeFor (heap : Heap) (conversion : Char) (value : Value) : Except Complaint Int :=
  match value with
  | .float x => .ok (Fraction.truncate x)
  | value =>
    match value.int? with
    | some n => .ok n
    | none =>
      .error ("TypeError", "%" ++ String.singleton conversion ++
        " format: a real number is required, not " ++ value.typeName heap)

/-- A value laid out as a conversion says. -/
def converted (heap : Heap) (layout : Layout) (conversion : Char) (value : Value) :
    Except Complaint (List Char) :=
  match conversion with
  | 's' => .ok (layout.text (value.plain heap).toList)
  | 'r' => .ok (layout.text (value.represented heap).toList)
  | 'c' =>
    match value with
    | .int n => .ok (layout.fill [Char.ofNat n.toNat])
    | value => .ok (layout.fill (value.plain heap).toList)
  | conversion =>
    if ['d', 'i', 'u'].contains conversion then do
      return layout.signed (← wholeFor heap conversion value)
    else if ['x', 'X', 'o'].contains conversion then do
      let n ← wholeFor heap conversion value
      let digits := layout.unsigned conversion n.natAbs
      return if n < 0 then '-' :: digits else digits
    else if ['e', 'f', 'g'].contains conversion.toLower then
      match value.number? with
      | some (.inl n) => .ok (Fraction.write layout conversion (Float.ofInt n))
      | some (.inr x) => .ok (Fraction.write layout conversion x)
      | none => .error ("TypeError", "must be real number, not " ++ value.typeName heap)
    else
      .error ("ValueError", "unsupported format character '" ++ String.singleton conversion ++ "'")

/-- A text with values in place of its conversions.  The first argument bounds how many there are.
-/
def withValues (heap : Heap) (entries : List (Value × Value)) :
    Nat → List Char → List Value → Except Complaint (List Char × List Value)
  | 0, text, values => .ok (text, values)
  | _ + 1, [], values => .ok ([], values)
  | fuel + 1, '%' :: '%' :: rest, values => do
    let (text, values) ← withValues heap entries fuel rest values
    return ('%' :: text, values)
  | fuel + 1, '%' :: rest, values => do
    let (name, rest) : Option (List Char) × List Char := match rest with
      | '(' :: more =>
        let name := more.takeWhile (· != ')')
        (some name, more.drop (name.length + 1))
      | rest => (none, rest)
    let flags := rest.takeWhile fun c => ['-', '+', ' ', '#', '0'].contains c
    let (width, rest) := Specification.numberAt (rest.drop flags.length)
    let (precision, rest) := match rest with
      | '.' :: rest =>
        let (precision, rest) := Specification.numberAt rest
        (some (precision.getD 0), rest)
      | rest => (none, rest)
    let layout : Layout := ⟨flags, width.getD 0, precision⟩
    match rest with
    | [] => throw ("ValueError", "incomplete format")
    | conversion :: rest => do
      let (value, values) ← match name, values with
        | some name, values => do
          let key := Value.text (String.ofList name)
          match entries.find? fun entry => entry.1.equal heap maxNesting key with
          | some entry => pure (entry.2, values)
          | none => throw ("KeyError", String.ofList name)
        | none, value :: values => pure (value, values)
        | none, [] => throw ("TypeError", "not enough arguments for format string")
      let first ← converted heap layout conversion value
      let (text, values) ← withValues heap entries fuel rest values
      return (first ++ text, values)
  | fuel + 1, c :: rest, values => do
    let (text, values) ← withValues heap entries fuel rest values
    return (c :: text, values)

end TaskRunner.Snippet
