import TaskRunner.Program.Input
import TaskRunner.Regex.Parse
import TaskRunner.Regex.Search
import TaskRunner.Text.Fraction

/-! Programs that reckon: `seq` counts, `expr` works out an expression, and `factor` takes numbers
apart. -/

namespace TaskRunner.Program

open Tool

/-! ### `seq` -/

/-- A decimal number: a whole number and how many of its digits stand behind the point. -/
structure Fixed where
  value : Int
  places : Nat
deriving DecidableEq, Repr

namespace Fixed

/-- The number that a text stands for.  It may have an exponent. -/
def ofText? (text : Text) : Option Fixed := do
  let (negative, body) : Bool × Text := match text with
    | '-' :: rest => (true, rest)
    | '+' :: rest => (false, rest)
    | rest => (false, rest)
  let whole := body.takeWhile Char.isDigit
  let rest := body.drop whole.length
  let fraction := match rest with
    | '.' :: more => more.takeWhile Char.isDigit
    | _ => []
  let rest := if rest.head? = some '.' then rest.drop (fraction.length + 1) else rest
  if whole.isEmpty ∧ fraction.isEmpty then none
  else
    let exponent : Int ← match rest with
      | [] => some 0
      | c :: more =>
        if c = 'e' ∨ c = 'E' then
          match more with
          | '-' :: digits => (wholeNumber? digits).map fun n => -(n : Int)
          | '+' :: digits => (wholeNumber? digits).map fun n => (n : Int)
          | digits => (wholeNumber? digits).map fun n => (n : Int)
        else none
    let n : Int := digitsValue (whole ++ fraction)
    let n := if negative then -n else n
    let places : Int := fraction.length - exponent
    if places < 0 then return ⟨n * Nat.pow 10 places.natAbs, 0⟩
    else return ⟨n, places.toNat⟩

/-- The number with a number of digits behind the point that is no smaller. -/
def valueAt (number : Fixed) (places : Nat) : Int :=
  number.value * Nat.pow 10 (places - number.places)

/-- A number with some digits behind the point. -/
def write (places : Nat) (n : Int) : Text :=
  (if n < 0 then ['-'] else []) ++ Fraction.withPoint false places n.natAbs

end Fixed

/-- How many digits a text has behind its point. -/
def placesOf (text : Text) : Nat :=
  match text.dropWhile (· != '.') with
  | '.' :: rest => (rest.takeWhile Char.isDigit).length
  | _ => 0

/-- The switches of `seq`. -/
def seqSwitches : Switches :=
  ⟨"w", "fs", "", [("equal-width", .nothing, "w"), ("format", .value, "f"),
    ("separator", .value, "s")], true⟩

/-- The arguments of `seq` with a mark before the first negative number. -/
def withEndOfSwitches : List Text → List Text
  | [] => []
  | argument :: rest =>
    match argument with
    | '-' :: c :: _ =>
      if c.isDigit ∨ c = '.' then ['-', '-'] :: argument :: rest
      else if argument = ['-', 'f'] ∨ argument = ['-', 's'] then
        match rest with
        | value :: rest => argument :: value :: withEndOfSwitches rest
        | [] => [argument]
      else argument :: withEndOfSwitches rest
    | _ => argument :: rest

/-- A format taken apart: what stands before its one conversion, the layout and the letter of that,
and what stands behind. -/
structure CountFormat where
  front : Text
  layout : Layout
  letter : Char
  back : Text

/-- The parts of a format. -/
def countFormat (format : Text) : Except Text CountFormat := do
  let rec front : Nat → Text → Text → Except Text (Text × Text)
    | 0, _, _ => wrong []
    | _ + 1, _, [] => wrong ("format " ++ quoted format ++ " has no % directive")
    | fuel + 1, done, '%' :: '%' :: cs => front fuel ('%' :: done) cs
    | _ + 1, done, '%' :: cs => .ok (done.reverse, cs)
    | fuel + 1, done, c :: cs => front fuel (c :: done) cs
  let (before, rest) ← front (format.length + 1) [] format
  let flags := rest.takeWhile fun c => "-+#0 '".toList.contains c
  let rest := rest.drop flags.length
  let width := rest.takeWhile Char.isDigit
  let rest := rest.drop width.length
  let precision : Option Text := match rest with
    | '.' :: more => some (more.takeWhile Char.isDigit)
    | _ => none
  let rest := rest.drop (match precision with
    | some digits => digits.length + 1
    | none => 0)
  let rest := if rest.head? = some 'L' then rest.drop 1 else rest
  match rest with
  | [] => wrong ("format " ++ quoted format ++ " ends in %")
  | letter :: behind =>
    if ¬ "efgaEFGA".toList.contains letter then
      wrong ("format " ++ quoted format ++ " has unknown %" ++ letter :: " directive".toList)
    else
      let rec back : Nat → Text → Text → Except Text Text
        | 0, done, _ => .ok done.reverse
        | _ + 1, done, [] => .ok done.reverse
        | fuel + 1, done, '%' :: '%' :: cs => back fuel ('%' :: done) cs
        | _ + 1, _, '%' :: _ =>
          wrong ("format " ++ quoted format ++ " has too many % directives")
        | fuel + 1, done, c :: cs => back fuel (c :: done) cs
      let behind ← back (behind.length + 1) [] behind
      return ⟨before, ⟨flags, digitsValue width, precision.map digitsValue⟩, letter, behind⟩

/-- An operand without the space in front of it, and in decimal digits if it has hexadecimal
ones. -/
def decimalOperand (text : Text) : Text :=
  let text := text.dropWhile isSpaceChar
  let digits := text.drop 2
  if text.take 2 = ['0', 'x'] ∧ ¬ digits.isEmpty ∧ digits.all fun c => (hexDigit? c).isSome then
    decimal (digits.foldl (fun n c => 16 * n + (hexDigit? c).getD 0) 0)
  else text

/-- The program `seq`. -/
def seq (call : Call) : Task :=
  withOptions 1 1 seqSwitches { call with arguments := withEndOfSwitches call.arguments }
    fun options => do
      let number (text : Text) : Tool (Option Fixed × Nat) := do
        let plain := decimalOperand text
        match Fixed.ofText? plain with
        | some number => return (some number, placesOf plain)
        | none =>
          let plain := text.map Char.toLower
          if ["inf", "+inf", "infinity"].contains (String.ofList plain) then return (none, 0)
          misuse 1 ("invalid floating point argument: " ++ quoted text)
      let (first, step, last) : Text × Text × Text ← match options.operands with
        | [] => misuse 1 "missing operand".toList
        | [last] => pure (['1'], ['1'], last)
        | [first, last] => pure (first, ['1'], last)
        | [first, step, last] => pure (first, step, last)
        | _ :: _ :: _ :: extra :: _ => misuse 1 ("extra operand " ++ quoted extra)
      let (firstNumber, firstPlaces) ← number first
      let (stepNumber, stepPlaces) ← number step
      let (lastNumber, lastPlaces) ← number last
      if stepNumber.any (·.value == 0) then
        misuse 1 ("invalid Zero increment value: " ++ quoted step)
      let format ← match options.value? "f" with
        | none => pure none
        | some text =>
          if options.has "w" then
            misuse 1 ("format string may not be specified when printing " ++
              "equal width strings").toList
          else
            match countFormat text with
            | .ok format => pure (some format)
            | .error message => fail 1 message
      match firstNumber, stepNumber with
      | some firstNumber, some stepNumber => do
        let places := max firstPlaces stepPlaces
        let fine := max (max firstNumber.places stepNumber.places)
          (max places ((lastNumber.map Fixed.places).getD 0))
        let start := firstNumber.valueAt fine
        let stride := stepNumber.valueAt fine
        let stop := lastNumber.map (·.valueAt fine)
        let shown (n : Int) : Text :=
          Fixed.write places (if n < 0 then
              -((n.natAbs / Nat.pow 10 (fine - places) : Nat) : Int)
            else ((n.natAbs / Nat.pow 10 (fine - places) : Nat) : Int))
        let past (n : Int) : Bool := match stop with
          | none => false
          | some stop => if 0 < stride then stop < n else n < stop
        let final : Int := match stop with
          | none => start
          | some stop => start + (stop - start).tdiv stride * stride
        let width := if options.has "w" then max (shown start).length (shown final).length else 0
        let _ := lastPlaces
        let text (n : Int) : Text := match format with
          | some format =>
            let x := Float.ofInt n / Float.ofNat (Nat.pow 10 fine)
            format.front ++ Fraction.write format.layout format.letter x ++ format.back
          | none =>
            let digits := shown n
            if digits.length < width then
              match digits with
              | '-' :: rest => '-' :: (List.replicate (width - digits.length) '0' ++ rest)
              | rest => List.replicate (width - digits.length) '0' ++ rest
            else digits
        let separator := (options.value? "s").getD ['\n']
        if past start then return
        say (text start)
        Tool.loop (fun n : Int => do
          if past n then return .inr ()
          if (← get).refused.isSome then return .inr ()
          say (separator ++ text n)
          return .inl (n + stride)) (fun _ => pure ()) (start + stride)
        say ['\n']
      | _, _ => sayLine "inf".toList

/-! ### `expr` -/

/-- What is left of the operands of `expr`, and the one before. -/
structure ExprReader where
  rest : List Text
  before : Text

/-- A step of working out an expression, which may fail with a status and a complaint. -/
abbrev Reckoning := StateT ExprReader (Except (Nat × Text))

/-- The expression is ill. -/
def illExpression {α : Type} (message : Text) : Reckoning α :=
  throw (2, "syntax error: " ++ message)

/-- Takes an operand if it is one of some signs. -/
def takeSign (signs : List String) : Reckoning (Option String) := do
  let reader ← get
  match reader.rest with
  | word :: rest =>
    let word := String.ofList word
    if signs.contains word then
      set (⟨rest, ofString word⟩ : ExprReader)
      return some word
    else return none
  | [] => return none

/-- Takes the next operand. -/
def takeOperand : Reckoning Text := do
  let reader ← get
  match reader.rest with
  | word :: rest => do
    set (⟨rest, word⟩ : ExprReader)
    return word
  | [] => illExpression ("missing argument after " ++ quoted reader.before)

/-- The whole number that a value is. -/
def integer? (value : Text) : Option Int :=
  match value with
  | '-' :: digits => (wholeNumber? digits).map fun n => -(n : Int)
  | digits => (wholeNumber? digits).map fun n => (n : Int)

/-- A value counts as nothing: it is empty or zero. -/
def isNothing (value : Text) : Bool :=
  match value with
  | [] => true
  | '-' :: digits => !digits.isEmpty && digits.all (· == '0')
  | digits => digits.all (· == '0')

/-- The whole number that a value has to be. -/
def integerOf (value : Text) : Reckoning Int :=
  match integer? value with
  | some n => return n
  | none => throw (2, "non-integer argument".toList)

/-- A whole number as a value. -/
def integerText (n : Int) : Text := (toString n).toList

/-- What fits an expression at the beginning of a text: the text of its first group, or how much it
is. -/
def matchFront (text pattern : Text) : Reckoning Text := do
  match Regex.ofText ⟨false, false⟩ pattern with
  | .error fault => throw (2, fault.message.toList)
  | .ok regex =>
    let grouped := 0 < regex.groups
    let subject := text.toArray
    match (Regex.both (.edge .textStart) regex).matcher false false |>.find? subject 0 with
    | some hit =>
      if grouped then return hit.text subject 1 else return decimal (hit.stop - hit.start)
    | none => return if grouped then [] else ['0']

mutual

/-- Values of which the first that counts as something is meant. -/
def exprEither : Nat → Reckoning Text
  | 0 => illExpression []
  | fuel + 1 => do
    let first ← exprBoth fuel
    exprEitherRest fuel first

/-- More values of which the first that counts as something is meant. -/
def exprEitherRest : Nat → Text → Reckoning Text
  | 0, first => return first
  | fuel + 1, first => do
    match ← takeSign ["|"] with
    | none => return first
    | some _ => do
      let second ← exprBoth fuel
      exprEitherRest fuel
        (if isNothing first then (if isNothing second then ['0'] else second) else first)

/-- Values of which the first is meant if all count as something. -/
def exprBoth : Nat → Reckoning Text
  | 0 => illExpression []
  | fuel + 1 => do
    let first ← exprCompared fuel
    exprBothRest fuel first

/-- More values of which the first is meant if all count as something. -/
def exprBothRest : Nat → Text → Reckoning Text
  | 0, first => return first
  | fuel + 1, first => do
    match ← takeSign ["&"] with
    | none => return first
    | some _ => do
      let second ← exprCompared fuel
      exprBothRest fuel (if isNothing first || isNothing second then ['0'] else first)

/-- Values that are compared. -/
def exprCompared : Nat → Reckoning Text
  | 0 => illExpression []
  | fuel + 1 => do
    let first ← exprSum fuel
    exprComparedRest fuel first

/-- More values that are compared. -/
def exprComparedRest : Nat → Text → Reckoning Text
  | 0, first => return first
  | fuel + 1, first => do
    match ← takeSign ["<", "<=", "=", "==", "!=", ">=", ">"] with
    | none => return first
    | some sign => do
      let second ← exprSum fuel
      let order := match integer? first, integer? second with
        | some a, some b => compare a b
        | _, _ => compare (String.ofList first) (String.ofList second)
      let holds : Bool := match sign with
        | "<" => order == .lt
        | "<=" => order != .gt
        | "=" => order == .eq
        | "==" => order == .eq
        | "!=" => order != .eq
        | ">=" => order != .lt
        | _ => order == .gt
      exprComparedRest fuel (if holds then ['1'] else ['0'])

/-- Sums and differences. -/
def exprSum : Nat → Reckoning Text
  | 0 => illExpression []
  | fuel + 1 => do
    let first ← exprProduct fuel
    exprSumRest fuel first

/-- More to be added or taken away. -/
def exprSumRest : Nat → Text → Reckoning Text
  | 0, first => return first
  | fuel + 1, first => do
    match ← takeSign ["+", "-"] with
    | none => return first
    | some sign => do
      let second ← exprProduct fuel
      let a ← integerOf first
      let b ← integerOf second
      exprSumRest fuel (integerText (if sign = "+" then a + b else a - b))

/-- Products, quotients and remainders. -/
def exprProduct : Nat → Reckoning Text
  | 0 => illExpression []
  | fuel + 1 => do
    let first ← exprMatch fuel
    exprProductRest fuel first

/-- More factors. -/
def exprProductRest : Nat → Text → Reckoning Text
  | 0, first => return first
  | fuel + 1, first => do
    match ← takeSign ["*", "/", "%"] with
    | none => return first
    | some sign => do
      let second ← exprMatch fuel
      let a ← integerOf first
      let b ← integerOf second
      if sign ≠ "*" ∧ b = 0 then throw (2, "division by zero".toList)
      exprProductRest fuel
        (integerText (if sign = "*" then a * b else if sign = "/" then a.tdiv b else a.tmod b))

/-- Values that are matched against expressions. -/
def exprMatch : Nat → Reckoning Text
  | 0 => illExpression []
  | fuel + 1 => do
    let first ← exprWord fuel
    exprMatchRest fuel first

/-- More expressions to match against. -/
def exprMatchRest : Nat → Text → Reckoning Text
  | 0, first => return first
  | fuel + 1, first => do
    match ← takeSign [":"] with
    | none => return first
    | some _ => do
      let second ← exprWord fuel
      exprMatchRest fuel (← matchFront first second)

/-- What is done to some values, or a value in parentheses, or a value. -/
def exprWord : Nat → Reckoning Text
  | 0 => illExpression []
  | fuel + 1 => do
    let word ← takeOperand
    match String.ofList word with
    | "+" => takeOperand
    | "length" => do
      let value ← exprWord fuel
      return decimal value.length
    | "match" => do
      let text ← exprWord fuel
      let pattern ← exprWord fuel
      matchFront text pattern
    | "index" => do
      let text ← exprWord fuel
      let letters ← exprWord fuel
      return decimal (match text.findIdx? fun c => letters.contains c with
        | some n => n + 1
        | none => 0)
    | "substr" => do
      let text ← exprWord fuel
      let from_ ← exprWord fuel
      let count ← exprWord fuel
      match integer? from_, integer? count with
      | some from_, some count =>
        if from_ ≤ 0 ∨ count ≤ 0 then return []
        else return (text.drop (from_.toNat - 1)).take count.toNat
      | _, _ => return []
    | "(" => do
      let value ← exprEither fuel
      let reader ← get
      match reader.rest with
      | [')'] :: rest => do
        set (⟨rest, [')']⟩ : ExprReader)
        return value
      | other :: _ => illExpression ("expecting ')' instead of " ++ quoted other)
      | [] => illExpression ("expecting ')' after " ++ quoted reader.before)
    | ")" => illExpression "unexpected ')'".toList
    | _ => return word

end

/-- The program `expr`. -/
def expr (call : Call) : Task :=
  task 3 call do
    let operands := match call.arguments with
      | ['-', '-'] :: rest => rest
      | rest => rest
    if operands.isEmpty then misuse 2 "missing operand".toList
    let read : Reckoning Text := do
      let value ← exprEither (16 * operands.length + 16)
      match (← get).rest with
      | [] => return value
      | extra :: _ => illExpression ("unexpected argument " ++ quoted extra)
    match read.run ⟨operands, []⟩ with
    | .error (status, message) => complain status message
    | .ok (value, _) =>
      sayLine value
      if isNothing value then setStatus 1

/-! ### `factor` -/

/-- The prime factors of a number that are not below another one. -/
def factorsFrom : Nat → Nat → Nat → List Nat
  | 0, _, n => if 1 < n then [n] else []
  | fuel + 1, d, n =>
    if n < d * d then (if 1 < n then [n] else [])
    else if n % d = 0 then d :: factorsFrom fuel d (n / d)
    else factorsFrom fuel (d + 1) n

/-- The program `factor`. -/
def factor (call : Call) : Task :=
  withOptions 1 1 (.letters "h" "") call fun options => do
    let numbers ← if options.operands.isEmpty then do
        let (text, _) ← act (Act.readAll 0)
        pure ((text.map fun c => if isSpaceChar c then ' ' else c).splitOn ' ' |>.filter
          (!·.isEmpty))
      else pure options.operands
    Tool.each (fun text => do
      match wholeNumber? (if text.head? = some '+' then text.drop 1 else text) with
      | some n =>
        sayLine (decimal n ++ ':' ::
          (factorsFrom 10000000 2 n).flatMap fun p => ' ' :: decimal p)
      | none => complain 1 (quoted text ++ " is not a valid positive integer")) numbers

end TaskRunner.Program
