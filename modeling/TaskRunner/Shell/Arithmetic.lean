import TaskRunner.Shell.Pattern
import TaskRunner.Shell.Scan

/-! Arithmetic of the shell: whole numbers of 64 bits with the operators of C. -/

namespace TaskRunner.Shell

/-- A number of 64 bits. -/
def wrap (n : Int) : Int :=
  Int.bmod n UInt64.size

/-- The nearest number of 64 bits. -/
def saturate (n : Int) : Int :=
  max (-9223372036854775808) (min n 9223372036854775807)

/-- A token of an expression. -/
inductive Term where
  | number (value : Int)
  | name (name : String)
  | sign (symbol : String)

/-- Why an expression has no value. -/
inductive ArithmeticFault where
  | expecting (what : String)
  | divisionByZero
  | notNumber (text : Text)
deriving DecidableEq

/-- The values of the variables of an expression, the last one first. -/
abbrev Bindings := List (String × Text)

/-- The signs, longer ones before their beginnings. -/
def signs : List String :=
  ["<<=", ">>=", "&&", "||", "==", "!=", "<=", ">=", "<<", ">>", "+=", "-=", "*=", "/=", "%=", "&=",
    "|=", "^=", "+", "-", "*", "/", "%", "<", ">", "=", "!", "~", "&", "|", "^", "?", ":", "(", ")"]

/-- The character is a digit in a base. -/
def isDigitIn (base : Nat) (c : Char) : Bool :=
  match hexDigit? c with
  | some value => value < base
  | none => false

/-- The number that digits in a base stand for. -/
def baseValue (base : Nat) (digits : Text) : Nat :=
  digits.foldl (fun n c => base * n + (hexDigit? c).getD 0) 0

/-- The number at the front of a text and the text after it: hexadecimal, octal or decimal. -/
def numberAt (text : Text) : Nat × Text :=
  let inBase (base : Nat) (text : Text) : Nat × Text :=
    (baseValue base (text.takeWhile (isDigitIn base)), text.dropWhile (isDigitIn base))
  let hexadecimal (digits rest : Text) : Nat × Text :=
    if (digits.takeWhile (isDigitIn 16)).isEmpty then (0, rest) else inBase 16 digits
  match text with
  | '0' :: 'x' :: digits => hexadecimal digits ('x' :: digits)
  | '0' :: 'X' :: digits => hexadecimal digits ('X' :: digits)
  | '0' :: digits => inBase 8 digits
  | digits => inBase 10 digits

/-- The text after a sign, and whether it is a minus. -/
def unsigned : Text → Bool × Text
  | '-' :: digits => (true, digits)
  | '+' :: digits => (false, digits)
  | digits => (false, digits)

/-- The number of 64 bits. -/
def inRange (n : Int) : Option Int :=
  if saturate n = n then some n else none

/-- The number that a text stands for, with a sign and with white space around it. -/
def signedValue (text : Text) : Option Int :=
  let (negative, digits) := unsigned (text.dropWhile isSpaceChar)
  if digits.head?.any Char.isDigit then
    let (n, rest) := numberAt digits
    if rest.all isSpaceChar then inRange (if negative then -n else n) else none
  else none

/-- The decimal number that a text stands for, with a sign and with white space around it. -/
def decimalValue (text : Text) : Option Int :=
  let (negative, digits) := unsigned (text.dropWhile isSpaceChar)
  let n : Int := digitsValue (digits.takeWhile Char.isDigit)
  if (digits.takeWhile Char.isDigit).isEmpty then none
  else if (digits.dropWhile Char.isDigit).all isSpaceChar then some (if negative then -n else n)
  else none

/-- The number of a count, which is not negative and fits into 31 bits. -/
def countValue (text : Text) : Option Nat :=
  match decimalValue text with
  | some n => if 0 ≤ n ∧ n < 2147483648 then some n.toNat else none
  | none => none

/-- The text before the bracket that closes a subscript, and the text after it. -/
def closeIndex : Nat → Text → Text × Text
  | _, [] => ([], [])
  | depth, c :: cs =>
    if c = ']' ∧ depth = 0 then ([], cs)
    else
      let depth := if c = '[' then depth + 1 else if c = ']' then depth - 1 else depth
      let more := closeIndex depth cs
      (c :: more.1, more.2)

/-- The tokens of an expression.  What is no token stands at the end. -/
def scanTerms : Nat → Text → List Term
  | 0, _ => []
  | _ + 1, [] => []
  | fuel + 1, c :: cs =>
    if isSpaceChar c then scanTerms fuel cs
    else if c.isDigit then
      let (n, rest) := numberAt (c :: cs)
      .number (saturate n) :: scanTerms fuel rest
    else if isNameStart c then
      .name (String.ofList ((c :: cs).takeWhile isNameChar)) ::
        scanTerms fuel ((c :: cs).dropWhile isNameChar)
    else
      match signs.find? fun symbol => symbol.toList.isPrefixOf (c :: cs) with
      | some symbol => .sign symbol :: scanTerms fuel ((c :: cs).drop symbol.length)
      | none => [.sign (String.singleton c)]

/-- How tightly an operator with two operands binds. -/
def precedence (symbol : String) : Option Nat :=
  if symbol = "||" then some 1
  else if symbol = "&&" then some 2
  else if symbol = "|" then some 3
  else if symbol = "^" then some 4
  else if symbol = "&" then some 5
  else if symbol = "==" ∨ symbol = "!=" then some 6
  else if symbol ∈ ["<", ">", "<=", ">="] then some 7
  else if symbol = "<<" ∨ symbol = ">>" then some 8
  else if symbol = "+" ∨ symbol = "-" then some 9
  else if symbol = "*" ∨ symbol = "/" ∨ symbol = "%" then some 10
  else none

/-- One for true and zero for false. -/
def truth (b : Bool) : Int := if b then 1 else 0

/-- An operation on the bits of two numbers. -/
def bitwise (operation : BitVec 64 → BitVec 64 → BitVec 64) (a b : Int) : Int :=
  (operation (BitVec.ofInt 64 a) (BitVec.ofInt 64 b)).toInt

/-- A power, with a bound on the number of binary digits of the exponent. -/
def power (a : Int) : Nat → Nat → Int
  | 0, _ => 1
  | digits + 1, n =>
    if n = 0 then 1
    else
      let half := power (wrap (a * a)) digits (n / 2)
      if n % 2 = 1 then wrap (a * half) else half

/-- The value of an operator with two operands.  There is none for a division by zero. -/
def operate (symbol : String) (a b : Int) : Option Int :=
  match symbol with
  | "||" => some (truth (a != 0 || b != 0))
  | "&&" => some (truth (a != 0 && b != 0))
  | "|" => some (bitwise (· ||| ·) a b)
  | "^" => some (bitwise (· ^^^ ·) a b)
  | "&" => some (bitwise (· &&& ·) a b)
  | "==" => some (truth (a == b))
  | "!=" => some (truth (a != b))
  | "<" => some (truth (decide (a < b)))
  | ">" => some (truth (decide (b < a)))
  | "<=" => some (truth (decide (a ≤ b)))
  | ">=" => some (truth (decide (b ≤ a)))
  | "<<" => some (bitwise (fun x y => x <<< (y.toNat % 64)) a b)
  | ">>" => some (bitwise (fun x y => x.sshiftRight (y.toNat % 64)) a b)
  | "+" => some (wrap (a + b))
  | "-" => some (wrap (a - b))
  | "*" => some (wrap (a * b))
  | "/" => if b = 0 then none else some (wrap (Int.tdiv a b))
  | "%" => if b = 0 then none else some (wrap (Int.tmod a b))
  | _ => none

/-- The value of an operator where it counts: what is not `live` has no faults. -/
def operateIf (live : Bool) (symbol : String) (a b : Int) : Except ArithmeticFault Int :=
  match operate symbol a b with
  | some value => .ok value
  | none => if live then .error .divisionByZero else .ok b

/-- The bindings after an assignment where it counts. -/
def bind (live : Bool) (bindings : Bindings) (name : String) (value : Int) : Bindings :=
  if live then (name, (toString value).toList) :: bindings else bindings

/-- The outcome of reading an expression: its value, the bindings after it, and what follows. -/
abbrev Reckoned := Except ArithmeticFault (Int × Bindings × List Term)

/-- Something else is expected. -/
def expecting {α : Type} (what : String) : Except ArithmeticFault α :=
  .error (.expecting what)

/-- An operand is missing. -/
def missingOperand {α : Type} : Except ArithmeticFault α := expecting "primary"

/-- The signs that assign what an operator makes of the value before. -/
def changingSigns : List String :=
  ["<<=", ">>=", "+=", "-=", "*=", "/=", "%=", "&=", "|=", "^="]

/-- The value that a variable has where it counts. -/
def nameValue (live : Bool) (bindings : Bindings) (name : String) : Except ArithmeticFault Int :=
  match bindings.lookup name with
  | none => .ok 0
  | some text =>
    if ¬ live ∨ text.all isSpaceChar then .ok 0
    else
      match signedValue text with
      | some n => .ok n
      | none => .error (.notNumber text)

mutual

/-- An expression: a conditional or an assignment.  What is not `live` has no effects. -/
def reckon : Nat → Bool → Bindings → List Term → Reckoned
  | 0, _, _, _ => missingOperand
  | fuel + 1, live, bindings, terms => do
    match terms with
    | .name name :: .sign symbol :: rest =>
      if symbol = "=" then
        let (value, bindings, rest) ← reckon fuel live bindings rest
        return (value, bind live bindings name value, rest)
      else if changingSigns.contains symbol then
        let (value, bindings, rest) ← reckon fuel live bindings rest
        let earlier ← nameValue live bindings name
        let value ← operateIf live (String.ofList symbol.toList.dropLast) earlier value
        return (value, bind live bindings name value, rest)
      else reckonConditional fuel live bindings terms
    | _ => reckonConditional fuel live bindings terms

/-- A condition, and the two expressions between which it decides. -/
def reckonConditional : Nat → Bool → Bindings → List Term → Reckoned
  | 0, _, _, _ => missingOperand
  | fuel + 1, live, bindings, terms => do
    let (condition, bindings, rest) ← reckonOperators fuel live 0 bindings terms
    match rest with
    | .sign "?" :: rest =>
      let (first, bindings, rest) ← reckon fuel (live && condition != 0) bindings rest
      match rest with
      | .sign ":" :: rest =>
        let (second, bindings, rest) ←
          reckonConditional fuel (live && condition == 0) bindings rest
        return (if condition = 0 then second else first, bindings, rest)
      | _ => expecting "':'"
    | rest => return (condition, bindings, rest)

/-- Operands joined by operators that bind at least as tightly as the limit. -/
def reckonOperators : Nat → Bool → Nat → Bindings → List Term → Reckoned
  | 0, _, _, _, _ => missingOperand
  | fuel + 1, live, limit, bindings, terms => do
    let (first, bindings, rest) ← reckonOperand fuel live bindings terms
    reckonMore fuel live limit first bindings rest

/-- What is joined to a first operand. -/
def reckonMore : Nat → Bool → Nat → Int → Bindings → List Term → Reckoned
  | 0, _, _, _, _, _ => missingOperand
  | fuel + 1, live, limit, first, bindings, .sign symbol :: rest =>
    match precedence symbol with
    | some tightness =>
      if limit ≤ tightness then do
        let decided := symbol = "||" ∧ first ≠ 0 ∨ symbol = "&&" ∧ first = 0
        let (second, bindings, rest) ←
          reckonOperators fuel (live && !decide decided) (tightness + 1) bindings rest
        let value ← operateIf live symbol first second
        reckonMore fuel live limit value bindings rest
      else .ok (first, bindings, .sign symbol :: rest)
    | none => .ok (first, bindings, .sign symbol :: rest)
  | _ + 1, _, _, first, bindings, rest => .ok (first, bindings, rest)

/-- A number, a variable, a sign before an operand, or an expression in parentheses. -/
def reckonOperand : Nat → Bool → Bindings → List Term → Reckoned
  | 0, _, _, _ => missingOperand
  | fuel + 1, live, bindings, terms =>
    match terms with
    | .number value :: rest => .ok (value, bindings, rest)
    | .sign "(" :: rest => do
      let (value, bindings, rest) ← reckon fuel live bindings rest
      match rest with
      | .sign ")" :: rest => return (value, bindings, rest)
      | _ => expecting "')'"
    | .sign "-" :: rest => do
      let (value, bindings, rest) ← reckonOperand fuel live bindings rest
      return (wrap (-value), bindings, rest)
    | .sign "+" :: rest => reckonOperand fuel live bindings rest
    | .sign "!" :: rest => do
      let (value, bindings, rest) ← reckonOperand fuel live bindings rest
      return (truth (value == 0), bindings, rest)
    | .sign "~" :: rest => do
      let (value, bindings, rest) ← reckonOperand fuel live bindings rest
      return (wrap (-value - 1), bindings, rest)
    | .name name :: rest => do return (← nameValue live bindings name, bindings, rest)
    | _ => missingOperand

end

/-- The value of an expression and the bindings after it. -/
def evaluateArithmetic (bindings : Bindings) (expression : Text) :
    Except ArithmeticFault (Int × Bindings) := do
  let terms := scanTerms (expression.length + 1) expression
  let (value, bindings, rest) ← reckon (16 * terms.length + 10000) true bindings terms
  if rest.isEmpty then return (value, bindings) else expecting "EOF"

end TaskRunner.Shell
