import TaskRunner.Kernel.Task
import TaskRunner.Shell.Arithmetic

/-! The conditions that `test` decides. -/

namespace TaskRunner.Shell

/-- Who decides: the commands of the two shells, and the program outside. -/
inductive Tester where
  | plain
  | rich
  | outside
deriving DecidableEq, Repr

/-- A decision, which may need a look at files and may fail with a complaint. -/
abbrev Deciding := ExceptT Text Act

/-- A sign with a meaning among the operands of `test`. -/
inductive TestSign where
  | one (sign : Text)
  | two (sign : Text)
  | not
  | and
  | or
  | openGroup
  | closeGroup
deriving DecidableEq

/-- The signs that stand before one operand. -/
def singleSigns : List String :=
  ["-b", "-c", "-d", "-e", "-f", "-g", "-h", "-k", "-L", "-n", "-O", "-p", "-r", "-s", "-S", "-t",
    "-u", "-w", "-x", "-z", "-G"]

/-- The signs that stand between two operands. -/
def doubleSigns : List String :=
  ["=", "!=", "<", ">", "-eq", "-ne", "-gt", "-ge", "-lt", "-le", "-nt", "-ot", "-ef"]

/-- The sign that an operand is. -/
def testSign? (tester : Tester) (operand : Text) : Option TestSign :=
  match String.ofList operand with
  | "!" => some .not
  | "-a" => some .and
  | "-o" => some .or
  | "(" => some .openGroup
  | ")" => some .closeGroup
  | text =>
    if doubleSigns.contains text ∨ (text = "==" ∧ tester ≠ .plain) then some (.two operand)
    else if singleSigns.contains text then some (.one operand)
    else none

/-- The operand is a sign between two others. -/
def isBetween (tester : Tester) (operand : Text) : Bool :=
  match testSign? tester operand with
  | some (.two _) => true
  | _ => false

/-- A comparison of two numbers. -/
def compareNumbers (sign : String) : Option (Int → Int → Bool) :=
  match sign with
  | "-eq" => some fun a b => a == b
  | "-ne" => some fun a b => a != b
  | "-lt" => some fun a b => a < b
  | "-le" => some fun a b => a ≤ b
  | "-gt" => some fun a b => b < a
  | "-ge" => some fun a b => b ≤ a
  | _ => none

/-- The number of an operand, or the complaint that it is none. -/
def operandNumber (tester : Tester) (operand : Text) : Except Text Int :=
  match (decimalValue operand).bind inRange with
  | some n => .ok n
  | none => .error <| match tester with
    | .plain => "Illegal number: " ++ operand
    | .rich => operand ++ ": integer expression expected"
    | .outside => "invalid integer '" ++ operand ++ "'"

/-- What is known of the file at a path. -/
def fileInfo? (path : Text) (follow : Bool) : Act (Option FileInfo) := do
  match ← Act.ask (.inspect path follow) with
  | .ok info => return some info
  | .error _ => return none

/-- A condition on what is known of a file. -/
def holdsOf (sign : String) (info : FileInfo) : Bool :=
  match sign with
  | "-f" => info.kind == .regular
  | "-d" => info.kind == .directory
  | "-c" => info.kind == .device
  | "-p" => info.kind == .fifo
  | "-s" => info.size != 0
  | "-x" => info.kind == .directory || info.permissions &&& 0o111 != 0
  | "-u" => info.permissions &&& 0o4000 != 0
  | "-g" => info.permissions &&& 0o2000 != 0
  | "-k" => info.permissions &&& 0o1000 != 0
  | sign => ["-e", "-r", "-w", "-O", "-G"].contains sign

/-- A condition on one operand. -/
def testOne (sign operand : Text) : Act Bool := do
  match String.ofList sign with
  | "-n" => return !operand.isEmpty
  | "-z" => return operand.isEmpty
  | "-t" => return false
  | "-h" => return (← fileInfo? operand false).any fun info => info.kind == .link
  | "-L" => return (← fileInfo? operand false).any fun info => info.kind == .link
  | sign => return (← fileInfo? operand true).any (holdsOf sign)

/-- A comparison of two files by their times or names. -/
def compareFiles (tester : Tester) (sign : String) (first second : Text) : Act Bool := do
  let first ← fileInfo? first true
  let second ← fileInfo? second true
  match sign, first, second with
  | "-ef", some a, some b => return a.number == b.number
  | "-nt", some a, some b => return b.modified < a.modified
  | "-ot", some a, some b => return a.modified < b.modified
  | "-nt", some _, none => return tester != .plain
  | "-ot", none, some _ => return tester != .plain
  | _, _, _ => return false

/-- A condition on two operands. -/
def testTwo (tester : Tester) (sign first second : Text) : Deciding Bool := do
  match String.ofList sign with
  | "=" => return first == second
  | "==" => return first == second
  | "!=" => return first != second
  | "<" => return decide (String.ofList first < String.ofList second)
  | ">" => return decide (String.ofList second < String.ofList first)
  | sign =>
    match compareNumbers sign with
    | some compare =>
      let a ← operandNumber tester first
      let b ← operandNumber tester second
      return compare a b
    | none => compareFiles tester sign first second

/-! ### The plain shell -/

/-- The sign at the front of operands, where it is meant as one.  A sign for one operand is meant as
itself if nothing follows it or if it is compared with something. -/
def signAt? : List Text → Option TestSign
  | [] => none
  | operand :: rest =>
    match testSign? .plain operand, rest with
    | some (.one _), [] => none
    | some (.one sign), next :: _ :: _ => if isBetween .plain next then none else some (.one sign)
    | some .openGroup, [] => none
    | found, _ => found

mutual

/-- Conditions joined by `-o`.  The sign is that of the first operand; what is left begins with the
last operand that counted. -/
def testEitherPlain : Nat → Option TestSign → List Text → Deciding (Bool × List Text)
  | 0, _, operands => return (false, operands)
  | fuel + 1, sign, operands => do
    let (first, last) ← testBothPlain fuel sign operands
    if signAt? last.tail = some .or then
      let (second, last) ← testEitherPlain fuel (signAt? (last.drop 2)) (last.drop 2)
      return (first || second, last)
    else return (first, last)

/-- Conditions joined by `-a`. -/
def testBothPlain : Nat → Option TestSign → List Text → Deciding (Bool × List Text)
  | 0, _, operands => return (false, operands)
  | fuel + 1, sign, operands => do
    let (first, last) ← testNegated fuel sign operands
    if signAt? last.tail = some .and then
      let (second, last) ← testBothPlain fuel (signAt? (last.drop 2)) (last.drop 2)
      return (first && second, last)
    else return (first, last)

/-- One condition, or the opposite of one. -/
def testNegated : Nat → Option TestSign → List Text → Deciding (Bool × List Text)
  | 0, _, operands => return (false, operands)
  | fuel + 1, sign, operands => do
    if sign = some .not then
      let inner := if operands.tail.isEmpty then operands else operands.tail
      let (value, last) ← testNegated fuel (signAt? operands.tail) inner
      return (if operands.tail.isEmpty then true else !value, last)
    else testPrimary fuel sign operands

/-- One condition. -/
def testPrimary : Nat → Option TestSign → List Text → Deciding (Bool × List Text)
  | 0, _, operands => return (false, operands)
  | fuel + 1, sign, operands => do
    match operands, sign with
    | [], _ => return (false, [])
    | _ :: rest, some .openGroup =>
      if signAt? rest = some .closeGroup then return (false, rest)
      else
        let (value, last) ← testEitherPlain fuel (signAt? rest) rest
        if last.tail.head? = some [')'] then return (value, last.tail)
        else throw (ofString "closing paren expected")
    | _ :: rest, some (.one sign) =>
      match rest with
      | operand :: _ => return (← testOne sign operand, rest)
      | [] => throw (sign ++ ": argument expected")
    | operand :: rest, _ =>
      match signAt? rest with
      | some (.two sign) =>
        match rest.tail with
        | second :: _ => return (← testTwo .plain sign operand second, rest.tail)
        | [] => throw (sign ++ ": argument expected")
      | _ => return (!operand.isEmpty, operands)

end

/-- What operands say, read from the first on. -/
def testAll (sign : Option TestSign) (operands : List Text) : Deciding Bool := do
  let (value, last) ← testEitherPlain (4 * operands.length + 4) sign operands
  match last with
  | operand :: _ :: _ => throw (operand ++ ": unexpected operator")
  | _ => return value

/-- What the operands of `test` say in the plain shell.  A sign between two operands comes first,
then an exclamation mark or a pair of parentheses around all. -/
def testPlain : Nat → List Text → Deciding Bool
  | 0, _ => return false
  | _ + 1, [] => return false
  | fuel + 1, operands => do
    let between := operands.length = 3 ∧ isBetween .plain (operands.getD 1 [])
    if between then testAll none operands
    else if operands.length = 3 ∨ operands.length = 4 then
      if operands.head? = some ['('] ∧ operands.getLast? = some [')'] then
        testAll (signAt? operands.tail.dropLast) operands.tail.dropLast
      else if operands.head? = some ['!'] then
        return !(← testPlain fuel operands.tail)
      else testAll (signAt? operands) operands
    else testAll (signAt? operands) operands

/-! ### The others -/

/-- A name as a complaint shows it. -/
def Tester.shown (tester : Tester) (operand : Text) : Text :=
  if tester = .outside then "'" ++ operand ++ "'" else operand

mutual

/-- Conditions joined by `-o`, and the operands that are left. -/
def testEither (tester : Tester) : Nat → List Text → Deciding (Bool × List Text)
  | 0, operands => return (false, operands)
  | fuel + 1, operands => do
    let (first, rest) ← testBoth tester fuel operands
    match rest with
    | ['-', 'o'] :: rest =>
      let (second, rest) ← testEither tester fuel rest
      return (first || second, rest)
    | rest => return (first, rest)

/-- Conditions joined by `-a`, and the operands that are left. -/
def testBoth (tester : Tester) : Nat → List Text → Deciding (Bool × List Text)
  | 0, operands => return (false, operands)
  | fuel + 1, operands => do
    let (first, rest) ← testTerm tester fuel operands
    match rest with
    | ['-', 'a'] :: rest =>
      let (second, rest) ← testBoth tester fuel rest
      return (first && second, rest)
    | rest => return (first, rest)

/-- One condition, and the operands that are left. -/
def testTerm (tester : Tester) : Nat → List Text → Deciding (Bool × List Text)
  | 0, operands => return (false, operands)
  | fuel + 1, operands => do
    match operands with
    | [] => throw (ofString (if tester = .outside then "missing argument" else "argument expected"))
    | ['!'] :: rest =>
      let (value, rest) ← testTerm tester fuel rest
      return (!value, rest)
    | ['('] :: rest =>
      let (value, rest) ← testEither tester fuel rest
      match rest with
      | [')'] :: rest => return (value, rest)
      | other :: _ => throw ("\x60)' expected, found " ++ other)
      | [] => throw (ofString "\x60)' expected")
    | first :: sign :: second :: rest =>
      if isBetween tester sign then return (← testTwo tester sign first second, rest)
      else testSingle first (sign :: second :: rest)
    | first :: rest => testSingle first rest

/-- A condition on one operand, and the operands that are left. -/
def testSingle (first : Text) (rest : List Text) : Deciding (Bool × List Text) := do
  match rest with
  | operand :: rest =>
    if singleSigns.contains (String.ofList first) then return (← testOne first operand, rest)
    else return (!first.isEmpty, operand :: rest)
  | [] => return (!first.isEmpty, [])

end

/-- What many operands say. -/
def testMany (tester : Tester) (operands : List Text) : Deciding Bool := do
  let (value, rest) ← testEither tester (4 * operands.length + 4) operands
  match rest with
  | [] => return value
  | extra :: _ =>
    throw (if tester = .outside then "extra argument '" ++ extra ++ "'" else "too many arguments")

/-- What the operands of `test` say outside of the plain shell: their number decides how they are
read. -/
def testCounted (tester : Tester) : Nat → List Text → Deciding Bool
  | 0, _ => return false
  | fuel + 1, operands => do
    match operands with
    | [] => return false
    | [operand] => return !operand.isEmpty
    | [sign, operand] =>
      if sign = ['!'] then return operand.isEmpty
      else if singleSigns.contains (String.ofList sign) then testOne sign operand
      else if tester = .outside ∧ ¬ (sign.length = 2 ∧ sign.head? = some '-') then
        throw ("missing argument after " ++ tester.shown operand)
      else throw (tester.shown sign ++ ": unary operator expected")
    | [first, sign, second] =>
      if isBetween tester sign then testTwo tester sign first second
      else if sign = ['-', 'a'] then return !first.isEmpty && !second.isEmpty
      else if sign = ['-', 'o'] then return !first.isEmpty || !second.isEmpty
      else if first = ['!'] then return !(← testCounted tester fuel [sign, second])
      else if first = ['('] ∧ second = [')'] then return !sign.isEmpty
      else throw (tester.shown sign ++ ": binary operator expected")
    | [first, a, b, c] =>
      if first = ['!'] then return !(← testCounted tester fuel [a, b, c])
      else if first = ['('] ∧ c = [')'] then testCounted tester fuel [a, b]
      else testMany tester operands
    | operands => testMany tester operands

/-- What the operands of `test` say. -/
def testCondition (tester : Tester) (operands : List Text) : Deciding Bool :=
  match tester with
  | .plain => testPlain (operands.length + 1) operands
  | tester => testCounted tester (operands.length + 1) operands

end TaskRunner.Shell
