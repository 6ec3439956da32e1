import TaskRunner.Shell.Arithmetic
import TaskRunner.Text.Layout

/-! Arithmetic of the richer shell.  An expression is read mark by mark while it is reckoned, so
that a complaint can show how far the reading came.  The values of variables are expressions
themselves, and numbers may be written in any base up to 64. -/

namespace TaskRunner.Shell

/-- What is read off an expression at a time: its end, a number, the name of a variable, a step up
or down before or behind a name, an operator that changes a variable, another sign, or the end of a
choice between two expressions. -/
inductive Mark where
  | finish
  | number
  | name
  | step (up behind : Bool)
  | change (operator : String)
  | sign (symbol : String)
  | decided
deriving DecidableEq, Repr

/-- What an expression can change: a variable, or a member of an array under its key. -/
structure Target where
  name : String
  key : Option Text
deriving DecidableEq, Repr

/-- How far the reckoning of an expression has come: its text, what is left of it, what was left in
front of the last mark, this mark and the one before it, the variable that was read last, the value
of what was read last, whether values do not count, how many expressions are being reckoned inside
of one another, and the values that variables got, the last one first. -/
structure Meter where
  text : Text
  rest : Text
  shown : Text
  mark : Mark
  before : Mark
  target : Option Target
  value : Int
  idle : Bool
  depth : Nat
  writes : List (Target × Int)

/-- Why an expression of the richer shell comes to nothing: it is wrong, as the message says that
shows the expression and the part of it where that was seen, or a variable in it has no value. -/
inductive MeterFault where
  | wrong (message : String) (expression shown : Text)
  | unbound (name : Text)

/-- A step of a reckoning. -/
abbrev Metering (α : Type) := EStateM MeterFault Meter α

/-- What an expression can look up: the texts of variables and of members of arrays, the key under
which a member is found whose number is reckoned unless the array is a table, and whether what has
no value is a mistake. -/
structure Scope where
  text? : Target → Option Text
  isTable : String → Bool
  size : String → Nat
  strict : Bool

namespace Meter

/-- The beginning of an expression. -/
def start (text : Text) : Meter :=
  ⟨text, text, text, .finish, .finish, none, 0, false, 0, []⟩

/-- The expression is wrong. -/
def fault {α : Type} (message : String) : Metering α := do
  let meter ← get
  throw (.wrong message (meter.text.dropWhile fun c => c == ' ' || c == '\t') meter.shown)

/-- The bound on expressions inside of one another. -/
def deepest : Nat := 1024

/-- The value of a digit in a base: beyond ten they are letters, small ones first if the base has
more than 36 digits. -/
def digitIn (base : Nat) (c : Char) : Option Nat :=
  if c.isDigit then some (c.toNat - '0'.toNat)
  else if 'a' ≤ c ∧ c ≤ 'z' then some (c.toNat - 'a'.toNat + 10)
  else if 'A' ≤ c ∧ c ≤ 'Z' then some (c.toNat - 'A'.toNat + (if base ≤ 36 then 10 else 36))
  else if c = '@' then some 62
  else if c = '_' then some 63
  else none

/-- The number that digits in a base are, behind a number that they go on, or what is wrong with
them. -/
def digitsIn (base : Nat) (based : Bool) (value : Int) : Text → Except String Int
  | [] => .ok value
  | c :: cs =>
    if c = '#' then
      if based then .error "invalid number"
      else if value < 2 ∨ 64 < value then .error "invalid arithmetic base"
      else if cs.isEmpty then .error "invalid integer constant"
      else digitsIn value.toNat true 0 cs
    else
      match digitIn base c with
      | none => .ok value
      | some digit =>
        if base ≤ digit then .error "value too great for base"
        else digitsIn base based (wrap (value * base + digit)) cs

/-- The number that a text is which begins with a digit, or what is wrong with it. -/
def numeral : Text → Except String Int
  | ['0'] => .ok 0
  | '0' :: 'x' :: digits => digitsIn 16 true 0 digits
  | '0' :: 'X' :: digits => digitsIn 16 true 0 digits
  | '0' :: digits => digitsIn 8 true 0 digits
  | digits => digitsIn 10 false 0 digits

/-- A character of a number. -/
def isNumeralChar (c : Char) : Bool :=
  c.isAlphanum || c == '#' || c == '@' || c == '_'

/-- The mark asks for an operand behind it. -/
def wantsOperand : Mark → Bool
  | .number => false
  | .name => false
  | _ => true

/-- Moves on to a mark, with what is left behind it. -/
def move (mark : Mark) (rest : Text) : Metering Unit :=
  modify fun meter => { meter with before := meter.mark, mark, rest }

/-- The signs of two characters and more, longer ones before their beginnings. -/
def longSigns : List String :=
  ["==", "!=", ">=", "<=", "<<", ">>", "&&", "||", "**"]

/-- The signs of one character. -/
def shortSigns : Text := "=><+-*/%!()&|^~?:,".toList

/-- Reads a sign off a text. -/
def readSign (text : Text) : Metering Unit := do
  let meter ← get
  let single (c : Char) (rest : Text) : Metering Unit := move (.sign (String.singleton c)) rest
  match text with
  | '<' :: '<' :: '=' :: rest => move (.change "<<") rest
  | '>' :: '>' :: '=' :: rest => move (.change ">>") rest
  | c :: rest =>
    match longSigns.find? fun sign => sign.toList.isPrefixOf text with
    | some sign => move (.sign sign) (text.drop 2)
    | none =>
      if (c = '-' ∨ c = '+') ∧ rest.head? = some c then
        let up := c == '+'
        let next := rest.tail
        if meter.mark = .name then move (.step up true) next
        else if meter.mark = .number ∧
            (meter.before = .step true false ∨ meter.before = .step false false) then
          fault (if up then "++: assignment requires lvalue" else "--: assignment requires lvalue")
        else if ((next.dropWhile isSpaceChar).head?.any isNameStart) then move (.step up false) next
        else single c rest
      else if rest.head? = some '=' ∧ "*/%+-&^|".toList.contains c then
        move (.change (String.singleton c)) rest.tail
      else if shortSigns.contains c then single c rest
      else if wantsOperand meter.mark then fault "syntax error: operand expected"
      else fault "syntax error: invalid arithmetic operator"
  | [] => move .finish []

/-- Reads a number off a text. -/
def readNumeral (text : Text) : Metering Unit := do
  let digits := text.takeWhile isNumeralChar
  let rest := text.drop digits.length
  match numeral digits with
  | .ok value =>
    move .number rest
    modify fun meter => { meter with value }
  | .error message =>
    modify fun meter =>
      { meter with text := meter.text.take (meter.text.length - rest.length), shown := digits }
    fault message

/-- Gives a variable a value, unless values do not count. -/
def write (value : Int) : Metering Unit :=
  modify fun meter =>
    match meter.target with
    | some target =>
      if meter.idle then meter else { meter with writes := (target, value) :: meter.writes }
    | none => meter

/-- Carries out a step while values do not count, if so it is. -/
def idly {α : Type} (idle : Bool) (step : Metering α) : Metering α := do
  let before := (← get).idle
  if idle then modify fun meter => { meter with idle := true }
  let value ← step
  modify fun meter => { meter with idle := before }
  return value

/-- The operand that was read last is a value and no variable. -/
def settle : Metering Unit :=
  modify fun meter => { meter with before := .number }

/-- What an operator makes of two operands.  Behind a division `rest` is shown if it fails. -/
def combine (symbol : String) (first second : Int) (rest : Text) : Metering Int := do
  if symbol = "/" ∨ symbol = "%" then
    if second = 0 then
      if (← get).idle then return first
      else
        modify fun meter => { meter with shown := rest.dropWhile isSpaceChar }
        fault "division by 0"
    else return (operate symbol first second).getD 0
  else if symbol = "**" then
    if second < 0 then fault "exponent less than 0" else return power first 64 second.toNat
  else return (operate symbol first second).getD 0

section

variable (scope : Scope)

mutual

/-- Reads the next mark.  If it is a name, the value of the variable is found out. -/
def readMark : Nat → Metering Unit
  | 0 => fault "expression recursion level exceeded"
  | fuel + 1 => do
    let meter ← get
    match meter.rest.dropWhile isSpaceChar with
    | [] => move .finish []
    | c :: cs =>
      modify fun meter => { meter with rest := c :: cs, shown := c :: cs }
      if isNameStart c then readName fuel (c :: cs)
      else if c.isDigit then readNumeral (c :: cs)
      else readSign (c :: cs)

/-- Reads the name of a variable off a text, and finds out its value unless it is about to be set.
-/
def readName : Nat → Text → Metering Unit
  | 0, _ => fault "expression recursion level exceeded"
  | fuel + 1, text => do
    let name := text.takeWhile isNameChar
    let behind := text.drop name.length
    let (index, rest) ← match behind with
      | '[' :: inside => do
        let (index, rest) := closeIndex 0 inside
        if rest.isEmpty ∧ inside.length = index.length then fault "bad array subscript"
        pure (some index, rest)
      | _ => pure (none, behind)
    let saved ← get
    set { saved with rest, idle := true, mark := .name }
    readMark fuel
    let next := (← get).mark
    set saved
    let key : Option Text ← match index with
      | none => pure none
      | some index =>
        if scope.isTable (String.ofList name) then pure (some index)
        else do
          let n ← reckonText fuel index
          let n := if n < 0 then n + scope.size (String.ofList name) else n
          pure (some (toString n).toList)
    let target : Target := ⟨String.ofList name, key⟩
    let value ← if next = .sign "=" then pure 0 else fetch fuel target
    move .name rest
    modify fun meter => { meter with target := some target, value }

/-- The value of a variable, or of a member of an array. -/
def fetch : Nat → Target → Metering Int
  | 0, _ => fault "expression recursion level exceeded"
  | fuel + 1, target => do
    let meter ← get
    if meter.idle then return 0
    else
      match meter.writes.lookup target with
      | some value => return value
      | none =>
        match scope.text? target with
        | some text => reckonText fuel text
        | none =>
          if scope.strict then
            let key : Text := match target.key with
              | some key => '[' :: key ++ [']']
              | none => []
            throw (.unbound (target.name.toList ++ key))
          else return 0

/-- The value of a text as an expression of its own. -/
def reckonText : Nat → Text → Metering Int
  | 0, _ => fault "expression recursion level exceeded"
  | fuel + 1, text => do
    if text.all isSpaceChar then return 0
    else
      let outer ← get
      if deepest ≤ outer.depth then fault "expression recursion level exceeded"
      set { start text with idle := outer.idle, depth := outer.depth + 1, writes := outer.writes }
      readMark fuel
      let value ← reckonAll fuel
      if (← get).mark ≠ .finish then fault "syntax error in expression"
      modify fun inner => { outer with writes := inner.writes }
      return value

/-- Expressions in a row, of which the last one counts. -/
def reckonAll : Nat → Metering Int
  | 0 => fault "expression recursion level exceeded"
  | fuel + 1 => do
    let value ← reckonAssignment fuel
    if (← get).mark = .sign "," then
      readMark fuel
      reckonAll fuel
    else return value

/-- An assignment, or an expression without one. -/
def reckonAssignment : Nat → Metering Int
  | 0 => fault "expression recursion level exceeded"
  | fuel + 1 => do
    let earlier ← reckonChoice fuel
    let meter ← get
    let assigns (finish : Int → Metering Int) : Metering Int := do
      if meter.before ≠ .name then fault "attempted assignment to non-variable"
      readMark fuel
      let value ← finish (← reckonAssignment fuel)
      modify fun after => { after with target := meter.target }
      write value
      modify fun after => { after with target := none }
      return value
    match meter.mark with
    | .sign "=" => assigns pure
    | .change symbol =>
      assigns fun value => do
        if (symbol = "/" ∨ symbol = "%") ∧ value = 0 then
          if (← get).idle then return earlier else fault "division by 0"
        else return (operate symbol earlier value).getD 0
    | _ => return earlier

/-- A condition, and the two expressions between which it decides. -/
def reckonChoice : Nat → Metering Int
  | 0 => fault "expression recursion level exceeded"
  | fuel + 1 => do
    let condition ← reckonOperators fuel 1
    if (← get).mark ≠ .sign "?" then return condition
    else
      let first ← idly (condition == 0) do
        readMark fuel
        if (← get).mark = .finish then fault "expression expected"
        reckonAll fuel
      if (← get).mark ≠ .sign ":" then fault "\x60:' expected for conditional expression"
      let second ← idly (condition != 0) do
        readMark fuel
        if (← get).mark = .finish then fault "expression expected"
        reckonChoice fuel
      modify fun meter => { meter with before := .decided }
      return if condition ≠ 0 then first else second

/-- Operands joined by operators that bind at least as tightly as the limit. -/
def reckonOperators : Nat → Nat → Metering Int
  | 0, _ => fault "expression recursion level exceeded"
  | fuel + 1, limit => do
    reckonMore fuel limit (← reckonSigned fuel)

/-- What is joined to a first operand. -/
def reckonMore : Nat → Nat → Int → Metering Int
  | 0, _, _ => fault "expression recursion level exceeded"
  | fuel + 1, limit, first => do
    let meter ← get
    match meter.mark with
    | .sign symbol =>
      let tightness := if symbol = "**" then some 11 else precedence symbol
      match tightness with
      | none => return first
      | some tightness =>
        if tightness < limit then return first
        else
          let decided := (symbol == "||" && first != 0) || (symbol == "&&" && first == 0)
          let second ← idly decided do
            readMark fuel
            reckonOperators fuel (if symbol = "**" then tightness else tightness + 1)
          settle
          reckonMore fuel limit (← combine symbol first second meter.rest)
    | _ => return first

/-- An operand behind signs. -/
def reckonSigned : Nat → Metering Int
  | 0 => fault "expression recursion level exceeded"
  | fuel + 1 => do
    let signed (finish : Int → Int) : Metering Int := do
      readMark fuel
      let value ← reckonSigned fuel
      settle
      return finish value
    match (← get).mark with
    | .sign "!" => signed fun value => truth (value == 0)
    | .sign "~" => signed fun value => wrap (-value - 1)
    | .sign "-" => signed fun value => wrap (-value)
    | .sign "+" => signed id
    | _ => reckonOperand fuel

/-- A number, a variable with a step up or down, or an expression in parentheses. -/
def reckonOperand : Nat → Metering Int
  | 0 => fault "expression recursion level exceeded"
  | fuel + 1 => do
    let meter ← get
    let stepped (up : Bool) (value : Int) : Int := wrap (if up then value + 1 else value - 1)
    match meter.mark with
    | .step up _ =>
      modify fun meter => { meter with before := meter.mark }
      readMark fuel
      if (← get).mark ≠ .name then
        fault "identifier expected after pre-increment or pre-decrement"
      let value := stepped up (← get).value
      write value
      modify fun meter => { meter with mark := .number }
      readMark fuel
      return value
    | .sign "(" =>
      readMark fuel
      let value ← reckonAll fuel
      if (← get).mark ≠ .sign ")" then fault "missing \x60)'"
      readMark fuel
      return value
    | .number =>
      readMark fuel
      return meter.value
    | .name =>
      set { meter with idle := true }
      readMark fuel
      let after ← get
      match after.mark with
      | .step up true =>
        set { after with idle := meter.idle, target := meter.target }
        write (stepped up meter.value)
        modify fun meter => { meter with before := .name, mark := .number }
      | _ => set meter
      readMark fuel
      return meter.value
    | _ => fault "syntax error: operand expected"

end

/-- The outcome of an expression: its value or why it has none, and the values that variables get.
-/
def evaluate (text : Text) : Except MeterFault Int × List (Target × Int) :=
  match (reckonText scope 1000000 text).run (start text) with
  | .ok value meter => (.ok value, meter.writes.reverse)
  | .error fault meter => (.error fault, meter.writes.reverse)

end

end Meter

end TaskRunner.Shell
