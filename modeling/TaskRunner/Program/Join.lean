import TaskRunner.Program.Column

/-! The program `join`, which pairs the lines of two files that have a field in common. -/

namespace TaskRunner.Program

open Tool

/-- A field of the output: the one that lines are joined by, or one of a file. -/
inductive OutputField where
  | key
  | field (second : Bool) (n : Nat)
deriving DecidableEq, Repr

/-- What is shown of the lines: each of their fields, chosen ones, or as many as the first lines
have. -/
inductive Shown where
  | all
  | chosen (fields : List OutputField)
  | counted
deriving DecidableEq, Repr

/-- Whether the order of lines is checked: not at all, when it matters, or always. -/
inductive OrderCheck where
  | never
  | whenUnpaired
  | always
deriving DecidableEq, Repr

/-- How lines are joined: by which fields, what separates fields, which lines without a partner are
shown and whether those with one are, what stands for fields that are not there, and what is
shown. -/
structure Joining where
  keys : Nat × Nat
  separator : Option Char
  folds : Bool
  pairs : Bool
  lone : Bool × Bool
  filler : Text
  shown : Shown
  check : OrderCheck
  mark : Char

namespace Joining

/-- The fields of a line. -/
def fields (joining : Joining) (line : Text) : List Text :=
  match joining.separator with
  | some c => splitOn (· == c) line
  | none => (splitOn isBlankChar line).filter fun field => !field.isEmpty

/-- The field of a line by which it is joined. -/
def key (joining : Joining) (second : Bool) (fields : List Text) : Text :=
  fields.getD ((if second then joining.keys.2 else joining.keys.1) - 1) []

/-- How two keys stand to one another. -/
def compare (joining : Joining) (a b : Text) : Ordering :=
  let fold (text : Text) : String :=
    String.ofList (if joining.folds then text.map Char.toLower else text)
  if fold a < fold b then .lt else if fold b < fold a then .gt else .eq

/-- A field as it is shown: what is empty may be filled in. -/
def filled (joining : Joining) (field : Option Text) : Text :=
  match field with
  | some (c :: cs) => c :: cs
  | _ => joining.filler

/-- The line that is shown for two lines, of which one may be missing. -/
def line (joining : Joining) (shown : Shown) (first second : Option (List Text)) : Text :=
  let key := match first, second with
    | some fields, _ => fields[joining.keys.1 - 1]?
    | none, some fields => fields[joining.keys.2 - 1]?
    | none, none => none
  let others (n : Nat) (fields : Option (List Text)) : List Text :=
    ((fields.getD []).eraseIdx (n - 1)).map fun field => joining.filled (some field)
  let parts := match shown with
    | .chosen chosen =>
      chosen.map fun field =>
        joining.filled (match field with
          | .key => key
          | .field false n => first.bind (·[n - 1]?)
          | .field true n => second.bind (·[n - 1]?))
    | _ =>
      joining.filled key :: others joining.keys.1 first ++ others joining.keys.2 second
  List.intercalate [joining.separator.getD ' '] parts

end Joining

/-- A file that is being joined: its name, the number of the line that was read last and that line,
the lines after it, and whether a complaint about the order was made. -/
structure JoinInput where
  name : Text
  number : Nat
  last : Option Text
  rest : List Text
  warned : Bool

/-- Where joining stands: both files, and whether a line without a partner was seen. -/
structure JoinState where
  first : JoinInput
  second : JoinInput
  lone : Bool

namespace JoinState

/-- One of the two files. -/
def input (state : JoinState) (second : Bool) : JoinInput :=
  if second then state.second else state.first

/-- The state with one of the files changed. -/
def withInput (state : JoinState) (second : Bool) (input : JoinInput) : JoinState :=
  if second then { state with second := input } else { state with first := input }

end JoinState

/-- The next line of a file in fields.  A line that is out of order is complained about once. -/
def nextFields (joining : Joining) (second : Bool) (state : JoinState) :
    Tool (Option (List Text) × JoinState) := do
  let input := state.input second
  match input.rest with
  | [] => return (none, state)
  | line :: rest => do
    let fields := joining.fields line
    let input := { input with number := input.number + 1, rest }
    let checked := match joining.check with
      | .never => false
      | .whenUnpaired => state.lone
      | .always => true
    let disordered := match input.last with
      | none => false
      | some last =>
        checked && !input.warned &&
          joining.compare (joining.key second (joining.fields last)) (joining.key second fields) ==
            .gt
    if disordered then
      let complaint := input.name ++ ':' :: decimal input.number ++ ": is not sorted: " ++ line
      if joining.check = .always then fail 1 complaint else warn complaint
    let input := { input with last := some line, warned := input.warned || disordered }
    return (some fields, state.withInput second input)

/-- The lines of a file that have the same key, and the first one that has not. -/
def sameKeys (joining : Joining) (second : Bool) (key : Text) :
    Nat → JoinState → Tool (List (List Text) × Option (List Text) × JoinState)
  | 0, state => return ([], none, state)
  | fuel + 1, state => do
    match ← nextFields joining second state with
    | (none, state) => return ([], none, state)
    | (some fields, state) =>
      if joining.compare (joining.key second fields) key = .eq then
        let (others, next, state) ← sameKeys joining second key fuel state
        return (fields :: others, next, state)
      else return ([], some fields, state)

/-- Reads what is left of a file whose lines have no partners. -/
def restOfFile (joining : Joining) (shown : Shown) (second : Bool) :
    Nat → JoinState → Tool JoinState
  | 0, state => return state
  | fuel + 1, state => do
    let shows := if second then joining.lone.2 else joining.lone.1
    match ← nextFields joining second state with
    | (none, state) => return state
    | (some fields, state) =>
      if shows then
        sayLine (if second then joining.line shown none (some fields)
          else joining.line shown (some fields) none)
      if (state.input second).warned ∧ ¬ shows then return state
      else restOfFile joining shown second fuel state

/-- Joins two files from a line of each on. -/
def joinFrom (joining : Joining) (shown : Shown) :
    Nat → Option (List Text) → Option (List Text) → JoinState → Tool JoinState
  | 0, _, _, state => return state
  | fuel + 1, some a, some b, state => do
    match joining.compare (joining.key false a) (joining.key true b) with
    | .lt => do
      if joining.lone.1 then sayLine (joining.line shown (some a) none)
      let (next, state) ← nextFields joining false state
      joinFrom joining shown fuel next (some b) { state with lone := true }
    | .gt => do
      if joining.lone.2 then sayLine (joining.line shown none (some b))
      let (next, state) ← nextFields joining true state
      joinFrom joining shown fuel (some a) next { state with lone := true }
    | .eq => do
      let (others, nextFirst, state) ← sameKeys joining false (joining.key true b) fuel state
      let (more, nextSecond, state) ← sameKeys joining true (joining.key false a) fuel state
      if joining.pairs then
        each (fun first => each (fun second =>
          sayLine (joining.line shown (some first) (some second))) (b :: more)) (a :: others)
      joinFrom joining shown fuel nextFirst nextSecond state
  | fuel + 1, a, b, state => do
    let checks := joining.check != .never && !(state.first.warned && state.second.warned)
    let state ← match a with
      | some fields =>
        if joining.lone.1 ∨ checks then do
          if joining.lone.1 then sayLine (joining.line shown (some fields) none)
          restOfFile joining shown false fuel { state with lone := state.lone || b.isSome }
        else pure state
      | none => pure state
    match b with
    | some fields =>
      if joining.lone.2 ∨ checks then do
        if joining.lone.2 then sayLine (joining.line shown none (some fields))
        restOfFile joining shown true fuel { state with lone := state.lone || a.isSome }
      else return state
    | none => return state

/-- A field of the output as it is asked for. -/
def outputField (text : Text) : Tool OutputField := do
  match text with
  | ['0'] => return .key
  | side :: '.' :: digits =>
    if side ≠ '1' ∧ side ≠ '2' then
      fail 1 ("invalid file number in field spec: " ++ quoted text)
    match wholeNumber? digits with
    | some 0 => fail 1 ("invalid field number: " ++ quoted digits)
    | some n => return .field (side == '2') n
    | none => fail 1 ("invalid field number: " ++ quoted digits)
  | side :: _ =>
    if side = '0' ∨ side = '1' ∨ side = '2' then
      fail 1 ("invalid field specifier: " ++ quoted text)
    else fail 1 ("invalid file number in field spec: " ++ quoted text)
  | [] => fail 1 ("invalid file number in field spec: " ++ quoted text)

/-- The number of a field. -/
def fieldNumber (text : Text) : Tool Nat := do
  match wholeNumber? text with
  | some 0 => fail 1 ("invalid field number: " ++ quoted text)
  | some n => return n
  | none => fail 1 ("invalid field number: " ++ quoted text)

/-- How lines are joined as switches say. -/
def joiningOf (options : Options) : Tool Joining := do
  let number (key : String) : Tool Nat := do
    match (options.given.filter fun entry => entry.1 == key || entry.1 == "j").getLast? with
    | some (_, some text) => fieldNumber text
    | _ => return 1
  let sides ← (options.values "a" ++ options.values "v").mapM fun text => do
    match text with
    | ['1'] => return false
    | ['2'] => return true
    | _ => (fail 1 ("invalid file number: " ++ quoted text) : Tool Bool)
  let separator ← match options.value? "t" with
    | none => pure none
    | some [] => pure (some '\n')
    | some [c] => pure (some c)
    | some ['\\', '0'] => pure (some '\x00')
    | some text => fail 1 ("multi-character tab " ++ quoted text)
  let shown ← match options.value? "o" with
    | none => pure Shown.all
    | some text =>
      if text = "auto" then pure Shown.counted
      else do
        let names := (splitOn (fun c => c == ',' || isBlankChar c) text)
        pure (.chosen (← names.mapM outputField))
  return {
    keys := (← number "1", ← number "2")
    separator
    folds := options.has "i"
    pairs := !options.has "v"
    lone := (sides.contains false, sides.contains true)
    filler := (options.value? "e").getD []
    shown
    check := match options.lastOf ["check-order", "nocheck-order"] with
      | some "check-order" => .always
      | some _ => .never
      | none => .whenUnpaired
    mark := if options.has "z" then '\x00' else '\n' }

/-- The fields that are shown when they are counted on the first lines. -/
def countedFields (joining : Joining) (first second : Option (List Text)) : List OutputField :=
  let fields (second : Bool) (key : Nat) (line : Option (List Text)) : List OutputField :=
    ((List.range (line.getD []).length).filter fun n => n + 1 != key).map fun n =>
      .field second (n + 1)
  .key :: fields false joining.keys.1 first ++ fields true joining.keys.2 second

/-- The lines of a file that is joined. -/
def joinLines (mark : Char) (path : Text) : Tool JoinInput := do
  let descriptor ← if path = standardInput then pure 0 else
    match ← openInput path with
    | .ok descriptor => pure descriptor
    | .error refusal => fail 1 (about path refusal)
  let (text, outcome) ← act (Act.readAll descriptor)
  match outcome with
  | .error refusal => fail 1 ("read error: " ++ refusal.message : String)
  | .ok () => return ⟨path, 0, none, (linesOf mark (text.length + 1) text).map (·.text), false⟩

/-- The program `join`. -/
def join (call : Call) : Task :=
  let switches : Switches :=
    ⟨"iz", "12aejotv", "",
      [("ignore-case", .nothing, "i"), ("check-order", .nothing, "check-order"),
        ("nocheck-order", .nothing, "nocheck-order"), ("zero-terminated", .nothing, "z"),
        ("header", .nothing, "header")], false⟩
  withOptions 1 1 switches call fun options => do
    let joining ← joiningOf options
    let (a, b) ← match options.operands with
      | [] => misuse 1 "missing operand"
      | [a] => misuse 1 ("missing operand after " ++ quoted a)
      | [a, b] => pure (a, b)
      | _ :: _ :: extra :: _ => misuse 1 ("extra operand " ++ quoted extra)
    if a = standardInput ∧ b = standardInput then
      fail 1 "both files cannot be standard input"
    let first ← joinLines joining.mark a
    let second ← joinLines joining.mark b
    let fuel := first.rest.length + second.rest.length + 2
    let (lineA, state) ← nextFields joining false ⟨first, second, false⟩
    let (lineB, state) ← nextFields joining true state
    let shown := match joining.shown with
      | .counted => .chosen (countedFields joining lineA lineB)
      | shown => shown
    let (lineA, lineB, state) ←
      if options.has "header" ∧ (lineA.isSome ∨ lineB.isSome) then do
        sayLine (joining.line shown lineA lineB)
        let forget (input : JoinInput) : JoinInput := { input with last := none }
        let state := { state with first := forget state.first, second := forget state.second }
        let (lineA, state) ← nextFields joining false state
        let (lineB, state) ← nextFields joining true state
        pure (lineA, lineB, state)
      else pure (lineA, lineB, state)
    let state ← joinFrom joining shown fuel lineA lineB state
    if state.first.warned ∨ state.second.warned then fail 1 "input is not in sorted order"

end TaskRunner.Program
