import TaskRunner.Shell.Command.Option

/-! The commands of the shell that mark, set and take away variables. -/

namespace TaskRunner.Shell

open Exec

/-- The complaint about what should be a name. -/
def failName {α : Type} (name : Text) : Exec α := do
  match (← get).dialect with
  | .plain => fail (name ++ ": bad variable name")
  | .rich => failWith 1 ("\x60" ++ name ++ "': not a valid identifier")

/-- A name and the value given to it, if any. -/
def nameAndValue (argument : Text) : Exec (String × Option Text) := do
  let name := argument.takeWhile (· != '=')
  if ¬ isName name then
    failName (if (← get).dialect = .rich then argument else name)
  return (String.ofList name, (argument.drop name.length).tail?)

/-- Shows the variables that are marked in some way. -/
def sayMarked (title : Text) (isMarked : Variable → Bool) : Exec Unit := do
  let state ← get
  for (name, found) in state.sorted isMarked do
    let value : Text := match found.value.bind State.textOf with
      | some value =>
        match state.dialect with
        | .plain => '=' :: singleQuoted value
        | .rich => '=' :: quotedValue value
      | none => []
    say (title ++ ' ' :: ofString name ++ value ++ ['\n'])

/-- Marks variables, of which some get a value, or shows those that are marked. -/
def declareMarked (title : String) (isMarked : Variable → Bool) (mark : State → String → State) :
    Own := fun arguments => do
  let rich := (← get).dialect == .rich
  let (letters, names) ← leadingLetters (if rich then "pnfa" else "p") arguments
  if names.isEmpty ∨ (letters.contains 'p' ∧ ¬ rich) then
    let richTitle := if title = "export" then "declare -x" else "declare -r"
    sayMarked (if rich then richTitle else title) isMarked
  else
    for argument in names do
      let (name, value) ← nameAndValue argument
      match value with
      | some value => assignVariable name value
      | none => pure ()
      if letters.contains 'n' then
        modify fun state => state.changeVariable name fun found => { found with exported := false }
      else modify fun state => mark state name
  return 0

/-- Takes note of what a variable was before the function that is being carried out. -/
def keepVariable (name : String) : Exec Unit := do
  let state ← get
  match state.locals with
  | [] => return
  | frame :: outer =>
    if (frame.lookup name).isNone then
      set { state with locals := ((name, state.store.lookup name) :: frame) :: outer }

/-- Makes variables local to the function that is being carried out. -/
def declareLocal : Own := fun arguments => do
  if (← get).locals.isEmpty then fail "not in a function"
  for argument in arguments do
    if argument ≠ ['-'] then
      let (name, value) ← nameAndValue argument
      keepVariable name
      match value with
      | some value => assignVariable name value
      | none =>
        if ((← get).store.lookup name).isNone then
          modify fun state => state.putVariable name (some State.blank)
  return 0

/-- Puts variables back that were local. -/
def leaveFrame : Exec Unit := do
  match (← get).locals with
  | [] => return
  | frame :: outer =>
    for (name, before) in frame do
      modify fun state => state.putVariable name before
    modify fun state => { state with locals := outer }

/-- Takes a variable away. -/
def unsetVariable (argument : Text) : Exec Unit := do
  let state ← get
  if ¬ isName argument ∧ state.dialect = .plain then failName argument
  let name := String.ofList argument
  if state.isFixed name then
    match state.dialect with
    | .plain => fail (name ++ ": is read only" : String)
    | .rich => failWith 1 (name ++ ": cannot unset: readonly variable" : String)
  set (state.putVariable name none)

/-- Takes members of an array away, or the whole of it. -/
def unsetMember (argument : Text) : Exec Unit := do
  let name := argument.takeWhile (· != '[')
  let index := ((argument.drop (name.length + 1)).reverse.drop 1).reverse
  modify fun state => state.changeVariable (String.ofList name) fun found =>
    { found with
      value := match found.value with
        | some (.members members) =>
          some (.members (members.filter fun member => member.1 != digitsValue index))
        | some (.table entries) =>
          some (.table (entries.filter fun entry => entry.1 != index))
        | value => value }

/-- Takes variables or functions away. -/
def unsetNames : Own := fun arguments => do
  let (letters, names) ← leadingLetters "vf" arguments
  let rich := (← get).dialect == .rich
  for argument in names do
    let name := toOrdinary argument
    let known := ((← get).store.lookup name).isSome
    let isFunction := ((← get).functions.lookup name).isSome
    if letters.getLast? = some 'f' ∨ (rich ∧ letters.isEmpty ∧ ¬ known ∧ isFunction) then
      modify fun state =>
        { state with functions := state.functions.filter fun entry => entry.1 != name }
    else if rich ∧ argument.contains '[' then unsetMember argument
    else unsetVariable argument
  return 0

/-! ### Declarations of the richer shell -/

/-- The letters of variables, as they are shown. -/
def variableLetters (found : Variable) : Text :=
  let kind : Text := match found.value with
    | some (.members _) => ['a']
    | some (.table _) => ['A']
    | _ => []
  let letters := kind ++ (if found.reckoned then ['i'] else []) ++
    (if found.fixed then ['r'] else []) ++ (if found.exported then ['x'] else [])
  if letters.isEmpty then ['-', '-'] else '-' :: letters

/-- A value as it is shown. -/
def shownValue : Option Value → Text
  | none => []
  | some (.text text) => '=' :: quotedValue text
  | some (.members members) =>
    let parts := members.map fun member =>
      '[' :: decimal member.1 ++ ']' :: '=' :: quotedValue member.2
    '=' :: '(' :: List.intercalate [' '] parts ++ [')']
  | some (.table entries) =>
    '=' :: '(' :: entries.flatMap (fun entry =>
      '[' :: entry.1 ++ ']' :: '=' :: quotedValue entry.2 ++ [' ']) ++ [')']

/-- Shows a variable as it would be declared. -/
def sayDeclared (name : String) (found : Variable) : Exec Unit :=
  say ("declare " ++ variableLetters found ++ ' ' :: ofString name ++ shownValue found.value ++
    ['\n'])

/-- A change of a variable that a letter asks for. -/
def changeOf (letter : Char) (found : Variable) : Variable :=
  match letter, found.value with
  | 'x', _ => { found with exported := true }
  | 'r', _ => { found with fixed := true }
  | 'i', _ => { found with reckoned := true }
  | 'a', some (.text text) => { found with value := some (.members [(0, text)]) }
  | 'a', none => { found with value := some (.members []) }
  | 'A', some (.text text) => { found with value := some (.table [(['0'], text)]) }
  | 'A', some (.members []) => { found with value := some (.table []) }
  | 'A', none => { found with value := some (.table []) }
  | _, _ => found

/-- Declares a variable: its kinds, and its value if one is given. -/
def declareOne (letters : List Char) (argument : Text) : Exec Unit := do
  let (name, value) ← nameAndValue argument
  if (← get).isFixed name ∧ (value.isSome ∨ ¬ (← get).locals.isEmpty) then
    failWith 1 (name ++ ": readonly variable" : String)
  let before := (← get).locals.head?.bind (List.lookup name)
  if ¬ letters.contains 'g' then
    keepVariable name
    if (← get).locals ≠ [] ∧ before.isNone then
      modify fun state => state.putVariable name (some State.blank)
  for letter in letters.filter (· != 'r') do
    modify fun state => state.changeVariable name (changeOf letter)
  match value with
  | some value =>
    let reckoned := ((← get).store.lookup name).any Variable.reckoned
    if reckoned then assignVariable name (toString (← reckonNumber value)).toList
    else assignVariable name value
  | none =>
    if ((← get).store.lookup name).isNone then
      modify fun state => state.putVariable name (some State.blank)
  if letters.contains 'r' then modify fun state => state.fix name

/-- Declares variables, or shows how they are declared. -/
def declareVariables : Own := fun arguments => do
  let (letters, names) ← leadingLetters "aAfFgilnprtux" arguments
  if letters.contains 'f' ∨ letters.contains 'F' then
    let state ← get
    return if names.all fun name => (state.functions.lookup (toOrdinary name)).isSome then 0 else 1
  else if names.isEmpty then
    for (name, found) in (← get).sorted fun _ => true do
      sayDeclared name found
    return 0
  else if letters.contains 'p' then
    let mut status := 0
    for argument in names do
      let name := toOrdinary argument
      match (← get).store.lookup name with
      | some found => sayDeclared name found
      | none =>
        complain (argument ++ ": not found")
        status := 1
    return status
  else
    for argument in names do
      declareOne letters argument
    return 0

/-- Declares variables of the function that is being carried out. -/
def declareInside : Own := fun arguments => do
  if (← get).locals.isEmpty then failWith 1 "can only be used in a function"
  else
    let (letters, names) ← leadingLetters "aAilnrtuxp" arguments
    for argument in names do
      if argument ≠ ['-'] then declareOne letters argument
    return 0

end TaskRunner.Shell
