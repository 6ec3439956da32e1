import TaskRunner.Shell.Command.Variable
import TaskRunner.Shell.Job

/-! The commands of the shell that read lines, and options from arguments. -/

namespace TaskRunner.Shell

open Exec

/-! ### Lines -/

/-- Where the reading of a line with backslashes stands: the characters so far, each with whether a
backslash stood before it, the last one first, and whether a backslash has just been read. -/
structure LineReader where
  chars : List (Char × Bool)
  escaping : Bool

/-- The reader after one more character. -/
def LineReader.read (raw : Bool) (reader : LineReader) (c : Char) : LineReader :=
  if c = '\x00' then reader
  else if reader.escaping then
    ⟨if c = '\n' then reader.chars else (c, true) :: reader.chars, false⟩
  else if c = '\\' ∧ ¬ raw then { reader with escaping := true }
  else ⟨(c, false) :: reader.chars, false⟩

/-- Reads a line from a descriptor, and says whether it ended. -/
def readRow (descriptor : Nat) (raw : Bool) : Exec (List (Char × Bool) × Bool) := do
  let step (reader : LineReader) : Exec (LineReader ⊕ (List (Char × Bool) × Bool)) := do
    match ← act (Act.readLine descriptor) with
    | (line, outcome) =>
      let ends := line.getLast? == some '\n'
      let reader := (if ends then line.dropLast else line).foldl (LineReader.read raw) reader
      match outcome with
      | .error .interrupted =>
        poll
        return if (← get).noted.isEmpty then .inl reader else .inr (reader.chars.reverse, false)
      | _ =>
        if ends ∧ reader.escaping then return .inl { reader with escaping := false }
        else return .inr (reader.chars.reverse, ends)
  repeatFrom step (fun reader => pure (reader.chars.reverse, false)) Act.manyTurns ⟨[], false⟩
/-- The cells of a line: characters behind backslashes stand outside of the regions. -/
def rowCells (row : List (Char × Bool)) : List Cell :=
  let (cells, inside) := row.foldl (fun (cells, inside) (c, escaped) =>
    if escaped then
      ((Cell.char c true) :: (if inside then .closing :: cells else cells), false)
    else
      ((Cell.char c false) :: (if inside then cells else .opening false :: cells), true))
    ([], false)
  (if inside then Cell.closing :: cells else cells).reverse

/-- Sets variables to the fields of a line.  The last one gets all that is left. -/
def setFields (names : List Text) (row : List (Char × Bool)) : Exec Unit := do
  let texts := (fields (← get).separators (some names.length) (rowCells row)).map Cell.text
  for (name, n) in names.zipIdx do
    if ¬ isName name then failName name
    assignVariable (String.ofList name) (texts.getD n [])

/-- Reads a line into variables in the plain shell. -/
def readPlain : Own := fun arguments => do
  let (options, names) ← leadingOptions "p:r" arguments
  if names.isEmpty then fail "arg count"
  let (row, ended) ← readRow 0 (options.any fun option => option.1 == 'r')
  setFields names row
  return if ended then 0 else 1

/-- Reads characters from a descriptor up to a delimiter, or a number of them, and says whether the
reading came to its aim. -/
def readUntil (descriptor : Nat) (raw : Bool) (delimiter : Char) (most : Option Nat) :
    Exec (List (Char × Bool) × Bool) := do
  let step (reader : LineReader) : Exec (LineReader ⊕ (List (Char × Bool) × Bool)) := do
    if most.any (· ≤ reader.chars.length) then return .inr (reader.chars.reverse, true)
    else
      match ← ask (.read descriptor 1) with
      | .ok [c] =>
        if c = delimiter ∧ ¬ reader.escaping then return .inr (reader.chars.reverse, true)
        else return .inl (reader.read raw c)
      | _ => return .inr (reader.chars.reverse, false)
  repeatFrom step (fun reader => pure (reader.chars.reverse, false)) Act.manyTurns ⟨[], false⟩

/-- The number that an option is given, if it is. -/
def optionNumber? (letter : Char) (options : List (Char × Text)) : Option Nat :=
  (options.lookup letter).map digitsValue

/-- Reads a line into variables in the richer shell. -/
def readRich : Own := fun arguments => do
  let (options, names) ← leadingOptions "ra:d:ei:n:N:p:st:u:" arguments
  let has (letter : Char) : Bool := (options.lookup letter).isSome
  for (letter, value) in options do
    if (letter = 'n' ∨ letter = 'N') ∧ ¬ value.all Char.isDigit then
      failWith 1 (value ++ ": invalid number")
    if letter = 't' ∧ ¬ value.all fun c => c.isDigit || c == '.' then
      failWith 1 (value ++ ": invalid timeout specification")
  let descriptor := (optionNumber? 'u' options).getD 0
  let most := (optionNumber? 'n' options) <|> (optionNumber? 'N' options)
  let (row, ended) ←
    if has 'd' ∨ most.isSome then
      let delimiter := match options.lookup 'd' with
        | some text => text.headD '\x00'
        | none => '\n'
      readUntil descriptor (has 'r') delimiter most
    else readRow descriptor (has 'r')
  match options.lookup 'a', names with
  | some array, _ =>
    let texts := (fields (← get).separators none (rowCells row)).map Cell.text
    let members := texts.zipIdx.map fun (text, n) => (n, text)
    modify fun state => state.changeVariable (toOrdinary array) fun found =>
      { found with value := some (.members members) }
  | none, [] => assignVariable "REPLY" (row.map Prod.fst)
  | none, names => setFields names row
  return if ended then 0 else 1

/-- Reads a line into variables. -/
def readVariables : Own := fun arguments => do
  match (← get).dialect with
  | .plain => readPlain arguments
  | .rich => readRich arguments

/-- Reads lines into the members of an array. -/
def readLines : Own := fun arguments => do
  let (options, names) ← leadingOptions "td:n:O:s:u:C:c:" arguments
  let descriptor := (optionNumber? 'u' options).getD 0
  let (text, _) ← act (Act.readAll descriptor)
  let drops := (options.lookup 't').isSome
  let lines := (text.splitOn '\n')
  let count := lines.length
  let texts := (lines.zipIdx.filterMap fun (line, n) =>
    if n + 1 = count then (if line.isEmpty then none else some line)
    else some (if drops then line else line ++ ['\n']))
  let texts := (texts.drop ((optionNumber? 's' options).getD 0))
  let texts := match optionNumber? 'n' options with
    | some (n + 1) => texts.take (n + 1)
    | _ => texts
  let members := texts.zipIdx.map fun (text, n) => (n, text)
  modify fun state => state.changeVariable (toOrdinary (names.headD "MAPFILE")) fun found =>
    { found with value := some (.members members) }
  return 0

/-! ### Options of arguments -/

/-- What comes next among the options of arguments: a letter with the place behind it, or the end.
-/
structure OptionStep where
  letter : Char
  argument : Option Text
  complaint : Option Text
  next : Nat
  offset : Option Nat
  isEnd : Bool

/-- The complaint about an option of a script that there is not, or that lacks its value. -/
def optionComplaint (state : State) (missing : Bool) (letter : Char) : Text :=
  match state.dialect with
  | .plain =>
    if missing then "No arg for -" ++ letter :: " option\n".toList
    else "Illegal option -" ++ [letter, '\n']
  | .rich =>
    state.name ++
      (if missing then ": option requires an argument -- " else ": illegal option -- ") ++
      [letter, '\n']

/-- The next option among arguments, from a place on. -/
def optionStep (state : State) (known : Text) (arguments : List Text) (place : OptionPlace) :
    OptionStep :=
  let atEnd (next : Nat) : OptionStep := ⟨'?', none, none, next, none, true⟩
  let argumentAt (n : Nat) : Option Text := arguments[n - 1]?
  let quiet := known.head? == some ':'
  let inside (letters : Text) (next : Nat) : OptionStep :=
    match letters with
    | [] => atEnd next
    | c :: rest =>
      let offset := if rest.isEmpty then none
        else (argumentAt (next - 1)).map fun argument => argument.length - rest.length
      match lookUpOption c (if quiet then known.drop 1 else known), c with
      | none, _ => unknown c next offset
      | _, ':' => unknown c next offset
      | some false, _ => ⟨c, some [], none, next, offset, false⟩
      | some true, _ =>
        if rest.isEmpty then
          match argumentAt next with
          | some value => ⟨c, some value, none, next + 1, none, false⟩
          | none =>
            if quiet then ⟨':', some [c], none, next, none, false⟩
            else ⟨'?', none, some (optionComplaint state true c), next, none, false⟩
        else ⟨c, some rest, none, next, none, false⟩
  let left : Text := match place.offset with
    | some offset => ((argumentAt (place.next - 1)).getD []).drop offset
    | none => []
  if ¬ left.isEmpty then inside left place.next
  else
    match argumentAt place.next with
    | some ('-' :: c :: cs) =>
      if c = '-' ∧ cs.isEmpty then atEnd (place.next + 1) else inside (c :: cs) (place.next + 1)
    | _ => atEnd place.next
where
  /-- The step to an option that there is not. -/
  unknown (c : Char) (next : Nat) (offset : Option Nat) : OptionStep :=
    if known.head? = some ':' then ⟨'?', some [c], none, next, offset, false⟩
    else ⟨'?', none, some (optionComplaint state false c), next, offset, false⟩

/-- Takes the next option off arguments. -/
def nextOption : Own := fun arguments => do
  let state ← get
  match ← withoutOptions arguments with
  | known :: name :: others =>
    let all := if others.isEmpty then state.arguments else others
    let place := if all.length + 1 < state.place.next then ⟨1, none⟩ else state.place
    let step := optionStep state known all place
    match step.complaint with
    | some complaint => if state.valueOf? "OPTERR" ≠ some ['0'] then writeError complaint
    | none => pure ()
    match step.argument with
    | some value =>
      if state.dialect = .rich ∧ value.isEmpty ∧ step.letter ≠ ':' then
        modify fun state => state.putVariable "OPTARG" none
      else assignVariable "OPTARG" value
    | none =>
      if ¬ step.isEnd then modify fun state => state.putVariable "OPTARG" none
    modify fun state => state.assign "OPTIND" (decimal step.next)
    if state.dialect = .rich then
      modify fun state => { state with place := ⟨step.next, step.offset⟩ }
    if ¬ isName name then failName name
    assignVariable (String.ofList name) [step.letter]
    modify fun state => { state with place := ⟨step.next, step.offset⟩ }
    return if step.isEnd then 1 else 0
  | _ =>
    match state.dialect with
    | .plain => fail "Usage: getopts optstring var [arg...]"
    | .rich => failUsage []

end TaskRunner.Shell
