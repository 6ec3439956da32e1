import TaskRunner.Shell.Command.Option

/-! The commands of the shell about what names stand for. -/

namespace TaskRunner.Shell

open Exec

/-! ### Aliases -/

/-- Shows an alias. -/
def sayAlias (entry : String × Text) : Exec Unit := do
  let shown : Text := match (← get).dialect with
    | .plain => ofString entry.1 ++ '=' :: singleQuoted entry.2
    | .rich => "alias " ++ ofString entry.1 ++ '=' :: closedQuoted entry.2
  say (shown ++ ['\n'])

/-- The aliases in the order in which they are shown. -/
def State.sortedAliases (state : State) : List (String × Text) :=
  match state.dialect with
  | .plain =>
    state.aliases.mergeSort fun a b =>
      State.shelf State.shelves a.1.toList ≤ State.shelf State.shelves b.1.toList
  | .rich => state.aliases.mergeSort fun a b => a.1 ≤ b.1

/-- The complaint about an alias that there is not. -/
def complainAlias (command : String) (name : Text) : Exec Unit := do
  match (← get).dialect with
  | .plain => writeError (command ++ ": " ++ name ++ " not found\n")
  | .rich => complain (name ++ ": not found")

/-- Sets aliases, or shows them. -/
def setAliases : Own := fun arguments => do
  let arguments ← match (← get).dialect with
    | .plain => pure (if arguments.head? = some ['-', 'p'] then arguments.tail else arguments)
    | .rich => do pure (← leadingLetters "p" arguments).2
  if arguments.isEmpty then
    for entry in (← get).sortedAliases do
      sayAlias entry
    return 0
  else
    let mut status := 0
    for argument in arguments do
      let front := argument.take 1
      let name := front ++ (argument.drop 1).takeWhile (· != '=')
      let key := toOrdinary name
      match argument.drop name.length with
      | _ :: value =>
        modify fun state =>
          { state with
            aliases :=
              if (state.aliases.lookup key).isSome then
                state.aliases.map fun entry => if entry.1 = key then (key, value) else entry
              else state.aliases ++ [(key, value)] }
      | [] =>
        match (← get).aliases.lookup key with
        | some value => sayAlias (key, value)
        | none =>
          complainAlias "alias" name
          status := 1
    return status

/-- Takes aliases away. -/
def unsetAliases : Own := fun arguments => do
  let (letters, names) ← leadingLetters "a" arguments
  if ¬ letters.isEmpty then
    modify fun state => { state with aliases := [] }
    return 0
  else
    if names.isEmpty ∧ (← get).dialect = .rich then failUsage []
    let mut status := 0
    for name in names do
      let key := toOrdinary name
      if ((← get).aliases.lookup key).isSome then
        modify fun state =>
          { state with aliases := state.aliases.filter fun entry => entry.1 != key }
      else
        complainAlias "unalias" name
        status := 1
    return status

/-! ### Names -/

/-- What a name stands for. -/
inductive Meaning where
  | keyword
  | alias (text : Text)
  | function
  | special
  | regular
  | program (path : Text) (known : Bool)
  | nothing

/-- What a name stands for in the shell.  The directories are those to search along if they are not
the usual ones. -/
def meaningOf (directories : Option (List Text)) (argument : Text) : Exec Meaning := do
  let state ← get
  let name := toOrdinary argument
  let rich := state.dialect == .rich
  let program : Exec Meaning := do
    if argument.contains '/' then
      match ← ask (.inspect argument true) with
      | .ok _ => return .program argument false
      | .error _ => return .nothing
    else
      match directories with
      | some directories =>
        match ← findFrom argument none 0 .noEntry directories with
        | .ok index => return .program (pathIn (directories.getD index []) argument) false
        | .error _ => return .nothing
      | none =>
        let known := state.found.any fun found => found.name == argument
        let found ← match state.dialect with
          | .plain => findProgram argument
          | .rich => findFrom argument none 0 .noEntry state.directories
        match found with
        | .ok index => return .program (pathIn (state.directories.getD index []) argument) known
        | .error _ => return .nothing
  if state.dialect.reserved.contains name then return .keyword
  else
    match state.aliases.lookup name with
    | some text => return .alias text
    | none =>
      let own := isOwnCommand state.dialect name
      if (state.functions.lookup name).isSome ∧ (rich ∨ ¬ isSpecialCommand .plain name) then
        return .function
      else if own ∧ isSpecialCommand state.dialect name then return .special
      else if own then return .regular
      else program

/-- Says in a sentence what a name stands for. -/
def sayMeaning (name : Text) (meaning : Meaning) : Exec Nat := do
  let rich := (← get).dialect == .rich
  let sentence (rest : Text) : Exec Nat := do
    say (name ++ rest ++ ['\n'])
    return 0
  match meaning with
  | .keyword => sentence " is a shell keyword"
  | .alias text =>
    if rich then sentence (" is aliased to \x60" ++ text ++ "'")
    else sentence (" is an alias for " ++ text)
  | .function => if rich then sentence " is a function" else sentence " is a shell function"
  | .special => sentence " is a special shell builtin"
  | .regular => sentence " is a shell builtin"
  | .program path known =>
    if ¬ known then sentence (" is " ++ path)
    else if rich then sentence (" is hashed (" ++ path ++ ")")
    else sentence (" is a tracked alias for " ++ path)
  | .nothing =>
    say (name ++ ": not found\n")
    return 127

/-- Says as shortly as possible what a name stands for. -/
def sayShortMeaning (name : Text) (meaning : Meaning) : Exec Nat := do
  match meaning with
  | .alias text =>
    let quoted := if (← get).dialect = .plain then singleQuoted text else closedQuoted text
    say ("alias " ++ name ++ '=' :: quoted ++ ['\n'])
    return 0
  | .program path _ =>
    say (path ++ ['\n'])
    return 0
  | .nothing => return if (← get).dialect = .rich then 1 else 127
  | _ =>
    say (name ++ ['\n'])
    return 0

/-- Says which kind of thing a name stands for. -/
def sayKind (meaning : Meaning) : Exec Nat := do
  let kind (text : Text) : Exec Nat := do
    say (text ++ ['\n'])
    return 0
  match meaning with
  | .keyword => kind "keyword"
  | .alias _ => kind "alias"
  | .function => kind "function"
  | .special => kind "builtin"
  | .regular => kind "builtin"
  | .program _ _ => kind "file"
  | .nothing => return 1

/-- Says what names stand for. -/
def describeNames : Own := fun arguments => do
  match (← get).dialect with
  | .plain =>
    let mut status := 0
    for name in arguments do
      status := status ||| (← sayMeaning name (← meaningOf none name))
    return status
  | .rich =>
    let (letters, names) ← leadingLetters "afptP" arguments
    let mut status := 0
    for name in names do
      let meaning ← meaningOf none name
      let outcome ←
        if letters.contains 't' then sayKind meaning
        else if letters.contains 'p' ∨ letters.contains 'P' then
          match meaning with
          | .program path _ => sayShortMeaning name (.program path false)
          | .nothing => pure 1
          | _ => pure 0
        else
          match meaning with
          | .nothing =>
            complain (name ++ ": not found")
            pure 1
          | meaning => sayMeaning name meaning
      if outcome ≠ 0 then status := 1
    return status

/-- Says what a command would be, in a sentence or as shortly as possible. -/
def describeCommand (brief : Bool) (directories : Option (List Text)) (name : Text) : Exec Nat := do
  let meaning ← meaningOf directories name
  if brief then sayShortMeaning name meaning
  else
    match (← get).dialect, meaning with
    | .rich, .nothing =>
      complain (name ++ ": not found")
      return 1
    | _, _ => sayMeaning name meaning

/-! ### Programs that were found -/

/-- How many shelves programs that were found are kept on. -/
def programShelves : Nat := 31

/-- Shows the programs that were found, or forgets them, or finds more. -/
def rememberPrograms : Own := fun arguments => do
  let rich := (← get).dialect == .rich
  let (letters, names) ← leadingLetters (if rich then "rldpt" else "r") arguments
  let state ← get
  if letters.contains 'r' then
    set { state with found := [] }
    return 0
  else if names.isEmpty then
    if rich ∧ state.found.isEmpty then say "hash: hash table empty\n"
    let shown := state.found.mergeSort fun a b =>
      State.shelf programShelves a.name ≤ State.shelf programShelves b.name
    if rich ∧ ¬ shown.isEmpty then say "hits\tcommand\n"
    for found in shown do
      let path := pathIn (state.directories.getD found.index []) found.name
      let front : Text := if rich then "   1\t" else []
      say (front ++ path ++ (if found.stale ∧ ¬ rich then ['*'] else []) ++ ['\n'])
    return 0
  else
    let mut status := 0
    for name in names do
      if ¬ isOwnCommand state.dialect (toOrdinary name) ∧ ¬ name.contains '/' then
        modify fun state => state.noteFound name none
        match ← findProgram name with
        | .ok _ => pure ()
        | .error refusal =>
          complain (name ++ ": " ++ startingReason refusal)
          status := 1
    return status

end TaskRunner.Shell
