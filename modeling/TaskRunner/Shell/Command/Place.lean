import TaskRunner.Shell.Command.Option

/-! The commands of the shell about where it is and what it may do. -/

namespace TaskRunner.Shell

open Exec

/-! ### Directories -/

/-- The path that another one leads to from a directory, by the names alone. -/
def joinedPath (current path : Text) : Text :=
  let base := if path.head? = some '/' then [] else current
  let names := ((base ++ '/' :: path).splitOn '/').foldl (fun names name =>
    if name = [] ∨ name = ['.'] then names
    else if name = ['.', '.'] then names.drop 1
    else name :: names) []
  if names.isEmpty then ['/'] else names.reverse.flatMap fun name => '/' :: name

/-- The complaint about a directory that the shell cannot move to. -/
def failDirectory {α : Type} (path : Text) (refusal : Refusal) : Exec α := do
  match (← get).dialect with
  | .plain => fail ("can't cd to " ++ path)
  | .rich => failWith 1 (path ++ ": " ++ refusal.message)

/-- The path of the directory that the shell is in, as the kernel knows it. -/
def physicalDirectory : Exec Text := do
  match ← ask .directory with
  | .ok path => return path
  | .error _ => return (← get).directory

/-- Sets the variables that say where the shell is. -/
def setDirectory (path : Text) : Exec Unit := do
  let before := (← get).directory
  modify fun state => (state.assign "OLDPWD" before).export "OLDPWD"
  modify fun state => (state.assign "PWD" path).export "PWD"
  modify fun state =>
    { state with
      directory := path
      found := state.found.map fun found => { found with stale := true } }

/-- Moves to a directory.  The outcome says whether that is possible. -/
def moveTo (physical : Bool) (path : Text) : Exec (Except Refusal Unit) := do
  let current := (← get).directory
  let goal := if physical then path else joinedPath current path
  match ← ask (.setDirectory goal) with
  | .error refusal => return .error refusal
  | .ok () =>
    setDirectory (← if physical then physicalDirectory else pure goal)
    return .ok ()

/-- The path is to be found without a search. -/
def isAnchored (path : Text) : Bool :=
  match path with
  | '/' :: _ => true
  | ['.'] => true
  | '.' :: '/' :: _ => true
  | ['.', '.'] => true
  | '.' :: '.' :: '/' :: _ => true
  | _ => false

/-- The first of some directories below which a path leads to a directory. -/
def findDirectory (path : Text) : List Text → Exec (Option Text)
  | [] => return none
  | directory :: rest => do
    let candidate := pathIn directory path
    match ← ask (.inspect candidate true) with
    | .ok info =>
      if info.kind = .directory then return some candidate else findDirectory path rest
    | .error _ => findDirectory path rest

/-- Moves to another directory. -/
def changeDirectory : Own := fun arguments => do
  let rich := (← get).dialect == .rich
  let (letters, names) ← leadingLetters (if rich then "LPe@" else "LP") arguments
  if rich ∧ 1 < names.length then failWith 1 "too many arguments"
  let physical := letters.getLast? == some 'P'
  let state ← get
  let back := names.head? == some ['-']
  let goal : Text ← match names with
    | [] =>
      match state.valueOf? "HOME", rich with
      | none, true => failWith 1 "HOME not set"
      | home, _ => pure (home.getD [])
    | name :: _ =>
      if back then
        match state.valueOf? "OLDPWD", rich with
        | none, true => failWith 1 "OLDPWD not set"
        | before, _ => pure (before.getD [])
      else pure name
  let path := if goal.isEmpty then ['.'] else goal
  let search := (state.valueOf? "CDPATH").filter fun _ => !isAnchored path
  let found ← match search with
    | some search => findDirectory path (directoriesOf search)
    | none => pure none
  let shows := back || found.any (· != path)
  match ← moveTo physical (found.getD path) with
  | .error refusal => failDirectory goal refusal
  | .ok () =>
    if shows then say ((← get).directory ++ ['\n'])
    return 0

/-- Shows the directory that the shell is in. -/
def sayDirectory : Own := fun arguments => do
  let (letters, _) ← leadingLetters "LP" arguments
  let path ← if letters.getLast? = some 'P' then physicalDirectory else pure (← get).directory
  say (path ++ ['\n'])
  return 0

/-! ### Directories to go back to -/

/-- A path with the home directory written as a tilde. -/
def shortened (state : State) (path : Text) : Text :=
  match state.home? [] with
  | some home =>
    if home.isEmpty ∨ home = ['/'] then path
    else if path = home then ['~']
    else if (home ++ ['/']).isPrefixOf path then '~' :: path.drop home.length
    else path
  | none => path

/-- Shows the directory that the shell is in and those to go back to. -/
def sayStack : Exec Unit := do
  let state ← get
  say (List.intercalate [' '] ((state.directory :: state.stack).map (shortened state)) ++ ['\n'])

/-- The number of a directory, counted from the front or from the back. -/
def stackIndex? (count : Nat) (argument : Text) : Option Nat :=
  match argument with
  | '+' :: digits =>
    if digits ≠ [] ∧ digits.all Char.isDigit ∧ digitsValue digits < count then
      some (digitsValue digits)
    else none
  | '-' :: digits =>
    if digits ≠ [] ∧ digits.all Char.isDigit ∧ digitsValue digits < count then
      some (count - 1 - digitsValue digits)
    else none
  | _ => none

/-- The argument counts directories. -/
def isStackIndex (argument : Text) : Bool :=
  match argument with
  | '+' :: digits => digits ≠ [] && digits.all Char.isDigit
  | '-' :: digits => digits ≠ [] && digits.all Char.isDigit
  | _ => false

/-- Moves to a directory that is named as for a change of directories. -/
def moveFor (path : Text) : Exec Unit := do
  match ← moveTo false path with
  | .ok () => return
  | .error refusal => failDirectory path refusal

/-- Moves to another directory, and takes note of the one before. -/
def enterDirectory : Own := fun arguments => do
  let state ← get
  let arguments := if arguments.head? = some ['-', '-'] then arguments.tail else arguments
  let all := state.directory :: state.stack
  let quiet := arguments.head? == some ['-', 'n']
  let arguments := if quiet then arguments.tail else arguments
  match arguments with
  | [] =>
    match state.stack with
    | [] => failWith 1 "no other directory"
    | top :: rest =>
      moveFor top
      modify fun after => { after with stack := state.directory :: rest }
  | [argument] =>
    if isStackIndex argument then
      match stackIndex? all.length argument with
      | none => failWith 1 (argument ++ ": directory stack index out of range")
      | some n =>
        let turned := all.drop n ++ all.take n
        moveFor (turned.headD [])
        modify fun after => { after with stack := turned.tail }
    else if quiet then
      modify fun after => { after with stack := argument :: after.stack }
    else
      moveFor argument
      modify fun after => { after with stack := state.directory :: after.stack }
  | _ => failWith 1 "too many arguments"
  sayStack
  return 0

/-- Goes back to the directory that was noted last, or forgets another one. -/
def leaveDirectory : Own := fun arguments => do
  let state ← get
  let all := state.directory :: state.stack
  match arguments with
  | [] =>
    match state.stack with
    | [] => failWith 1 "directory stack empty"
    | top :: rest =>
      moveFor top
      modify fun after => { after with stack := rest }
  | argument :: _ =>
    if ¬ isStackIndex argument then failUsage (argument ++ ": invalid argument")
    else if state.stack.isEmpty then failWith 1 "directory stack empty"
    else
      match stackIndex? all.length argument with
      | none => failWith 1 (argument ++ ": directory stack index out of range")
      | some 0 =>
        moveFor (state.stack.headD [])
        modify fun after => { after with stack := state.stack.tail }
      | some n => set { state with stack := all.tail.eraseIdx (n - 1) }
  sayStack
  return 0

/-- Shows the directories to go back to, or forgets them. -/
def sayDirectories : Own := fun arguments => do
  let state ← get
  let all := state.directory :: state.stack
  match arguments.find? isStackIndex with
  | some argument =>
    match stackIndex? all.length argument with
    | none => failWith 1 (argument ++ ": directory stack index out of range")
    | some n => say (shortened state (all.getD n []) ++ ['\n'])
  | none =>
    let (letters, _) ← leadingLetters "clpv" arguments
    let show_ (path : Text) : Text := if letters.contains 'l' then path else shortened state path
    if letters.contains 'c' then set { state with stack := [] }
    else if letters.contains 'v' then
      for (path, n) in all.zipIdx do
        say (padLeft 2 (decimal n) ++ "  " ++ show_ path ++ "\n")
    else if letters.contains 'p' then
      for path in all do
        say (show_ path ++ ['\n'])
    else say (List.intercalate [' '] (all.map show_) ++ ['\n'])
  return 0

/-! ### Permissions -/

/-- The permissions that letters stand for, among three bits. -/
def permissionBits (letters : Text) (allowed : Nat → Nat) : Nat :=
  letters.foldl (fun bits c => bits ||| match c with
    | 'r' => 4
    | 'w' => 2
    | 'x' => 1
    | 'X' => 1
    | 'u' => allowed 64
    | 'g' => allowed 8
    | 'o' => allowed 1
    | _ => 0) 0

/-- The permissions after a clause such as `g+w`, if it is one. -/
def applyClause (permissions : Nat) (clause : Text) : Option Nat :=
  let who := clause.takeWhile fun c => "ugoa".toList.contains c
  let places : List Nat :=
    if who.isEmpty ∨ who.contains 'a' then [64, 8, 1]
    else (if who.contains 'u' then [64] else []) ++ (if who.contains 'g' then [8] else []) ++
      (if who.contains 'o' then [1] else [])
  let rec apply : Nat → Nat → Text → Option Nat
    | 0, _, _ => none
    | _ + 1, permissions, [] => some permissions
    | fuel + 1, permissions, sign :: rest =>
      let letters := rest.takeWhile fun c => "rwxXstugo".toList.contains c
      let bits := permissionBits letters fun place => permissions / place % 8
      let spread := places.foldl (fun total place => total + bits * place) 0
      let all := places.foldl (fun total place => total + 7 * place) 0
      let rest := rest.drop letters.length
      match sign with
      | '+' => apply fuel (permissions ||| spread) rest
      | '-' => apply fuel (permissions &&& (0o7777 ^^^ spread)) rest
      | '=' => apply fuel ((permissions &&& (0o7777 ^^^ all)) ||| spread) rest
      | _ => none
  match clause.drop who.length with
  | [] => none
  | signs => apply (signs.length + 1) permissions signs

/-- The permissions after clauses with commas between. -/
def applyClauses (permissions : Nat) (clauses : Text) : Option Nat :=
  (clauses.splitOn ',').foldlM (fun permissions clause =>
    if clause.isEmpty then some permissions else applyClause permissions clause) permissions

/-- The letters of three bits. -/
def permissionLetters (bits : Nat) : Text :=
  (if bits &&& 4 ≠ 0 then ['r'] else []) ++ (if bits &&& 2 ≠ 0 then ['w'] else []) ++
    (if bits &&& 1 ≠ 0 then ['x'] else [])

/-- Shows or sets the permissions that new files lack. -/
def changeMask : Own := fun arguments => do
  let rich := (← get).dialect == .rich
  let (letters, names) ← leadingLetters (if rich then "pS" else "S") arguments
  let mask := match ← ask .mask with
    | .ok mask => mask
    | .error _ => 0
  match names with
  | [] =>
    let granted := 0o777 ^^^ mask
    let digits := (Layout.mk [] 4 (some 4)).digits 8 mask
    if letters.contains 'S' then
      say ("u=" ++ permissionLetters (granted / 64 % 8) ++ ",g=" ++
        permissionLetters (granted / 8 % 8) ++ ",o=" ++ permissionLetters (granted % 8) ++ "\n")
    else say ((if letters.contains 'p' then ("umask " : Text) else []) ++ digits ++ ['\n'])
    return 0
  | name :: _ =>
    let isNumber := name.head?.any Char.isDigit
    let chosen : Option Nat :=
      if isNumber then
        if name.all isOctalDigit then some (baseValue 8 name) else none
      else if name.all fun c => "ugo".toList.contains c then some mask
      else (applyClauses (0o777 ^^^ mask) name).map fun granted => 0o777 ^^^ (granted &&& 0o777)
    match chosen with
    | some chosen =>
      let _ ← ask (.setMask chosen)
      return 0
    | none =>
      if rich then
        failWith 1 (if isNumber then name ++ ": octal number out of range"
          else "\x60" ++ name.reverse.take 1 ++ "': invalid symbolic mode character")
      else if isNumber then failNumber name
      else fail ("Illegal mode: " ++ name)
where
  /-- The digit is octal. -/
  isOctalDigit (c : Char) : Bool := '0' ≤ c && c ≤ '7'

/-! ### Limits and times -/

/-- What a shell may use, by letters, with what is shown of it. -/
def limits : List (Char × String × String) :=
  [('t', "time(seconds)", "unlimited"), ('f', "file(blocks)", "unlimited"),
    ('d', "data(kbytes)", "unlimited"), ('s', "stack(kbytes)", "8192"),
    ('c', "coredump(blocks)", "0"), ('m', "memory(kbytes)", "unlimited"),
    ('l', "locked memory(kbytes)", "8192"), ('p', "process", "unlimited"),
    ('n', "nofiles", "1048576"), ('v', "vmemory(kbytes)", "unlimited"),
    ('w', "locks", "unlimited"), ('r', "rtprio", "0")]

/-- Shows what the shell may use. -/
def sayLimits : Own := fun arguments => do
  let rich := (← get).dialect == .rich
  let (letters, names) ←
    leadingLetters (if rich then "HSabcdefiklmnpqrstuvxPRT" else "HSatfdscmlpnvwr") arguments
  if letters.contains 'a' then
    for (_, title, value) in limits do
      say (padRight 20 title.toList ++ ' ' :: ofString value ++ ['\n'])
    return 0
  else
    let letter := (letters.filter fun c => c != 'H' && c != 'S').getLastD 'f'
    match names with
    | [] =>
      let value := (limits.lookup letter).map Prod.snd
      say (ofString (value.getD "unlimited") ++ ['\n'])
      return 0
    | name :: _ =>
      if name ≠ "unlimited".toList ∧ ¬ name.all Char.isDigit then
        if rich then failWith 1 (name ++ ": invalid number") else fail "bad number"
      return 0

/-- Shows how much time the shell and its children have taken. -/
def sayTimes : Own := fun _ => do
  match (← get).dialect with
  | .plain => say "0m0.000000s 0m0.000000s\n0m0.000000s 0m0.000000s\n"
  | .rich => say "0m0.000s 0m0.000s\n0m0.000s 0m0.000s\n"
  return 0

end TaskRunner.Shell
