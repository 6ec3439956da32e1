import TaskRunner.Program.Launch
import TaskRunner.Program.List
import TaskRunner.Program.Say
import TaskRunner.Regex.Parse
import TaskRunner.Regex.Search

/-! The program `find`: which of the names below a directory fit a condition, and what is done with
those that do. -/

namespace TaskRunner.Program

open Tool

/-! ### Conditions -/

/-- A number that is compared: exactly, from below or from above. -/
structure Amount where
  sign : Option Char
  count : Nat
deriving DecidableEq, Repr

namespace Amount

/-- The amount that a text stands for. -/
def ofText? (text : Text) : Option Amount :=
  match text with
  | '+' :: digits => (wholeNumber? digits).map (⟨some '+', ·⟩)
  | '-' :: digits => (wholeNumber? digits).map (⟨some '-', ·⟩)
  | digits => (wholeNumber? digits).map (⟨none, ·⟩)

/-- A number is the amount. -/
def fits (amount : Amount) (n : Nat) : Bool :=
  match amount.sign with
  | some '+' => amount.count < n
  | some _ => n < amount.count
  | none => n == amount.count

end Amount

/-- A condition on a name, or something that is done with it. -/
inductive Finding where
  | constant (holds : Bool)
  | not (finding : Finding)
  | both (first second : Finding)
  | either (first second : Finding)
  | last (first second : Finding)
  | name (pattern : Shell.Pattern) (folds whole : Bool)
  | regex (matcher : Regex.Matcher)
  | linkName (pattern : Shell.Pattern) (folds : Bool)
  | kinds (letters : Text)
  | empty
  | size (amount : Amount) (unit : Nat)
  | links (amount : Amount)
  | number (amount : Amount)
  | permissions (sign : Option Char) (bits : Nat)
  | newer (time : Nat)
  | age (amount : Amount) (unit : Nat)
  | depth (amount : Amount)
  | allows (bit : Nat)
  | same (number : Nat)
  | print (mark : Char)
  | format (text : Text)
  | list
  | delete
  | prune
  | quit
  | run (command : List Text) (within asks : Bool)
  | gather (index : Nat) (command : List Text) (within : Bool)

namespace Finding

/-- Something is done, so that nothing else need be done with what fits. -/
def acts : Finding → Bool
  | not finding => finding.acts
  | both first second => first.acts || second.acts
  | either first second => first.acts || second.acts
  | last first second => first.acts || second.acts
  | print _ => true
  | format _ => true
  | list => true
  | delete => true
  | quit => true
  | run _ _ _ => true
  | gather _ _ _ => true
  | _ => false

/-- The commands for which names are gathered. -/
def gathered : Finding → List (Nat × List Text)
  | not finding => finding.gathered
  | both first second => first.gathered ++ second.gathered
  | either first second => first.gathered ++ second.gathered
  | last first second => first.gathered ++ second.gathered
  | gather index command _ => [(index, command)]
  | _ => []

end Finding

/-- How a search goes about it: how links are treated, how deep it goes, and whether what is below
comes first. -/
structure FindRule where
  follows : Bool
  followsFirst : Bool
  least : Nat
  most : Option Nat
  below : Bool

/-! ### Reading conditions -/

/-- What is left of the arguments while conditions are read, which condition was read before, and
how the search goes about it. -/
structure FindReader where
  rest : List Text
  before : Text
  rule : FindRule
  gathers : Nat

/-- A step of reading conditions. -/
abbrev Reading := StateT FindReader (ExceptT Text Tool)

/-- Something is wrong with the conditions. -/
def ill {α : Type} (message : Text) : Reading α := throw message

/-- The argument of a condition. -/
def argumentOf (name : Text) : Reading Text := do
  let reader ← get
  match reader.rest with
  | [] => ill ("missing argument to \x60" ++ name ++ ['\''])
  | argument :: rest => do
    set { reader with rest }
    return argument

/-- The amount that is the argument of a condition. -/
def amountOf (name : Text) : Reading Amount := do
  let argument ← argumentOf name
  match Amount.ofText? argument with
  | some amount => return amount
  | none => ill ("invalid argument \x60" ++ argument ++ "' to \x60" ++ name ++ ['\''])

/-- The units of sizes. -/
def sizeUnits : List (Char × Nat) :=
  [('b', 512), ('c', 1), ('w', 2), ('k', 1024), ('M', 1048576), ('G', 1073741824)]

/-- The command that is the argument of a condition, up to a semicolon, or up to a plus sign behind
braces. -/
def commandOf (name : Text) (together : Bool) : Reading (List Text × Bool) := do
  let braces := "\x7b\x7d".toList
  let rec go : Nat → List Text → Reading (List Text × Bool)
    | 0, _ => ill ("missing argument to \x60" ++ name ++ ['\''])
    | fuel + 1, done => do
      let reader ← get
      match reader.rest with
      | [] => ill ("missing argument to \x60" ++ name ++ ['\''])
      | word :: rest => do
        set { reader with rest }
        if word = [';'] then
          if done.isEmpty then ill ("invalid argument \x60;' to \x60" ++ name ++ ['\''])
          else return (done.reverse, false)
        else if word = ['+'] ∧ together ∧ done.head? = some braces then
          return (done.tail.reverse, true)
        else go fuel (word :: done)
  go ((← get).rest.length + 1) []

/-- The time when a file was changed. -/
def timeOf (path : Text) : Reading FileInfo := do
  match ← (lookAt path true : Tool (Except Refusal FileInfo)) with
  | .ok info => return info
  | .error refusal => ill (quotedName path ++ ": " ++ ofString refusal.message)

/-- The present. -/
def present : Tool Nat := do
  match ← ask .clock with
  | .ok now => return now
  | .error _ => return 0

/-- The condition that begins with a name. -/
def primary (name : Text) : Reading Finding := do
  let pattern (text : Text) : Shell.Pattern := Shell.Pattern.ofText .rich text
  let regexOf (folds : Bool) : Reading Finding := do
    let text ← argumentOf name
    match Regex.ofText ⟨false, false⟩ text with
    | .ok regex => return .regex (regex.matcher folds false)
    | .error fault => ill fault.message.toList
  match String.ofList name with
  | "-name" => return .name (pattern (← argumentOf name)) false false
  | "-iname" => return .name (pattern ((← argumentOf name).map Char.toLower)) true false
  | "-path" => return .name (pattern (← argumentOf name)) false true
  | "-wholename" => return .name (pattern (← argumentOf name)) false true
  | "-ipath" => return .name (pattern ((← argumentOf name).map Char.toLower)) true true
  | "-lname" => return .linkName (pattern (← argumentOf name)) false
  | "-ilname" => return .linkName (pattern ((← argumentOf name).map Char.toLower)) true
  | "-regex" => regexOf false
  | "-iregex" => regexOf true
  | "-type" => do
    let letters := (← argumentOf name).filter (· != ',')
    match letters.find? fun c => !"bcdpflsD".toList.contains c with
    | some c => ill ("Unknown argument to -type: " ++ [c])
    | none => return .kinds letters
  | "-empty" => return .empty
  | "-true" => return .constant true
  | "-false" => return .constant false
  | "-size" => do
    let text ← argumentOf name
    if let some c := text.getLast? then
      if ¬ c.isDigit ∧ (sizeUnits.lookup c).isNone then
        ill ("invalid -size type \x60" ++ [c] ++ ['\''])
    let unit := text.getLast?.bind fun letter => sizeUnits.lookup letter
    let digits := if unit.isSome then text.dropLast else text
    match Amount.ofText? digits with
    | some amount => return .size amount (unit.getD 512)
    | none =>
      ill ("Invalid argument \x60" ++ text ++ "' to -size")
  | "-links" => return .links (← amountOf name)
  | "-inum" => return .number (← amountOf name)
  | "-perm" => do
    let text ← argumentOf name
    let (sign, digits) : Option Char × Text := match text with
      | '-' :: rest => (some '-', rest)
      | '/' :: rest => (some '/', rest)
      | rest => (none, rest)
    match ModeRule.ofText? digits with
    | some rule => return .permissions sign (rule.apply false 0 0)
    | none => ill ("invalid mode " ++ quoted text)
  | "-newermt" => do
    let text ← argumentOf name
    match instantOf? (← (present : Tool Nat)) text with
    | some instant => return .newer instant.toNat
    | none =>
      ill ("I cannot figure out how to interpret " ++ quoted text ++ " as a date or time")
  | "-newer" => return .newer (← timeOf (← argumentOf name)).modified
  | "-anewer" => return .newer (← timeOf (← argumentOf name)).modified
  | "-cnewer" => return .newer (← timeOf (← argumentOf name)).modified
  | "-samefile" => return .same (← timeOf (← argumentOf name)).number
  | "-mtime" => return .age (← amountOf name) 86400000000
  | "-atime" => return .age (← amountOf name) 86400000000
  | "-ctime" => return .age (← amountOf name) 86400000000
  | "-mmin" => return .age (← amountOf name) 60000000
  | "-amin" => return .age (← amountOf name) 60000000
  | "-cmin" => return .age (← amountOf name) 60000000
  | "-readable" => return .allows 0o444
  | "-writable" => return .allows 0o222
  | "-executable" => return .allows 0o111
  | "-user" => return .constant (["root", "0"].contains (String.ofList (← argumentOf name)))
  | "-group" => return .constant (["root", "0"].contains (String.ofList (← argumentOf name)))
  | "-uid" => return .constant ((← amountOf name).fits 0)
  | "-gid" => return .constant ((← amountOf name).fits 0)
  | "-nouser" => return .constant false
  | "-nogroup" => return .constant false
  | "-print" => return .print '\n'
  | "-print0" => return .print '\x00'
  | "-printf" => return .format (← argumentOf name)
  | "-ls" => return .list
  | "-delete" => do
    modify fun reader => { reader with rule := { reader.rule with below := true } }
    return .delete
  | "-prune" => return .prune
  | "-quit" => return .quit
  | "-depth" => do
    modify fun reader => { reader with rule := { reader.rule with below := true } }
    return .constant true
  | "-d" => do
    modify fun reader => { reader with rule := { reader.rule with below := true } }
    return .constant true
  | "-maxdepth" => do
    let most ← level
    modify fun reader => { reader with rule := { reader.rule with most := some most } }
    return .constant true
  | "-mindepth" => do
    let least ← level
    modify fun reader => { reader with rule := { reader.rule with least } }
    return .constant true
  | "-follow" => do
    modify fun reader => { reader with rule := { reader.rule with follows := true } }
    return .constant true
  | "-xdev" => return .constant true
  | "-mount" => return .constant true
  | "-noleaf" => return .constant true
  | "-nowarn" => return .constant true
  | "-warn" => return .constant true
  | "-ignore_readdir_race" => return .constant true
  | "-regextype" => do
    let _ ← argumentOf name
    return .constant true
  | "-exec" => command false false
  | "-execdir" => command true false
  | "-ok" => command false true
  | "-okdir" => command true true
  | _ => ill ("unknown predicate \x60" ++ name ++ ['\''])
where
  /-- How deep something lies. -/
  level : Reading Nat := do
    let argument ← argumentOf name
    match wholeNumber? argument with
    | some n => return n
    | none =>
      ill ("Expected a positive decimal integer argument to " ++ name ++ ", but got " ++
        quoted argument)
  /-- A command that is run. -/
  command (within asks : Bool) : Reading Finding := do
    let (words, together) ← commandOf name !asks
    if together then
      let index := (← get).gathers
      modify fun reader => { reader with gathers := index + 1 }
      return .gather index words within
    else return .run words within asks

/-- A path stands behind a condition.  If there is something there, a pattern may have been meant.
-/
def strayPath {α : Type} (word : Text) : Reading α := do
  let message : Text := "paths must precede expression: \x60" ++ word ++ ['\'']
  let before := (← get).before
  let known ← (lookAt word false : Tool (Except Refusal FileInfo))
  match known with
  | .ok _ =>
    if before.isEmpty then ill message
    else
      let name := (← (get : Tool Desk)).name
      ill (message ++ '\n' :: name ++ ": possible unquoted pattern after predicate \x60" ++
        before ++ "'?")
  | .error _ => ill message

/-- The names that join conditions or end them. -/
def joins : List String := ["-o", "-or", ",", ")"]

mutual

/-- Conditions with commas between, of which the last one counts. -/
def readListed : Nat → Reading Finding
  | 0 => ill []
  | fuel + 1 => do
    let first ← readEither fuel
    let reader ← get
    match reader.rest with
    | [','] :: rest => do
      set { reader with rest }
      return .last first (← readListed fuel)
    | _ => return first

/-- Conditions of which one has to hold. -/
def readEither : Nat → Reading Finding
  | 0 => ill []
  | fuel + 1 => do
    let first ← readBoth fuel
    let reader ← get
    match reader.rest with
    | word :: rest =>
      if word = "-o".toList ∨ word = "-or".toList then do
        set { reader with rest }
        return .either first (← readEither fuel)
      else return first
    | [] => return first

/-- Conditions all of which have to hold. -/
def readBoth : Nat → Reading Finding
  | 0 => ill []
  | fuel + 1 => do
    let first ← readOne fuel
    readMore fuel first

/-- More conditions all of which have to hold. -/
def readMore : Nat → Finding → Reading Finding
  | 0, first => return first
  | fuel + 1, first => do
    let reader ← get
    match reader.rest with
    | [] => return first
    | word :: rest =>
      if joins.contains (String.ofList word) then return first
      else do
        let isAnd := word == "-a".toList || word == "-and".toList
        set { reader with rest := if isAnd then rest else word :: rest }
        let second ← readOne fuel
        readMore fuel (.both first second)

/-- One condition. -/
def readOne : Nat → Reading Finding
  | 0 => ill []
  | fuel + 1 => do
    let reader ← get
    match reader.rest with
    | [] => ill "invalid expression".toList
    | word :: rest =>
      set { reader with rest }
      match String.ofList word with
      | "!" => negated word fuel
      | "-not" => negated word fuel
      | "(" => do
        match rest with
        | [')'] :: _ =>
          ill "invalid expression; empty parentheses are not allowed.".toList
        | _ => pure ()
        let inner ← readListed fuel
        let reader ← get
        match reader.rest with
        | [')'] :: rest => do
          set { reader with rest }
          return inner
        | _ =>
          ill ("invalid expression; I was expecting to find a ')' somewhere " ++
            "but did not see one.").toList
      | ")" =>
        ill "invalid expression; you have too many ')'".toList
      | text =>
        if text ∈ ["-o", "-or", "-a", "-and", ","] then
          ill ("invalid expression; you have used a binary operator '" ++ word ++
            "' with nothing before it.")
        else if word.head? = some '-' then do
          let finding ← primary word
          modify fun reader => { reader with before := word }
          return finding
        else strayPath word

/-- A condition that must not hold. -/
def negated (word : Text) : Nat → Reading Finding
  | 0 => ill []
  | fuel + 1 => do
    if (← get).rest.isEmpty then ill ("expected an expression after '" ++ word ++ ['\''])
    return .not (← readOne fuel)

end

/-! ### Carrying out -/

/-- A name that was found: its path, the operand below which it lies, how deep it lies, and what is
known of it. -/
structure Found where
  path : Text
  root : Text
  level : Nat
  info : FileInfo
  target : Text

/-- How far a search has come: the names that are gathered for commands with the last one in front,
whether the names below the present one are left out, and whether the search is over. -/
structure FindState where
  gathered : List (Nat × Text)
  pruned : Bool
  isOver : Bool

/-- The name that a path ends with, as conditions see it. -/
def Found.name (found : Found) : Text :=
  lastName found.path

/-- What a letter after a percent sign stands for. -/
def findPart? (found : Found) (letter : Char) : Option Text :=
  let entry : Listed := ⟨found.path, found.path, found.info, found.target, false⟩
  match letter with
  | 'p' => some found.path
  | 'f' => some found.name
  | 'h' =>
    let front := found.path.take (found.path.length - found.name.length)
    some (if front.isEmpty then ['.'] else if front = ['/'] then [] else front.dropLast)
  | 'H' => some found.root
  | 'P' => some ((found.path.drop found.root.length).dropWhile (· == '/'))
  | 'd' => some (decimal found.level)
  | 's' => some (decimal found.info.size)
  | 'm' => (statPart? entry 'a').map Prod.snd
  | 'M' => (statPart? entry 'A').map Prod.snd
  | 'y' => some [if found.info.kind = .regular then 'f' else kindLetter found.info.kind]
  | 'Y' => some [if found.info.kind = .regular then 'f' else kindLetter found.info.kind]
  | 'l' => some found.target
  | 'n' => some (decimal found.info.names)
  | 'i' => some (decimal found.info.number)
  | 'k' => some (decimal (spaceOf found.info))
  | 'b' => some (decimal (spaceOf found.info * 2))
  | 'u' => some "root".toList
  | 'g' => some "root".toList
  | 'U' => some ['0']
  | 'G' => some ['0']
  | 't' =>
    some ((Moment.ofInstant found.info.modified).write "%a %b %e %H:%M:%S.%N0 %Y".toList)
  | _ => none

/-- What a format comes to. -/
def findText (found : Found) : Nat → Text → Text
  | 0, _ => []
  | _ + 1, [] => []
  | fuel + 1, '%' :: '%' :: cs => '%' :: findText found fuel cs
  | fuel + 1, '%' :: cs =>
    let flags := cs.takeWhile fun c => "-+0 #".toList.contains c
    let rest := cs.drop flags.length
    let width := rest.takeWhile Char.isDigit
    match rest.drop width.length with
    | 'T' :: letter :: rest =>
      let moment := Moment.ofInstant found.info.modified
      let shown := if letter = '@' then
          toString moment.seconds |>.toList |> (· ++ ".0000000000".toList)
        else moment.write ['%', letter]
      shown ++ findText found fuel rest
    | letter :: rest =>
      let layout : Layout := ⟨flags, digitsValue width, none⟩
      (match findPart? found letter with
        | some text => layout.fill text
        | none => ['%', letter]) ++ findText found fuel rest
    | [] => '%' :: cs
  | fuel + 1, '\\' :: c :: cs =>
    match ([('n', '\n'), ('t', '\t'), ('0', '\x00'), ('\\', '\\'), ('a', '\x07'), ('r', '\r')] :
        List (Char × Char)).lookup c with
    | some d => d :: findText found fuel cs
    | none => '\\' :: c :: findText found fuel cs
  | fuel + 1, c :: cs => c :: findText found fuel cs

/-- A letter for a kind of file that a name has. -/
def isOfKind (info : FileInfo) (letter : Char) : Bool :=
  match info.kind with
  | .directory => letter == 'd'
  | .regular => letter == 'f'
  | .link => letter == 'l'
  | .fifo => letter == 'p'
  | .device => letter == 'c'

/-- Runs a command, in the directory of the name if that is wanted, and says whether it succeeded.
-/
def runFor (environment : List Text) (found : Found) (words : List Text) (within : Bool) :
    Tool Bool := do
  let braces := "\x7b\x7d".toList
  let shown : Text := if within then '.' :: '/' :: found.name else found.path
  match words.map fun word => replaceAll braces shown (word.length + 1) word with
  | [] => return false
  | name :: arguments =>
    let ready : Tool Unit := do
      if within then
        let _ ← ask (.setDirectory (directoryOf found.path))
    let child ← launch environment ready
      (fun name refusal => quoted name ++ ": " ++ ofString refusal.message) name arguments
    return (← awaitEnd child) = .code 0

/-- Complains about something that went wrong with a path. -/
def findTrouble (path : Text) (refusal : Refusal) : Tool Unit :=
  complain 1 (quotedName path ++ ": " ++ ofString refusal.message)

/-- Decides a condition, and does what it says. -/
def decideFinding (call : Call) (now : Nat) (found : Found) :
    Finding → FindState → Tool (Bool × FindState)
  | .constant holds, state => return (holds, state)
  | .not finding, state => do
    let (holds, state) ← decideFinding call now found finding state
    return (!holds, state)
  | .both first second, state => do
    let (holds, state) ← decideFinding call now found first state
    if holds ∧ ¬ state.isOver then decideFinding call now found second state
    else return (holds, state)
  | .either first second, state => do
    let (holds, state) ← decideFinding call now found first state
    if ¬ holds ∧ ¬ state.isOver then decideFinding call now found second state
    else return (holds, state)
  | .last first second, state => do
    let (_, state) ← decideFinding call now found first state
    decideFinding call now found second state
  | .name pattern folds whole, state =>
    let subject := if whole then found.path else found.name
    return (pattern.fits (if folds then subject.map Char.toLower else subject), state)
  | .regex matcher, state => return (matcher.fits found.path.toArray, state)
  | .linkName pattern folds, state =>
    let subject := if folds then found.target.map Char.toLower else found.target
    return (found.info.kind == .link && pattern.fits subject, state)
  | .kinds letters, state => return (letters.any (isOfKind found.info), state)
  | .empty, state => do
    match found.info.kind with
    | .directory =>
      match ← ask (.list found.path) with
      | .ok names => return (names.isEmpty, state)
      | .error _ => return (false, state)
    | .regular => return (found.info.size == 0, state)
    | _ => return (false, state)
  | .size amount unit, state =>
    return (amount.fits ((found.info.size + unit - 1) / unit), state)
  | .links amount, state => return (amount.fits found.info.names, state)
  | .number amount, state => return (amount.fits found.info.number, state)
  | .permissions sign bits, state =>
    let have_ := found.info.permissions
    return (match sign with
      | some '-' => have_ &&& bits == bits
      | some _ => bits == 0 || have_ &&& bits != 0
      | none => have_ == bits, state)
  | .newer time, state => return (time < found.info.modified, state)
  | .age amount unit, state => return (amount.fits ((now - found.info.modified) / unit), state)
  | .depth amount, state => return (amount.fits found.level, state)
  | .allows bit, state =>
    return (bit != 0o111 || found.info.kind == .directory || found.info.permissions &&& 0o111 != 0,
      state)
  | .same number, state => return (found.info.number == number, state)
  | .print mark, state => do
    say (found.path ++ [mark])
    return (true, state)
  | .format text, state => do
    say (findText found (text.length + 1) text)
    return (true, state)
  | .list, state => do
    let entry : Listed := ⟨found.path, found.path, found.info, found.target, false⟩
    let front := padLeft 9 (decimal found.info.number) ++ ' ' ::
      padLeft 6 (decimal (spaceOf found.info)) ++ [' ']
    Tool.each (fun line => sayLine (front ++ line)) (longLines ⟨[], []⟩ now [entry])
    return (true, state)
  | .delete, state => do
    if found.path = ['.'] then return (true, state)
    let outcome ← if found.info.kind = .directory then ask (.removeDirectory found.path)
      else ask (.removeFile found.path)
    match outcome with
    | .ok () => return (true, state)
    | .error refusal =>
      complain 1 (aboutQuoted "cannot delete " found.path refusal)
      return (false, state)
  | .prune, state => return (true, { state with pruned := true })
  | .quit, state => return (true, { state with isOver := true })
  | .run command within asks, state => do
    if asks then
      flush
      writeError ("< " ++ command.headD [] ++ " ... " ++ found.path ++ " > ? ")
      match ← act (Act.readLine 0) with
      | (c :: _, _) =>
        if c = 'y' ∨ c = 'Y' then return (← runFor call.environment found command within, state)
        else return (false, state)
      | ([], _) => return (false, state)
    else return (← runFor call.environment found command within, state)
  | .gather index _ within, state =>
    let shown : Text := if within then '.' :: '/' :: found.name else found.path
    return (true, { state with gathered := (index, shown) :: state.gathered })

/-- Searches what a path leads to and what is below. -/
def findBelow (call : Call) (now : Nat) (rule : FindRule) (finding : Finding) (root : Text) :
    Nat → Nat → Text → FindState → Tool FindState
  | 0, _, _, state => return state
  | fuel + 1, level, path, state => do
    if state.isOver then return state
    let follows := rule.follows || (level == 0 && rule.followsFirst)
    let looked ← do
      match ← lookAt path follows with
      | .ok info => pure (.ok info)
      | .error refusal => if follows then lookAt path false else pure (.error refusal)
    match looked with
    | .error refusal =>
      findTrouble path refusal
      return state
    | .ok info =>
      let target := match ← ask (.readLink path) with
        | .ok target => target
        | .error _ => []
      let found : Found := ⟨path, root, level, info, target⟩
      let decide (state : FindState) : Tool FindState := do
        if level < rule.least then return state
        let (_, state) ← decideFinding call now found finding { state with pruned := false }
        return state
      let enter (state : FindState) : Tool FindState := do
        if info.kind ≠ .directory ∨ rule.most.any (· ≤ level) then return state
        match ← ask (.list path) with
        | .error refusal =>
          findTrouble path refusal
          return state
        | .ok names =>
          Tool.fold (fun state name =>
            findBelow call now rule finding root fuel (level + 1) (below path name) state)
            state names
      if rule.below then decide (← enter state)
      else
        let state ← decide { state with pruned := false }
        if state.pruned ∨ state.isOver then return { state with pruned := false } else enter state

/-- The program `find`. -/
def find (call : Call) : Task :=
  task 1 call do
    let switches := call.arguments.takeWhile fun argument =>
      ["-L", "-P", "-H"].contains (String.ofList argument) || "-O".toList.isPrefixOf argument
    let arguments := call.arguments.drop switches.length
    let isCondition (argument : Text) : Bool :=
      (argument.head? == some '-' && 1 < argument.length) ||
        ["(", "!"].contains (String.ofList argument)
    let paths := arguments.takeWhile fun argument => !isCondition argument
    let conditions := arguments.drop paths.length
    let rule : FindRule :=
      ⟨switches.getLast? == some "-L".toList, switches.getLast? == some "-H".toList, 0, none, false⟩
    let start : FindReader := ⟨conditions, [], rule, 0⟩
    let read : Reading Finding := do
      if conditions.isEmpty then return .print '\n'
      let finding ← readListed (4 * conditions.length + 8)
      match (← get).rest with
      | [] => return if finding.acts then finding else .both finding (.print '\n')
      | [')'] :: _ => ill "invalid expression; you have too many ')'".toList
      | word :: _ => strayPath word
    match ← (read.run start).run with
    | .error message =>
      warn message
      setStatus 1
    | .ok (finding, reader) =>
      let now ← present
      let state ← Tool.fold (fun state path =>
        findBelow call now reader.rule finding path walkDepth 0 path state)
        (⟨[], false, false⟩ : FindState) (if paths.isEmpty then [['.']] else paths)
      Tool.each (fun entry => do
        let names := (state.gathered.reverse.filter fun found => found.1 == entry.1).map Prod.snd
        match names, entry.2 with
        | _ :: _, name :: arguments =>
          let child ← launch call.environment (pure ())
            (fun name refusal => quoted name ++ ": " ++ ofString refusal.message) name
            (arguments ++ names)
          if (← awaitEnd child) ≠ .code 0 then setStatus 1
        | _, _ => return) finding.gathered

end TaskRunner.Program
