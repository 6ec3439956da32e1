import TaskRunner.Shell.Brace
import TaskRunner.Shell.Field
import TaskRunner.Shell.Quote
import TaskRunner.Shell.Reckon
import TaskRunner.Shell.State
import TaskRunner.Shell.Word

/-! Expansion: from the words of a command to the texts it is called with. -/

namespace TaskRunner.Shell

open Exec

/-! ### Arithmetic -/

/-- The complaint about an expression that has no value. -/
def ArithmeticFault.message (fault : ArithmeticFault) (expression : Text) : Text :=
  let about (reason : String) : Text :=
    "arithmetic expression: " ++ reason ++ ": \"" ++ expression ++ "\""
  match fault with
  | .expecting what => about ("expecting " ++ what)
  | .divisionByZero => about "division by zero"
  | .notNumber text => "Illegal number: " ++ text

/-- The values of variables. -/
def State.bindings (state : State) : Bindings :=
  state.store.filterMap fun entry =>
    match entry.2.value with
    | some (.text text) => some (entry.1, text)
    | _ => none

/-- The members of a value under their numbers. -/
def numbered : Option Value → List (Nat × Text)
  | some (.members members) => members
  | some (.text text) => [(0, text)]
  | _ => []

/-- The state with a member of an array set. -/
def State.assignMember (state : State) (name : String) (index : Nat) (value : Text) : State :=
  state.changeVariable name fun found =>
    let before := numbered found.value
    let lower := before.filter fun entry => entry.1 < index
    let upper := before.filter fun entry => index < entry.1
    { found with value := some (.members (lower ++ (index, value) :: upper)) }

/-- The variable is an array whose members have texts as keys. -/
def State.isTable (state : State) (name : String) : Bool :=
  match state.valueAt name with
  | some (.table _) => true
  | _ => false

/-- The state with a member of a table set. -/
def State.assignEntry (state : State) (name : String) (key value : Text) : State :=
  state.changeVariable name fun found =>
    match found.value with
    | some (.table entries) =>
      let entries :=
        if (entries.lookup key).isSome then
          entries.map fun entry => if entry.1 = key then (key, value) else entry
        else entries ++ [(key, value)]
      { found with value := some (.table entries) }
    | _ => found

/-- One more than the greatest number of a member. -/
def State.nextIndex (state : State) (name : String) : Nat :=
  match (numbered (state.valueAt name)).getLast? with
  | some entry => entry.1 + 1
  | none => 0

/-- Ends the shell with a complaint, in the richer language. -/
def failFatal {α : Type} (message : Text) : Exec α := do
  complain message
  let _ ← flush
  setStatus 127
  throw .exit

/-- Sets a member of an array under its key. -/
def assignKeyed (name : String) (key value : Text) : Exec Unit := do
  let state ← get
  if state.isTable name then set (state.assignEntry name key value)
  else
    match decimalValue key with
    | some n =>
      if n < 0 then fail (name ++ "[" ++ key ++ "]: bad array subscript")
      else set (state.assignMember name n.toNat value)
    | none => return

/-! ### Parameters -/

/-- What a parameter stands for: nothing, a text, or a list of texts, which is joined where a single
text is called for if it is a star. -/
inductive Parameter where
  | unset
  | text (text : Text)
  | list (star : Bool) (texts : List Text)

/-- The letters of the options in the order in which they are shown. -/
def optionLetters : List Char :=
  ['u', 'b', 'a', 'C', 'E', 'V', 'v', 'x', 's', 'n', 'm', 'i', 'I', 'f', 'e']

/-- The letters of the options that are set. -/
def State.flags (state : State) : Text :=
  match state.dialect with
  | .plain => optionLetters.filter state.options.contains
  | .rich => "abefhikmnptuvxBCEHPTcs".toList.filter state.options.contains

/-- The members of an array in their order. -/
def memberTexts : Value → List Text
  | .text text => [text]
  | .members members => members.map Prod.snd
  | .table entries => entries.map Prod.snd

/-- The parameter with a name. -/
def State.parameter (state : State) (name : String) : Parameter :=
  let number (n : Nat) : Parameter := .text (toString n).toList
  match name with
  | "#" => number state.arguments.length
  | "?" => number state.status
  | "$" => number state.number
  | "-" => .text state.flags
  | "!" => match state.lastJob with
    | some job => number job
    | none => .unset
  | "0" => .text state.name
  | "@" => .list false state.arguments
  | "*" => .list true state.arguments
  | "LINENO" => match state.dialect with
    | .plain => (state.valueOf? name).elim .unset .text
    | .rich => number state.line
  | name =>
    if name.toList.all Char.isDigit then
      (state.arguments[digitsValue name.toList - 1]?).elim .unset .text
    else (state.valueOf? name).elim .unset .text

/-- What an expression can look up. -/
def State.scope (state : State) : Scope where
  text? target :=
    match target.key with
    | none =>
      match state.parameter target.name with
      | .text text => some text
      | _ => none
    | some key =>
      match state.valueAt target.name with
      | some (.table entries) => entries.lookup key
      | value =>
        match decimalValue key with
        | some n => if n < 0 then none else (numbered value).lookup n.toNat
        | none => none
  isTable := state.isTable
  size := state.nextIndex
  strict := 'u' ∈ state.options

/-- The text of a number. -/
def decimalText (n : Int) : Text :=
  (toString n).toList

/-- The next one of the numbers that seem random, from the one before. -/
def nextSeed (seed : Nat) : Nat :=
  let seed : Int := if seed = 0 then 123459876 else seed
  let next := 16807 * (seed % 127773) - 2836 * (seed / 127773)
  (if next < 0 then next + 2147483647 else next).toNat

/-- Brings a variable up to date that changes by itself: the seconds since the shell began, and a
random number. -/
def renew (name : String) : Exec Unit := do
  if name = "SECONDS" ∨ name = "RANDOM" ∨ name = "EPOCHSECONDS" then
    let state ← get
    if state.dialect = .rich then
      let now := match ← ask .clock with
        | .ok now => now
        | .error _ => state.began
      let seed := nextSeed state.seed
      match name with
      | "SECONDS" => set (state.assign name (decimalText (((now - state.began) / 1000000 : Nat))))
      | "RANDOM" =>
        let n := (seed / 65536 ^^^ seed % 65536) % 32768
        set { state.assign name (decimalText n) with seed }
      | _ => set (state.assign name (decimalText ((now / 1000000 : Nat))))

/-- The number that an expression comes to.  Its assignments take effect. -/
def reckonNumber (expression : Text) : Exec Int := do
  let state ← get
  match state.dialect with
  | .plain =>
    let before := state.bindings
    match evaluateArithmetic before expression with
    | .error fault => fail (fault.message expression)
    | .ok (value, bindings) =>
      for (name, value) in (bindings.take (bindings.length - before.length)).reverse do
        assignVariable name value
      return value
  | .rich =>
    if expression.contains 'S' ∨ expression.contains 'R' then
      renew "SECONDS"
      renew "RANDOM"
    let (outcome, writes) := Meter.evaluate (← get).scope expression
    for (target, value) in writes do
      let text := (toString value).toList
      match target.key with
      | none => assignVariable target.name text
      | some key => assignKeyed target.name key text
    match outcome with
    | .ok value => return value
    | .error (.wrong message expression shown) =>
      fail (expression ++ ": " ++ message ++ " (error token is \"" ++ shown ++ "\")")
    | .error (.unbound name) => failFatal (name ++ ": unbound variable")

/-- The separator that joins arguments into one text: the first one of the separators of fields. -/
def State.joint (state : State) : Text :=
  state.separators.take 1

/-- The text of a parameter, where arguments that are kept apart have a NUL between them. -/
def Parameter.joined (state : State) (full quoted : Bool) : Parameter → Option Text
  | .unset => none
  | .text content => some content
  | .list star texts =>
    let joint : Text :=
      if full ∧ ¬ (quoted ∧ star) then
        if ¬ quoted ∧ (state.valueOf? "IFS").isNone then [' '] else ['\x00']
      else state.joint
    match state.dialect, texts with
    | .rich, [] => none
    | _, _ => some (List.intercalate joint texts)

/-- A text that came out of an expansion as cells.  Unless it is quoted it is a region; arguments
that are kept apart between quotes are a strict one. -/
def expandedCells (quoted apart : Bool) (text : Text) : List Cell :=
  if ¬ quoted then Cell.region false (Cell.ofText false text)
  else if apart then Cell.region true (Cell.ofText true text)
  else .mark :: Cell.ofText true text

/-- Text without the line feeds at its end. -/
def dropFinalNewlines (text : Text) : Text :=
  (text.reverse.dropWhile (· == '\n')).reverse

/-- The part of a list from a place on, of some length; a negative length leaves that many out at
the end. -/
def sliceOf {α : Type} (start : Int) (length : Option Int) (items : List α) : List α :=
  let size : Int := items.length
  let start := if start < 0 then max (size + start) 0 else start
  let rest := items.drop start.toNat
  match length with
  | none => rest
  | some length =>
    if length < 0 then rest.take (rest.length + length).toNat else rest.take length.toNat

/-- The longest front of a text that a pattern stands for, as the number of its characters. -/
def longestFront? (pattern : Pattern) (text : Text) : Option Nat :=
  (List.range (text.length + 1)).reverse.find? fun n => pattern.fits (text.take n)

/-- What is put in the place of a part of a text: characters, and the part itself where there is
none. -/
abbrev Filling := List (Option Char)

/-- The filling that cells make up.  A bare ampersand is the part itself where that is wanted. -/
def Filling.ofCells (repeats : Bool) : List Cell → Filling
  | [] => []
  | .char '\\' false :: .char c quoted :: rest =>
    if repeats && (c == '&' || c == '\\') then some c :: Filling.ofCells repeats rest
    else some '\\' :: Filling.ofCells repeats (.char c quoted :: rest)
  | .char c quoted :: rest =>
    (if repeats && c == '&' && !quoted then none else some c) :: Filling.ofCells repeats rest
  | _ :: rest => Filling.ofCells repeats rest

/-- The text that is put in the place of another one. -/
def Filling.around (filling : Filling) (found : Text) : Text :=
  filling.flatMap fun part =>
    match part with
    | some c => [c]
    | none => found

/-- A text with the places filled in where a pattern fits. -/
def replacePlaces (pattern : Pattern) (filling : Filling) (every : Bool) : Text → Text
  | [] => []
  | c :: cs =>
    match longestFront? pattern (c :: cs) with
    | some (n + 1) =>
      filling.around (c :: cs.take n) ++
        if every then replacePlaces pattern filling every (cs.drop n) else cs.drop n
    | _ => c :: replacePlaces pattern filling every cs
termination_by text => text.length
decreasing_by all_goals (simp_wf; try omega)

/-- A text with what a pattern stands for replaced. -/
def replaceText (which : Replaced) (pattern : Pattern) (filling : Filling) (text : Text) : Text :=
  match which with
  | .first => replacePlaces pattern filling false text
  | .every => replacePlaces pattern filling true text
  | .front =>
    match longestFront? pattern text with
    | some n => filling.around (text.take n) ++ text.drop n
    | none => text
  | .back =>
    match (List.range (text.length + 1)).find? fun n => pattern.fits (text.drop n) with
    | some n => text.take n ++ filling.around (text.drop n)
    | none => text

/-- A text in other letters, where a pattern fits or there is none. -/
def recaseText (letters : LetterCase) (all : Bool) (pattern : Pattern) (text : Text) : Text :=
  let change (c : Char) : Char :=
    if pattern.isEmpty || pattern.fits [c] then letters.change c else c
  if all then text.map change
  else
    match text with
    | [] => []
    | c :: cs => change c :: cs

/-- What a letter makes of a text. -/
def transformed (letter : Char) (text : Text) : Text :=
  match letter with
  | 'U' => recaseText .upper true [] text
  | 'u' => recaseText .upper false [] text
  | 'L' => recaseText .lower true [] text
  | 'E' => unescaped (text.length + 1) text
  | 'Q' => quotedAgain text
  | 'K' => quotedAgain text
  | 'k' => quotedAgain text
  | _ => text

/-- The letters of the kinds of a variable. -/
def attributes (state : State) (name : String) : Text :=
  match state.store.lookup name with
  | none => []
  | some found =>
    let kind : Text := match found.value with
      | some (.members _) => ['a']
      | some (.table _) => ['A']
      | _ => []
    kind ++ (if found.reckoned then ['i'] else []) ++ (if found.fixed then ['r'] else []) ++
      (if found.exported then ['x'] else [])

/-- The home directories of users. -/
def homes : List (String × String) :=
  [("root", "/root"), ("daemon", "/usr/sbin"), ("bin", "/bin"), ("sys", "/dev"),
    ("sync", "/bin"), ("games", "/usr/games"), ("man", "/var/cache/man"), ("mail", "/var/mail"),
    ("www-data", "/var/www"), ("backup", "/var/backups"), ("nobody", "/nonexistent")]

/-- The directory that a name behind a tilde stands for. -/
def State.home? (state : State) (name : Text) : Option Text :=
  if name.isEmpty then
    match state.valueOf? "HOME", state.dialect with
    | some home, _ => some home
    | none, .plain => none
    | none, .rich => (homes.lookup "root").map ofString
  else (homes.lookup (toOrdinary name)).map ofString

/-- The pieces of a text that a tilde begins, whose name ends at a slash, at a colon in an
assignment, or where the word ends. -/
def tildePieces? (state : State) (assigning : Bool) (content : Text) (isLast : Bool) :
    Option Word :=
  let ends (c : Char) : Bool := c == '/' || (assigning && c == ':')
  match content with
  | '~' :: rest =>
    let name := rest.takeWhile fun c => !ends c
    let behind := rest.drop name.length
    if behind.isEmpty ∧ ¬ isLast then none
    else (state.home? name).map fun home => [.text true home, .text false behind]
  | _ => none

/-- The word with a tilde at its front replaced by a directory. -/
def expandTilde (state : State) : Word → Word
  | .text false content :: rest =>
    match tildePieces? state false content rest.isEmpty with
    | some [.text true home, behind] =>
      (if home.isEmpty then [] else [.text true home]) ++ behind :: rest
    | _ => .text false content :: rest
  | word => word

/-- The value of an assignment with tildes at its front and behind colons replaced by directories.
-/
def expandTildes (state : State) (word : Word) : Word :=
  let parts (content : Text) (atFront isLast : Bool) : Word :=
    let sections := content.splitOn ':'
    let count := sections.length
    (sections.zipIdx.map fun (part, n) =>
      let colon : Word := if n = 0 then [] else [.text false [':']]
      let expands := n ≠ 0 ∨ atFront
      let found := if expands then tildePieces? state true part (isLast || n + 1 < count) else none
      colon ++ found.getD [.text false part]).flatten
  let count := word.length
  (word.zipIdx.map fun (piece, n) =>
    match piece with
    | .text false content => parts content (n == 0) (n + 1 == count)
    | piece => [piece]).flatten

/-- The complaint about a parameter that has no value. -/
def failUnset {α : Type} (name : String) (reason : Text) : Exec α := do
  let state ← get
  if state.dialect = .rich then failFatal (name ++ ": " ++ reason)
  else fail (name ++ ": " ++ reason)

/-- The number that the index of an array comes to.  If it comes to none, the shell ends. -/
def reckonIndex (text : Text) : Exec Int := do
  match ← outcomeOf (reckonNumber text) with
  | .ok n => return n
  | .error .failed => throw .exit
  | .error interrupt => throw interrupt

/-- The index of a member of an array that a word stands for: all of them, joined if it is a star,
or one. -/
inductive Index where
  | all (star : Bool)
  | one (text : Text)

/-- The parameter that a member of an array is, or all of them. -/
def State.member (state : State) (name : String) (index : Index) : Exec Parameter := do
  let value := state.valueAt name
  match index with
  | .all star => return .list star ((value.map memberTexts).getD [])
  | .one text =>
    match value with
    | some (.table entries) => return (entries.lookup text).elim .unset .text
    | value =>
      let n ← reckonIndex text
      let n : Int := if n < 0 then n + state.nextIndex name else n
      if n < 0 then
        complain (name ++ ": bad array subscript" : String)
        return .unset
      else return ((numbered value).lookup n.toNat).elim .unset .text

/-- The keys of an array. -/
def State.keys (state : State) (name : String) : List Text :=
  match state.valueAt name with
  | some (.members members) => members.map fun member => (toString member.1).toList
  | some (.table entries) => entries.map Prod.fst
  | some (.text _) => [['0']]
  | none => []

/-- Sets a member of an array whose key is an expression. -/
def assignIndexed (name : String) (index value : Text) : Exec Unit := do
  let state ← get
  if state.isFixed name then fail (name ++ ": readonly variable" : String)
  else if state.isTable name then set (state.assignEntry name index value)
  else
    let n ← reckonIndex index
    let next := (← get).nextIndex name
    let n : Int := if n < 0 then n + next else n
    if n < 0 then fail (name ++ "[" ++ index ++ "]: bad array subscript")
    else modify fun state => state.assignMember name n.toNat value

/-- The text of a variable, or of a member of an array, that an argument names. -/
def State.parameterAt (state : State) (argument : Text) : Option Text :=
  let name := argument.takeWhile (· != '[')
  let value := state.valueAt (toOrdinary name)
  match argument.drop name.length with
  | [] =>
    match state.parameter (toOrdinary name) with
    | .text text => some text
    | _ => none
  | _ :: inside =>
    match value, inside.dropLast with
    | some (.table entries), key => entries.lookup key
    | some value, ['@'] => (memberTexts value).head?
    | some value, ['*'] => (memberTexts value).head?
    | value, key =>
      match decimalValue key with
      | some n =>
        let n : Int := if n < 0 then n + state.nextIndex (toOrdinary name) else n
        if n < 0 then none else (numbered value).lookup n.toNat
      | none => none

/-! ### Words -/

section

variable (capture : Command → Exec Text) (stream : Bool → Command → Exec Text)

/-- A parameter whose texts are changed one by one. -/
def Parameter.mapped (change : Text → Text) : Parameter → Parameter
  | .unset => .unset
  | .text content => .text (change content)
  | .list star texts => .list star (texts.map change)

/-- The cells of a parameter. -/
def parameterCells (full quoted : Bool) (parameter : Parameter) : Exec (List Cell) := do
  let state ← get
  match parameter with
  | .list false [] => return if quoted ∧ full then [] else expandedCells quoted false []
  | .list false _ =>
    let text := (parameter.joined state full quoted).getD []
    return expandedCells quoted (full && quoted) text
  | _ => return expandedCells quoted false ((parameter.joined state full quoted).getD [])

mutual

/-- The cells of a word.  Where fields are wanted, `full` says so; in the word after a parameter,
`inner` makes all that is not quoted a region. -/
def expandPieces : Nat → Bool → Bool → Word → Exec (List Cell)
  | 0, _, _, _ => throw .stopped
  | _ + 1, _, _, [] => return []
  | fuel + 1, full, inner, piece :: rest => do
    let cells : List Cell ← match piece with
      | .text true content => pure (.mark :: Cell.ofText true content)
      | .text false content =>
        let cells := Cell.ofText false content
        pure (if inner ∧ ¬ content.isEmpty then Cell.region false cells else cells)
      | .output quoted command => do
        let text ← capture command
        pure (expandedCells quoted false (dropFinalNewlines (text.filter (· != '\x00'))))
      | .arithmetic quoted expression => do
        let cells ← expandPieces fuel false false expression
        let value ← reckonNumber (Cell.text cells)
        pure (expandedCells quoted false (toString value).toList)
      | .stream reads command => do pure (Cell.ofText true (← stream reads command))
      | .parameter quoted name index operation =>
        expandParameter fuel full quoted name index operation
    return cells ++ (← expandPieces fuel full inner rest)

/-- The text of a word as one. -/
def expandWhole : Nat → Word → Exec Text
  | 0, _ => throw .stopped
  | fuel + 1, word => do
    return Cell.text (← expandPieces fuel false false (expandTilde (← get) word))

/-- The pattern that a word is, where groups may be known and capital letters may be as good as
small ones. -/
def expandPattern : Nat → Bool → Bool → Word → Exec Pattern
  | 0, _, _, _ => throw .stopped
  | fuel + 1, groups, folds, word => do
    let state ← get
    let text := Cell.pattern (← expandPieces fuel false false (expandTilde state word))
    return Pattern.read state.dialect groups (if folds then text.map Char.toLower else text)

/-- The cells of a parameter after an operation. -/
def expandParameter : Nat → Bool → Bool → String → Option Word → Operation → Exec (List Cell)
  | 0, _, _, _, _, _ => throw .stopped
  | fuel + 1, full, quoted, name, index, operation => do
    renew name
    let state ← get
    let index : Option Index ← match index with
      | none => pure none
      | some word =>
        match bareText? word with
        | some "@" => pure (some (.all false))
        | some "*" => pure (some (.all true))
        | _ => pure (some (.one (← expandWhole fuel word)))
    let name ← match operation, index with
      | .indirect, none => do
        match state.parameter name with
        | .text text => pure (toOrdinary text)
        | _ => fail (name ++ ": invalid indirect expansion" : String)
      | _, _ => pure name
    let parameter ← match index with
      | some index => state.member name index
      | none => pure (state.parameter name)
    let joined := parameter.joined state full quoted
    let isUnset (ifEmpty : Bool) : Bool := match joined with
      | none => true
      | some text => ifEmpty && text.isEmpty
    let checked : Exec Unit :=
      if joined.isNone ∧ 'u' ∈ state.options then
        match state.dialect, parameter with
        | .rich, .list _ _ => return
        | .rich, _ =>
          let key : Text := match index with
            | some (.one key) => '[' :: key ++ [']']
            | _ => []
          let sign : Text := if name.toList.all Char.isDigit then ['$'] else []
          failFatal (sign ++ ofString name ++ key ++ ": unbound variable")
        | .plain, _ => failUnset name "parameter not set"
      else return
    let wordCells (word : Word) : Exec (List Cell) := do
      let word := if quoted then word else expandTilde state word
      let cells ← expandPieces fuel full (full && !quoted) word
      return if quoted then .mark :: cells else cells
    match operation with
    | .bad source =>
      match state.dialect with
      | .plain => fail "Bad substitution"
      | .rich => fail ("$\x7b" ++ source ++ "\x7d: bad substitution")
    | .value =>
      checked
      parameterCells full quoted parameter
    | .indirect =>
      match index with
      | none => parameterCells full quoted parameter
      | some (.all star) => parameterCells full quoted (.list star (state.keys name))
      | some (.one _) => parameterCells full quoted parameter
    | .keys =>
      let found := state.store.filterMap fun entry =>
        if name.toList.isPrefixOf entry.1.toList then some (ofString entry.1) else none
      parameterCells full quoted (.list true found)
    | .length =>
      checked
      let length := match state.dialect, parameter with
        | .rich, .list _ texts => texts.length
        | _, _ => (joined.getD []).length
      return expandedCells quoted false (toString length).toList
    | .fallback .use ifEmpty word =>
      if isUnset ifEmpty then wordCells word else parameterCells full quoted parameter
    | .fallback .replace ifEmpty word =>
      if isUnset ifEmpty then return if quoted then [.mark] else [] else wordCells word
    | .fallback .assign ifEmpty word =>
      if isUnset ifEmpty then
        let value ← expandWhole fuel word
        if ¬ isName name.toList then
          match state.dialect with
          | .plain => fail (name ++ ": bad variable name" : String)
          | .rich => fail ("$" ++ name ++ ": cannot assign in this way" : String)
        assignVariable name value
        return expandedCells quoted false value
      else parameterCells full quoted parameter
    | .fallback .complain ifEmpty word =>
      if isUnset ifEmpty then
        let reason ← expandWhole fuel word
        let usual : Text := match state.dialect, ifEmpty with
          | _, false => "parameter not set"
          | .plain, true => "parameter not set or null"
          | .rich, true => "parameter null or not set"
        failUnset name (if word.isEmpty then usual else reason)
      else parameterCells full quoted parameter
    | .cut suffix longest pattern =>
      checked
      let pattern ← expandPattern fuel (state.settings.contains "extglob") false pattern
      match state.dialect, parameter with
      | .rich, _ => parameterCells full quoted (parameter.mapped (pattern.cut suffix longest))
      | .plain, .list star texts =>
        let apart := full && quoted && !star && !texts.isEmpty
        return expandedCells quoted apart (pattern.cut suffix longest (joined.getD []))
      | .plain, _ => return expandedCells quoted false (pattern.cut suffix longest (joined.getD []))
    | .replace which pattern replacement =>
      checked
      let pattern ← expandPattern fuel (state.settings.contains "extglob") false pattern
      let cells ← expandPieces fuel false false (expandTilde state replacement)
      let filling := Filling.ofCells (state.settings.contains "patsub_replacement") cells
      if pattern.isEmpty ∧ (which = .first ∨ which = .every) then
        parameterCells full quoted parameter
      else parameterCells full quoted (parameter.mapped (replaceText which pattern filling))
    | .recase letters all pattern =>
      checked
      let pattern ← expandPattern fuel true false pattern
      parameterCells full quoted (parameter.mapped (recaseText letters all pattern))
    | .slice start length =>
      checked
      if joined.isNone ∧ index.isNone ∧ state.dialect = .rich then
        match parameter with
        | .unset => return expandedCells quoted false []
        | _ => pure ()
      let start ← reckonNumber (← expandWhole fuel start)
      let length ← match length with
        | none => pure none
        | some word => do pure (some (← reckonNumber (← expandWhole fuel word)))
      match parameter with
      | .list star texts =>
        match length with
        | some n =>
          if n < 0 then fail (decimalText n ++ ": substring expression < 0")
        | none => pure ()
        if index.isNone then
          parameterCells full quoted (.list star (sliceOf start length (state.name :: texts)))
        else if state.isTable name then
          parameterCells full quoted (.list star (sliceOf (max 0 (start - 1)) length texts))
        else
          let start := if start < 0 then start + state.nextIndex name else start
          let members := numbered (state.valueAt name)
          let rest := (members.filter fun entry => start ≤ (entry.1 : Int)).map Prod.snd
          let rest := if start < 0 then [] else rest
          parameterCells full quoted (.list star (sliceOf 0 length rest))
      | _ =>
        let text := joined.getD []
        let size : Int := text.length
        let first := if start < 0 then size + start else start
        match length with
        | some n =>
          if 0 ≤ first ∧ first ≤ size ∧ n < 0 ∧ size + n < first then
            fail (decimalText n ++ ": substring expression < 0")
        | none => pure ()
        return expandedCells quoted false
          (if first < 0 ∨ size < first then [] else sliceOf first length text)
    | .transform letter =>
      checked
      match parameter, letter with
      | _, 'a' => return expandedCells quoted false (attributes state name)
      | .unset, _ => return expandedCells quoted false []
      | _, 'A' =>
        let shown := quotedAgain (joined.getD [])
        return expandedCells quoted false (ofString name ++ '=' :: shown)
      | parameter, letter => parameterCells full quoted (parameter.mapped (transformed letter))

end

/-! ### Paths -/

/-- Parts with some text in front of the first one. -/
def consPart (text : Text) : List Text → List Text
  | [] => [text]
  | part :: parts => (text ++ part) :: parts

/-- The parts of a pattern between slashes. -/
def patternParts : Text → List Text
  | [] => [[]]
  | '/' :: rest => [] :: patternParts rest
  | ['\\'] => [['\\']]
  | '\\' :: '/' :: rest => [] :: patternParts rest
  | '\\' :: c :: rest => consPart ['\\', c] (patternParts rest)
  | c :: rest => consPart [c] (patternParts rest)

/-- The names in a directory, with those that stand for itself and for the one above. -/
def namesIn (path : Text) : Exec (List Text) := do
  match ← ask (.list path) with
  | .ok names => return [['.'], ['.', '.']] ++ names
  | .error _ => return []

/-- How paths are found: the shell's language, and which of its settings about them are on. -/
structure Finding where
  dialect : Dialect
  groups : Bool
  /-- Names that begin with a dot need not be asked for. -/
  dots : Bool
  /-- Capital letters are as good as small ones. -/
  folds : Bool
  /-- Two stars stand for any number of directories. -/
  deep : Bool

/-- How a shell finds paths. -/
def Finding.ofState (state : State) : Finding :=
  let chosen (name : String) : Bool := state.settings.contains name
  ⟨state.dialect, chosen "extglob", chosen "dotglob", chosen "nocaseglob", chosen "globstar"⟩

/-- The names in a directory that a part of a pattern stands for. -/
def Finding.names (finding : Finding) (part path : Text) : Exec (List Text) := do
  let names ← namesIn (if path.isEmpty then ['.'] else path)
  let fold (text : Text) : Text := if finding.folds then text.map Char.toLower else text
  let pattern := Pattern.read finding.dialect finding.groups (fold part)
  let dotted := finding.dots || (withoutEscapes (part.take 2)).head? == some '.'
  return names.filter fun name =>
    pattern.fits (fold name) && (name.head? != some '.' || dotted) &&
      !(finding.dialect == .rich && (name == ['.'] || name == ['.', '.']))

/-- The directories at or below a path, itself first. -/
def Finding.below (finding : Finding) : Nat → Text → Exec (List Text)
  | 0, path => return [path]
  | fuel + 1, path => do
    let found ← (← finding.names ['*'] path).mapM fun name => do
      match ← ask (.inspect (path ++ name) false) with
      | .ok info =>
        if info.kind = .directory then finding.below fuel (path ++ name ++ ['/']) else return []
      | .error _ => return []
    return path :: found.flatten

/-- How deep directories are gone through for two stars. -/
def directoryDepth : Nat := 1000

/-- The paths that begin with a path and go on as the parts of a pattern say. -/
def Finding.paths (finding : Finding) : List Text → Text → Exec (List Text)
  | [], _ => return []
  | [part], path => do
    if finding.deep ∧ part = ['*', '*'] then
      let found ← (← finding.below directoryDepth path).mapM fun directory => do
        return (← finding.names ['*'] directory).map fun name => directory ++ name
      return (if path.isEmpty then [] else [path]) ++ found.flatten
    else if ¬ hasWildcard finding.groups part then
      let path := path ++ withoutEscapes part
      match ← ask (.inspect path false) with
      | .ok _ => return [path]
      | .error _ => return []
    else
      return (← finding.names part path).map fun name => path ++ name
  | part :: parts, path => do
    if finding.deep ∧ part = ['*', '*'] then
      let found ← (← finding.below directoryDepth path).mapM fun directory =>
        finding.paths parts directory
      return found.flatten.filter fun path => !path.isEmpty
    else if ¬ hasWildcard finding.groups part then
      finding.paths parts (path ++ withoutEscapes part ++ ['/'])
    else
      let found ← (← finding.names part path).mapM fun name =>
        finding.paths parts (path ++ name ++ ['/'])
      return found.flatten

/-- The texts of a field: the paths it stands for, or itself. -/
def fieldTexts (field : List Cell) : Exec (List Text) := do
  let state ← get
  let pattern := Cell.pattern field
  let finding := Finding.ofState state
  if hasWildcard finding.groups pattern ∧ 'f' ∉ state.options then
    let found ← finding.paths (patternParts pattern) []
    if found.isEmpty then
      if state.settings.contains "failglob" then fail ("no match: " ++ Cell.text field)
      else if state.settings.contains "nullglob" then return []
      else return [Cell.text field]
    else return found.mergeSort fun a b => !decide (String.ofList b < String.ofList a)
  else return [Cell.text field]

/-- How deep words may be nested in one another. -/
def wordDepth : Nat := 1000000

/-- The texts that a word without alternatives stands for. -/
def expandSingle (word : Word) : Exec (List Text) := do
  match word with
  | [.text false content] =>
    if content.head? = some '~' ∨ hasWildcard true content ∨ content.isEmpty then general word
    else return [content]
  | word => general word
where
  /-- The texts that a word stands for, found without a shortcut. -/
  general (word : Word) : Exec (List Text) := do
    let cells ← expandPieces capture stream wordDepth true false (expandTilde (← get) word)
    let texts ← (fields (← get).separators none cells).mapM fieldTexts
    return texts.flatten

/-- The texts that a word stands for. -/
def expandWord (word : Word) : Exec (List Text) := do
  if 'B' ∈ (← get).options then
    return (← (alternatives word).mapM (expandSingle capture stream)).flatten
  else expandSingle capture stream word

/-- The texts that words stand for. -/
def expandWords (words : List Word) : Exec (List Text) := do
  return (← words.mapM (expandWord capture stream)).flatten

/-- The one text that a word stands for. -/
def expandText (word : Word) : Exec Text :=
  expandWhole capture stream wordDepth word

/-- The value that an assignment gives. -/
def expandAssigned (word : Word) : Exec Text := do
  match word with
  | [.text false content] =>
    if '~' ∈ content then general word else return content
  | word => general word
where
  /-- The value of an assignment, found without a shortcut. -/
  general (word : Word) : Exec Text := do
    return Cell.text
      (← expandPieces capture stream wordDepth false false (expandTildes (← get) word))

end

end TaskRunner.Shell
