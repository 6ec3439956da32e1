import TaskRunner.Editor.Script
import TaskRunner.Program.Launch

/-! Running scripts of the stream editor over the lines of files. -/

namespace TaskRunner.Editor

open Tool

/-- How the editor goes about its work.  `suffix` is given if files are changed in place; where it
is not empty, it names the copy that is kept. -/
structure Settings where
  quiet : Bool
  separate : Bool
  suffix : Option Text
  mark : Char
  width : Nat
  eager : Bool
  environment : List Text

/-- Whether a range of lines has not begun, goes on to a line, or goes on to one that is to be
found. -/
inductive Course where
  | idle
  | toLine (n : Nat)
  | open_
deriving DecidableEq, Repr

/-- What is written once the line has been dealt with. -/
inductive Addition where
  | text (text : Text)
  | file (name : Text)
deriving DecidableEq, Repr

/-- A file that is written to.  `owes` says that the line feed of its last line is missing. -/
structure OutFile where
  outlet : Outlet
  descriptor : Nat
  owes : Bool
deriving DecidableEq, Repr

/-- The editor at work.  `ahead` is the next line with the name of its file, as far as it was looked
at; `space` is the line that is worked on, and `held` the one that is kept.  Additions stand with
the last one in front, and so do the parts of a file that is changed in place. -/
structure State where
  settings : Settings
  script : Script
  files : List Text
  source : Option Source
  name : Text
  ahead : Option (Line × Text)
  count : Nat
  space : Line
  held : Line
  replaced : Bool
  additions : List Addition
  courses : Array Course
  used : Option Regex.Matcher
  owes : Bool
  channels : List OutFile
  sources : List (Text × Option Source)
  changed : Option (List Text)
  faulty : Bool

/-- How far the ranges have come before the first line. -/
def Script.courses (script : Script) : Array Course :=
  script.commands.map fun command =>
    match command.selection.first with
    | some (.line 0) => .open_
    | _ => .idle

/-- A step of the editor. -/
abbrev Editing := StateT State Tool

/-- A step that leaves the editor alone. -/
def tool {α : Type} (step : Tool α) : Editing α :=
  fun state => do
    let value ← step
    return (value, state)

/-- Complains at once. -/
def alert (message : Text) : Editing Unit :=
  tool do writeError ((← get).name ++ ": " ++ message ++ "\n")

/-- Ends the program with a complaint. -/
def giveUp {α : Type} (status : Nat) (message : Text) : Editing α := do
  alert message
  tool do
    setStatus status
    finish status

/-! ### Writing -/

/-- Writes to the standard output, or to the file that is changed in place. -/
def emit (text : Text) : Editing Unit := do
  let state ← get
  match state.changed with
  | some parts => set { state with changed := some (text :: parts) }
  | none => tool do
    say text
    if state.settings.eager then flush

/-- Writes the line feed that is missing. -/
def settle : Editing Unit := do
  let state ← get
  if state.owes then
    set { state with owes := false }
    emit [state.settings.mark]

/-- Writes a text that ends its line. -/
def emitText (text : Text) : Editing Unit := do
  settle
  emit text

/-- Writes a line. -/
def emitLine (line : Line) : Editing Unit := do
  settle
  emit (line.whole (← get).settings.mark)
  if ¬ line.ended then modify fun state => { state with owes := true }

/-- Writes a line to an outlet. -/
def emitTo (outlet : Outlet) (line : Line) : Editing Unit := do
  let state ← get
  let mark := state.settings.mark
  match outlet with
  | .output =>
    if state.changed.isNone then emitLine line else tool (say (line.whole mark))
  | .errors => tool (writeError (line.whole mark))
  | .file _ =>
    match state.channels.find? fun channel => channel.outlet == outlet with
    | none => return
    | some channel => do
      let text := (if channel.owes then [mark] else []) ++ line.whole mark
      let _ ← tool (act (Act.writeAll channel.descriptor text))
      let after := { channel with owes := !line.ended }
      set { state with
        channels := state.channels.map fun (other : OutFile) =>
          if other.outlet = outlet then after else other }

/-- The text of a file, as far as it can be read. -/
def textOf (name : Text) : Tool Text := do
  match ← openInput name with
  | .error _ => return []
  | .ok descriptor => do
    let (text, _) ← act (Act.readAll descriptor)
    let _ ← ask (.close descriptor)
    return text

/-- Writes what was to be added after the line. -/
def emitAdditions : Editing Unit := do
  let additions := (← get).additions.reverse
  modify fun state => { state with additions := [] }
  if ¬ additions.isEmpty then settle
  for addition in additions do
    match addition with
    | .text text => emitText text
    | .file name =>
      let text ← tool (textOf name)
      if ¬ text.isEmpty then emitText text

/-! ### Reading -/

/-- A name for a new file beside another one. -/
def besides (path : Text) : Text :=
  let name := (path.reverse.takeWhile (· != '/')).reverse
  path.take (path.length - name.length) ++ "sedXXXXXX".toList

/-- The name of the copy that is kept of a file. -/
def copyName (suffix path : Text) : Text :=
  let name := (path.reverse.takeWhile (· != '/')).reverse
  let directory := path.take (path.length - name.length)
  let copy := if suffix.contains '*' then
      suffix.flatMap fun c => if c = '*' then name else [c]
    else name ++ suffix
  if copy.contains '/' then copy else directory ++ copy

/-- Puts what was written in place of the file that was read. -/
def replaceFile : Editing Unit := do
  let state ← get
  match state.changed, state.settings.suffix with
  | some parts, some suffix => do
    set { state with changed := none, owes := false }
    tool do
      let path := state.name
      let permissions := match ← ask (.inspect path true) with
        | .ok info => info.permissions
        | .error _ => 0o644
      let fresh := besides path
      match ← ask (.openFile fresh .output 0o600) with
      | .error refusal =>
        fail 4 ("couldn't open temporary file " ++ fresh ++ ": " ++ refusal.message)
      | .ok descriptor => do
        let _ ← act (Act.writeAll descriptor parts.reverse.flatten)
        let _ ← ask (.close descriptor)
        let _ ← ask (.setPermissions fresh permissions)
        if ¬ suffix.isEmpty then
          let _ ← ask (.rename path (copyName suffix path))
        let _ ← ask (.rename fresh path)
  | _, _ => return

/-- Opens the next file that can be read.  There may be none. -/
def openNext : Nat → Editing Bool
  | 0 => return false
  | fuel + 1 => do
    let state ← get
    match state.files with
    | [] => return false
    | name :: files => do
      set { state with files }
      if name = standardInput ∧ state.settings.suffix.isNone then
        modify fun state =>
          { state with source := some (Source.ofDescriptor 0), name := standardInput }
        return true
      else
        if state.settings.suffix.isSome then
          if let .ok info ← tool (ask (.inspect name true)) then
            if info.kind ≠ .regular then
              giveUp 4 ("couldn't edit " ++ name ++ ": not a regular file")
        match ← tool (openInput name) with
        | .error refusal => do
          alert ("can't read " ++ name ++ ": " ++ refusal.message)
          modify fun state => { state with faulty := true }
          openNext fuel
        | .ok descriptor => do
          modify fun state =>
            { state with
              source := some (Source.ofDescriptor descriptor)
              name
              changed := if state.settings.suffix.isSome then some [] else none }
          return true

/-- How much is read at once. -/
def State.block (state : State) : Nat :=
  if state.settings.eager then 1 else Source.block

/-- Closes the file that was read to its end. -/
def closeSource (source : Source) : Editing Unit := do
  if source.descriptor ≠ 0 then
    let _ ← tool (ask (.close source.descriptor))
  modify fun state => { state with source := none }

/-- Looks at the next line, in the files after the present one too if `across` says so.  The first
argument bounds how many there are. -/
def lookAhead (across : Bool) : Nat → Editing Unit
  | 0 => return
  | fuel + 1 => do
    let state ← get
    if state.ahead.isSome then return
    match state.source with
    | some source => do
      let (found, source) ← tool (act (source.line state.settings.mark state.block))
      match found with
      | .ok (some line) =>
        set { state with ahead := some (line, state.name), source := some source }
      | .ok none => do
        closeSource source
        lookAhead across fuel
      | .error refusal =>
        giveUp 4 ("read error on " ++ state.name ++ ": " ++ refusal.message)
    | none =>
      if across then
        if ← openNext (state.files.length + 1) then lookAhead across fuel

/-- A bound for looking ahead. -/
def State.turns (state : State) : Nat := 2 * state.files.length + 4

/-- No line follows, of the file or at all. -/
def isLast : Editing Bool := do
  let state ← get
  lookAhead (!state.settings.separate) state.turns
  return (← get).ahead.isNone

/-- Gets ready for the next one of separate files. -/
def startFile : Editing Unit := do
  replaceFile
  modify fun state =>
    { state with
      count := 0
      held := ⟨[], true⟩
      courses := state.script.courses }

/-- Reads the next line, to work on it or to add it to the one that is worked on.  There may be
none. -/
def readSpace (adds : Bool) : Editing Bool := do
  emitAdditions
  let state ← get
  lookAhead (!state.settings.separate) state.turns
  if (← get).settings.separate ∧ (← get).ahead.isNone then
    if state.count ≠ 0 ∨ state.changed.isSome then startFile
    lookAhead true state.turns
  let state ← get
  match state.ahead with
  | none => return false
  | some (line, name) =>
    let text := if adds then state.space.text ++ state.settings.mark :: line.text else line.text
    set { state with
      ahead := none
      name
      count := state.count + 1
      space := ⟨text, line.ended⟩
      replaced := false }
    return true

/-! ### Choosing lines -/

/-- The first place in the line, from a position on, where an expression fits. -/
def matcherOf (expression : Expression) : Editing Regex.Matcher := do
  let state ← get
  match expression, state.used with
  | .given matcher, _ => do
    set { state with used := some matcher }
    return matcher
  | .last, some matcher => return matcher
  | .last, none => giveUp 1 "-e expression #1, char 0: no previous regular expression"

/-- The line that is worked on is the one that is meant. -/
def meets (address : Address) : Editing Bool := do
  let state ← get
  match address with
  | .line n => return state.count == n
  | .step first step => return first ≤ state.count && (state.count - first) % step == 0
  | .final => isLast
  | .fits expression => do
    let matcher ← matcherOf expression
    return matcher.fits state.space.text.toArray

/-- Sets how far a range has come. -/
def setCourse (index : Nat) (course : Course) : Editing Unit :=
  modify fun state => { state with courses := state.courses.set! index course }

/-- A range begins with the line that is worked on. -/
def beginRange (index : Nat) (last : RangeEnd) : Editing Bool := do
  let count := (← get).count
  let goOn (n : Nat) : Editing Unit := do
    if count < n then setCourse index (.toLine n)
  match last with
  | .at_ (.line n) => goOn n
  | .further n => goOn (count + n)
  | .multiple n => goOn (if n = 0 then 0 else (count / n + 1) * n)
  | _ => setCourse index .open_
  return true

/-- The line that is worked on belongs to a selection. -/
def belongs (index : Nat) (selection : Selection) : Editing Bool := do
  match selection.first, selection.last with
  | none, _ => return true
  | some first, none => meets first
  | some first, some last => do
    let state ← get
    match state.courses.getD index .idle, last with
    | .idle, last =>
      let begins ← match first with
        | .line 0 => pure false
        | first => meets first
      if begins then beginRange index last else return false
    | .toLine n, _ => do
      if n ≤ state.count then setCourse index .idle
      if state.count ≤ n then return true
      else if ← meets first then beginRange index last
      else return false
    | .open_, .at_ address => do
      if ← meets address then setCourse index .idle
      return true
    | .open_, _ => return true

/-! ### Replacing -/

/-- How the case of letters is changed: for the next letter, and for those after it. -/
structure Casing where
  once : CaseChange
  onward : CaseChange
deriving DecidableEq, Repr

/-- A text with the case of its letters changed, and what holds after it. -/
def Casing.apply (casing : Casing) (text : Text) : Text × Casing :=
  let change (change : CaseChange) (c : Char) : Char :=
    match change with
    | .upper => c.toUpper
    | .upperNext => c.toUpper
    | .lower => c.toLower
    | .lowerNext => c.toLower
    | .none => c
  match text with
  | [] => ([], casing)
  | c :: cs =>
    let first := if casing.once = .none then casing.onward else casing.once
    (change first c :: cs.map (change casing.onward), { casing with once := .none })

/-- What takes the place of something found. -/
def replacement (pieces : List Piece) (subject : Array Char) (hit : Regex.Hit) : Text :=
  let step (found : List Text × Casing) (piece : Piece) : List Text × Casing :=
    let (parts, casing) := found
    let add (text : Text) : List Text × Casing :=
      let (text, casing) := casing.apply text
      (text :: parts, casing)
    match piece with
    | .text text => add text
    | .group n => add (hit.text subject n)
    | .letters .upperNext => (parts, { casing with once := .upperNext })
    | .letters .lowerNext => (parts, { casing with once := .lowerNext })
    | .letters change => (parts, ⟨.none, change⟩)
  (pieces.foldl step ([], ⟨.none, .none⟩)).1.reverse.flatten

/-- The places that are to be replaced. -/
def hitsOf (substitution : Substitution) (matcher : Regex.Matcher) (subject : Array Char) :
    List Regex.Hit :=
  if substitution.everywhere then
    (matcher.findAll subject (2 * subject.size + 2) 0 none).drop (substitution.occurrence - 1)
  else
    ((matcher.findAll subject (2 * substitution.occurrence + 1) 0 none).drop
      (substitution.occurrence - 1)).take 1

/-- A text with something in place of what was found. -/
def replaced (pieces : List Piece) (subject : Array Char) (hits : List Regex.Hit) : Text :=
  let step (found : List Text × Nat) (hit : Regex.Hit) : List Text × Nat :=
    (replacement pieces subject hit :: (subject.extract found.2 hit.start).toList :: found.1,
      hit.stop)
  let (parts, place) := hits.foldl step ([], 0)
  ((subject.extract place subject.size).toList :: parts).reverse.flatten

/-- What a command writes to its standard output. -/
def outputOf (environment : List Text) (command : Text) : Tool Text := do
  match ← ask .pipe with
  | .error _ => return []
  | .ok (input, output) => do
    let ready : Tool Unit := do
      let _ ← ask (.copy output 1)
      let _ ← ask (.close input)
      let _ ← ask (.close output)
    let child ← Program.launch environment ready (fun name refusal => name ++ refusal.message)
      "sh".toList ["-c".toList, command]
    let _ ← ask (.close output)
    let (text, _) ← act (Act.readAll input)
    let _ ← ask (.close input)
    let _ ← Program.awaitEnd child
    return text

/-- A text without the line feed at its end. -/
def withoutFeed (mark : Char) (text : Text) : Text :=
  if text.getLast? = some mark then text.dropLast else text

/-- Runs the text that is worked on as a command, whose output takes its place. -/
def runSpace : Editing Unit := do
  let state ← get
  let text ← tool (outputOf state.settings.environment state.space.text)
  modify fun state =>
    { state with space := { state.space with text := withoutFeed state.settings.mark text } }

/-- Makes a replacement. -/
def substitute (substitution : Substitution) : Editing Unit := do
  let matcher ← matcherOf substitution.expression
  let state ← get
  let subject := state.space.text.toArray
  match hitsOf substitution matcher subject with
  | [] => return
  | hits => do
    let text := Editor.replaced substitution.pieces subject hits
    set { state with space := { state.space with text }, replaced := true }
    if substitution.runs then runSpace
    if substitution.prints then emitLine (← get).space
    match substitution.outlet with
    | some outlet => emitTo outlet (← get).space
    | none => return

/-! ### Listing -/

/-- A character as it is listed. -/
def listed (c : Char) : Text :=
  match c with
  | '\\' => ['\\', '\\']
  | '\n' => ['\\', 'n']
  | '\t' => ['\\', 't']
  | '\r' => ['\\', 'r']
  | '\x07' => ['\\', 'a']
  | '\x08' => ['\\', 'b']
  | '\x0b' => ['\\', 'v']
  | '\x0c' => ['\\', 'f']
  | c =>
    if ' ' ≤ c ∧ c ≤ '~' then [c]
    else '\\' :: octalByte c

/-- A text as it is listed, on lines that are no longer than `width`.  Zero stands for any length.
-/
def listing (width : Nat) (text : Text) : Text :=
  let step (found : List Text × Nat) (c : Char) : List Text × Nat :=
    let shown := listed c
    if 0 < width ∧ width - 1 < found.2 + shown.length then
      (shown :: ['\\', '\n'] :: found.1, shown.length)
    else (shown :: found.1, found.2 + shown.length)
  (['$', '\n'] :: (text.foldl step ([], 0)).1).reverse.flatten

/-! ### Commands -/

/-- What comes after a command: another one, the next line, the same line from the beginning, or the
end of the work. -/
inductive Onward where
  | goTo (index : Nat)
  | endOfScript
  | nextLine
  | quit (status : Nat)
deriving DecidableEq, Repr

/-- Adds something to be written once the line has been dealt with. -/
def add (addition : Addition) : Editing Unit :=
  modify fun state => { state with additions := addition :: state.additions }

/-- Adds the next line of a file to what is to be written. -/
def addLineOf (name : Text) : Editing Unit := do
  let source ← match (← get).sources.lookup name with
    | some source => pure source
    | none => do
      match ← tool (openInput name) with
      | .ok descriptor => pure (some (Source.ofDescriptor descriptor))
      | .error _ => pure none
  match source with
  | none => modify fun state => { state with sources := (name, none) :: state.sources }
  | some source => do
    let mark := (← get).settings.mark
    let (found, source) ← tool (act (source.line mark Source.block))
    modify fun state =>
      { state with
        sources := (name, some source) :: state.sources.filter fun entry => entry.1 != name }
    if let .ok (some line) := found then add (.text (line.whole mark))

/-- Changes the text that is worked on. -/
def modifySpace (change : Text → Text) : Editing Unit :=
  modify fun state => { state with space := { state.space with text := change state.space.text } }

/-- The first line of what is worked on. -/
def State.firstLine (state : State) : Line :=
  let line := state.space.text.takeWhile (· != state.settings.mark)
  ⟨line, line.length < state.space.text.length || state.space.ended⟩

/-- Writes the line that is worked on, unless only what is asked for is to be written. -/
def emitSpace : Editing Unit := do
  let state ← get
  if ¬ state.settings.quiet then emitLine state.space

/-- Does what a command says. -/
def perform (index : Nat) (command : Command) : Editing Onward := do
  let state ← get
  let mark := state.settings.mark
  let onward : Onward := .goTo (index + 1)
  match command.action with
  | .nothing => return onward
  | .block _ => return onward
  | .lineNumber => do
    emitText (toString state.count ++ "\n" : String)
    return onward
  | .append text => do
    if ¬ text.isEmpty then add (.text text)
    return onward
  | .insert text => do
    if ¬ text.isEmpty then emitText text
    return onward
  | .change text => do
    let goesOn := state.courses.getD index .idle != .idle && !command.selection.negated
    if ¬ goesOn ∧ ¬ text.isEmpty then emitText text
    return .nextLine
  | .jump rule label => do
    let jumps := match rule with
      | .always => true
      | .replaced => state.replaced
      | .unreplaced => !state.replaced
    if rule ≠ .always then set { state with replaced := false }
    return if jumps then .goTo ((state.script.target? label).getD 0) else onward
  | .delete => return .nextLine
  | .deleteFirst =>
    let line := state.space.text.takeWhile (· != mark)
    if line.length = state.space.text.length then return .nextLine
    else
      emitAdditions
      modifySpace (·.drop (line.length + 1))
      return .goTo 0
  | .run command => do
    if command.isEmpty then
      runSpace
      modify fun state => { state with space := { state.space with ended := true } }
    else
      let text ← tool (outputOf state.settings.environment command)
      if ¬ text.isEmpty then emitText text
    return onward
  | .fileName => do
    emitText (state.name ++ ['\n'])
    return onward
  | .recall => do
    set { state with space := state.held }
    return onward
  | .recallMore => do
    set { state with
      space := ⟨state.space.text ++ mark :: state.held.text, state.held.ended⟩ }
    return onward
  | .keep => do
    set { state with held := state.space }
    return onward
  | .keepMore => do
    set { state with
      held := ⟨state.held.text ++ mark :: state.space.text, state.space.ended⟩ }
    return onward
  | .exchange => do
    set { state with space := state.held, held := state.space }
    return onward
  | .list width => do
    emitText (listing (width.getD state.settings.width) state.space.text)
    return onward
  | .next => do
    if ← isLast then return .endOfScript
    emitSpace
    if ← readSpace false then return onward else return .nextLine
  | .nextMore => do
    if ← isLast then return .endOfScript
    if ← readSpace true then return onward else return .endOfScript
  | .print => do
    emitLine state.space
    return onward
  | .printFirst => do
    emitLine state.firstLine
    return onward
  | .quit status => do
    emitSpace
    emitAdditions
    return .quit status
  | .quitSilently status => return .quit status
  | .readFile name => do
    add (.file name)
    return onward
  | .readLine name => do
    addLineOf name
    return onward
  | .substitute substitution => do
    substitute substitution
    return onward
  | .write outlet => do
    emitTo outlet state.space
    return onward
  | .writeFirst outlet => do
    emitTo outlet state.firstLine
    return onward
  | .translate pairs => do
    modifySpace fun text => text.map fun c => (pairs.lookup c).getD c
    return onward
  | .clear => do
    modifySpace fun _ => []
    return onward

/-- Does the command at a place, if it applies. -/
def stepAt (index : Nat) : Editing Onward := do
  match (← get).script.commands[index]? with
  | none => return .endOfScript
  | some command => do
    let chosen ← belongs index command.selection
    if chosen != command.selection.negated then perform index command
    else
      match command.action with
      | .block past => return .goTo past
      | _ => return .goTo (index + 1)

/-- Does the next thing: the command at a place, or reading a line where there is none.  The status
is yielded at the end. -/
def turn (place : Option Nat) : Editing (Option Nat ⊕ Nat) := do
  match place with
  | none => if ← readSpace false then return .inl (some 0) else return .inr 0
  | some index =>
    match ← stepAt index with
    | .goTo index => return .inl (some index)
    | .nextLine => return .inl none
    | .endOfScript => do
      emitSpace
      return .inl none
    | .quit status => return .inr status

/-- Does the whole work, and yields the status. -/
def work (state : State) : Tool (Nat × State) :=
  loop (fun found : Option Nat × State => do
    match ← (turn found.1).run found.2 with
    | (.inl place, state) => return .inl (place, state)
    | (.inr status, state) => return .inr (status, state))
    (fun found => pure (0, found.2)) (none, state)

/-- Ends the work: the file that was being changed is put in place, and what was read of the
standard input and not used is given back. -/
def close (status : Nat) : Editing Nat := do
  replaceFile
  let state ← get
  if let some source := state.source then
    if source.descriptor = 0 then
      let unused := match state.ahead with
        | some (line, _) => line.whole state.settings.mark ++ source.ahead
        | none => source.ahead
      tool (act ({ source with ahead := unused }).giveBack)
  return if state.faulty then 2 else status

end TaskRunner.Editor
