import TaskRunner.Editor.Script

/-! Reading scripts of the stream editor. -/

namespace TaskRunner.Editor

/-- What scripts are written in: whether expressions are in the extended style, and whether commands
that reach outside are let through. -/
structure Manner where
  extended : Bool
  confined : Bool

/-- A part of a script: what stands in an argument, or what a file holds. -/
inductive Part where
  | argument (text : Text)
  | file (name text : Text)
deriving DecidableEq, Repr

/-- A block that has been opened: the number of its command, and the place for a complaint. -/
structure Opening where
  index : Nat
  place : Text

/-- What has been read.  `unfinished` holds the text that goes on in the next part, with the last
character in front. -/
structure Draft where
  commands : Array Command
  openings : List Opening
  labels : List (Text × Nat)
  outlets : List Outlet
  unfinished : Option Text
  quiet : Bool

/-- A script that is being read: what is left of a part, how many characters of it were read, the
line, the name of the file or the number of the argument, and what was read before. -/
structure Reader where
  rest : Text
  position : Nat
  line : Nat
  name : Option Text
  number : Nat
  draft : Draft

/-- What reads something off a script, or complains about it. -/
abbrev Reading := StateT Reader (Except Text)

namespace Reader

/-- The place, for a complaint. -/
def place (reader : Reader) : Text :=
  match reader.name with
  | some name => "file " ++ name ++ " line " ++ toString reader.line ++ ": "
  | none =>
    "-e expression #" ++ toString reader.number ++ ", char " ++ toString reader.position ++ ": "

end Reader

/-- The complaint that shows here. -/
def reject {α : Type} (message : Text) : Reading α := do
  throw ((← get).place ++ message)

/-- The next character. -/
def peek : Reading (Option Char) := do
  return (← get).rest.head?

/-- Reads the next character, if there is one. -/
def next : Reading (Option Char) := do
  let reader ← get
  match reader.rest with
  | [] => return none
  | c :: rest =>
    let line := if c = '\n' then reader.line + 1 else reader.line
    set { reader with rest, line, position := reader.position + 1 }
    return some c

/-- Reads as long as the characters are of a kind. -/
def takeWhile (holds : Char → Bool) : Reading Text := do
  let reader ← get
  let taken := reader.rest.takeWhile holds
  let feeds := (taken.filter (· == '\n')).length
  set { reader with
    rest := reader.rest.drop taken.length
    line := reader.line + feeds
    position := reader.position + taken.length }
  return taken

/-- A space or a tab. -/
def isBlank (c : Char) : Bool := c == ' ' || c == '\t'

/-- A character between commands. -/
def isGap (c : Char) : Bool :=
  isBlank c || c == '\n' || c == '\r' || c == '\x0b' || c == '\x0c'

/-- Passes blanks over. -/
def skipBlanks : Reading Unit := do
  let _ ← takeWhile isBlank

/-- Reads a number, which is zero if there are no digits. -/
def number : Reading Nat := do
  let digits ← takeWhile Char.isDigit
  return digits.foldl (fun n c => n * 10 + (c.toNat - 48)) 0

/-- Changes what has been read. -/
def modifyDraft (change : Draft → Draft) : Reading Unit :=
  modify fun reader => { reader with draft := change reader.draft }

/-! ### Escapes -/

/-- The value of a digit. -/
def digitValue (c : Char) : Nat :=
  if c.isDigit then c.toNat - 48 else c.toLower.toNat - 87

/-- The character that digits stand for, and the text after them.  Without digits it is a letter. -/
def numbered (base most : Nat) (letter : Char) (text : Text) : Char × Text :=
  let isDigit (c : Char) : Bool :=
    (c.isDigit || ('a' ≤ c.toLower && c.toLower ≤ 'f')) && digitValue c < base
  let digits := (text.take most).takeWhile isDigit
  if digits.isEmpty then (letter, text)
  else
    (Char.ofNat (digits.foldl (fun n c => n * base + digitValue c) 0 % 256),
      text.drop digits.length)

/-- The character that stands behind a backslash for another one, and the text after it. -/
def escape? (text : Text) : Option (Char × Text) :=
  match text with
  | 'a' :: rest => some ('\x07', rest)
  | 'f' :: rest => some ('\x0c', rest)
  | 'n' :: rest => some ('\n', rest)
  | 'r' :: rest => some ('\r', rest)
  | 't' :: rest => some ('\t', rest)
  | 'v' :: rest => some ('\x0b', rest)
  | 'd' :: rest => some (numbered 10 3 'd' rest)
  | 'o' :: rest => some (numbered 8 3 'o' rest)
  | 'x' :: rest => some (numbered 16 2 'x' rest)
  | ['c'] => some ('\\', [])
  | 'c' :: c :: rest => some (Char.ofNat (c.toUpper.toNat ^^^ 64), rest)
  | _ => none

/-- The text of an expression with the characters in place of their escapes.  The first argument
bounds how many there are. -/
def plainExpression : Nat → Text → Text
  | 0, text => text
  | _ + 1, [] => []
  | fuel + 1, '\\' :: rest =>
    match rest.head? with
    | some 'n' => '\\' :: 'n' :: plainExpression fuel (rest.drop 1)
    | some c =>
      match escape? rest with
      | some (found, rest) => found :: plainExpression fuel rest
      | none => '\\' :: c :: plainExpression fuel (rest.drop 1)
    | none => ['\\']
  | fuel + 1, c :: rest => c :: plainExpression fuel rest

/-! ### Texts between marks -/

/-- Where a text between marks has come to: outside of brackets; at the beginning of one; inside; or
inside of a named part that ends with a mark and a bracket. -/
inductive Within where
  | none_
  | first
  | bracket
  | part (mark : Char)
deriving DecidableEq, Repr

/-- Where a text has come to after a character inside of a bracket. -/
def Within.after (within : Within) (before : Option Char) (c : Char) : Within :=
  match within with
  | .none_ => .none_
  | .first => if c = '^' ∧ before = some '[' then .first else .bracket
  | .bracket =>
    if c = ']' then .none_
    else if before = some '[' ∧ (c = ':' ∨ c = '.' ∨ c = '=') then .part c
    else .bracket
  | .part mark => if c = ']' ∧ before = some mark then .bracket else within

/-- Reads a text up to a mark.  In an expression the mark does not count inside of brackets.  What
has been read stands with the last character in front. -/
def untilMark (mark : Char) (expression : Bool) : Nat → Within → Text → Reading (Option Text)
  | 0, _, _ => return none
  | fuel + 1, within, taken => do
    match ← peek with
    | none => return none
    | some '\n' => return none
    | some c => do
      let _ ← next
      if within ≠ .none_ then
        if c = '\\' ∧ (← peek) = some 'n' then do
          let _ ← next
          untilMark mark expression fuel .bracket ('\n' :: taken)
        else untilMark mark expression fuel (within.after taken.head? c) (c :: taken)
      else if c = mark then return some taken.reverse
      else if c = '\\' then
        match ← next with
        | none => return none
        | some d =>
          if d = 'n' ∧ expression then untilMark mark expression fuel within ('\n' :: taken)
          else if d = '\n' then untilMark mark expression fuel within ('\n' :: taken)
          else if d = mark ∧ (expression ∨ d ≠ '&') then
            untilMark mark expression fuel within (d :: taken)
          else untilMark mark expression fuel within (d :: '\\' :: taken)
      else
        let within := if expression ∧ c = '[' then .first else within
        untilMark mark expression fuel within (c :: taken)

/-- Reads a text up to a mark. -/
def delimited (mark : Char) (expression : Bool) : Reading (Option Text) := do
  untilMark mark expression ((← get).rest.length + 1) .none_ []

/-- The expression that a text stands for. -/
def expressionOf (manner : Manner) (text : Text) (folds manyLines : Bool) : Reading Expression := do
  if text.isEmpty then
    if folds ∨ manyLines then reject "cannot specify modifiers on empty regexp"
    return .last
  match Regex.ofText ⟨manner.extended, true⟩ (plainExpression (text.length + 1) text) with
  | .ok regex => return .given (regex.matcher folds manyLines)
  | .error .openBracket => reject Regex.Fault.incomplete.message
  | .error fault => reject fault.message

/-! ### Addresses -/

/-- Reads the letters after an expression that bounds lines. -/
def addressFlags : Nat → Bool → Bool → Reading (Bool × Bool)
  | 0, folds, manyLines => return (folds, manyLines)
  | fuel + 1, folds, manyLines => do
    skipBlanks
    match ← peek with
    | some 'I' => do
      let _ ← next
      addressFlags fuel true manyLines
    | some 'M' => do
      let _ ← next
      addressFlags fuel folds true
    | _ => return (folds, manyLines)

/-- Reads an expression that bounds lines, from its mark on. -/
def expressionAddress (manner : Manner) : Reading Address := do
  let mark ← do
    match ← next with
    | some '\\' => next
    | c => pure c
  match mark with
  | none => reject "unterminated address regex"
  | some mark =>
    match ← delimited mark true with
    | none => reject "unterminated address regex"
    | some text => do
      let (folds, manyLines) ← addressFlags ((← get).rest.length + 1) false false
      return .fits (← expressionOf manner text folds manyLines)

/-- Reads a bound of lines, if there is one. -/
def bound (manner : Manner) : Reading (Option RangeEnd) := do
  match ← peek with
  | some '/' => return some (.at_ (← expressionAddress manner))
  | some '\\' => return some (.at_ (← expressionAddress manner))
  | some '$' => do
    let _ ← next
    return some (.at_ .final)
  | some '+' => do
    let _ ← next
    skipBlanks
    return some (.further (← number))
  | some '~' => do
    let _ ← next
    skipBlanks
    return some (.multiple (← number))
  | some c => do
    if ¬ c.isDigit then return none
    let first ← number
    skipBlanks
    if (← peek) = some '~' then
      let _ ← next
      skipBlanks
      let step ← number
      return some (.at_ (if step = 0 then .line first else .step first step))
    else return some (.at_ (.line first))
  | none => return none

/-- The line numbered zero may only begin a range that an expression ends. -/
def isSound (first : Address) (last : Option RangeEnd) : Bool :=
  match first, last with
  | .line 0, some (.at_ (.fits _)) => true
  | .line 0, _ => false
  | _, _ => true

/-- Reads which lines a command applies to. -/
def selection (manner : Manner) : Reading Selection := do
  let (first, last) : Option Address × Option RangeEnd ← match ← bound manner with
    | none => pure (none, none)
    | some (.at_ address) => do
      skipBlanks
      if (← peek) = some ',' then
        let _ ← next
        skipBlanks
        match ← bound manner with
        | some last => pure (some address, some last)
        | none => do
          let _ ← next
          reject "unexpected \x60,'"
      else pure (some address, none)
    | some _ => reject "invalid usage of +N or ~N as first address"
  skipBlanks
  if let some address := first then
    if ¬ isSound address last then
      let _ ← next
      reject "invalid usage of line address 0"
  if (← peek) = some '!' then
    let _ ← next
    skipBlanks
    if (← peek) = some '!' then
      let _ ← next
      reject "multiple \x60!'s"
    return ⟨first, last, true⟩
  return ⟨first, last, false⟩

/-! ### Parts of commands -/

/-- Reads the end of a command. -/
def endOfCommand : Reading Unit := do
  skipBlanks
  match ← peek with
  | none => return
  | some '\x7d' => return
  | some '#' => return
  | some c => do
    let _ ← next
    if c ≠ '\n' ∧ c ≠ ';' then reject "extra characters after command"

/-- Reads a label. -/
def label : Reading Text := do
  skipBlanks
  takeWhile fun c => !isGap c && c != ';' && c != '\x7d' && c != '#'

/-- Reads the name of a file, up to the end of the line. -/
def readName : Reading Text := do
  skipBlanks
  let name ← takeWhile (· != '\n')
  let _ ← next
  if name.isEmpty then reject "missing filename in r/R/w/W commands"
  return name

/-- Reads where to write to. -/
def readOutlet : Reading Outlet := do
  let name ← readName
  let outlet : Outlet :=
    if name = "/dev/stdout".toList then .output
    else if name = "/dev/stderr".toList then .errors
    else .file name
  modifyDraft fun draft =>
    if draft.outlets.contains outlet then draft
    else { draft with outlets := draft.outlets ++ [outlet] }
  return outlet

/-- Reads a text up to the end of its last line, where a backslash lets it go on.  What has been
read stands with the last character in front.  Where the part ends before the text does, it goes on
in the next one. -/
def textLines : Nat → Text → Reading Text
  | 0, taken => return taken
  | fuel + 1, taken => do
    match ← next with
    | none => return '\n' :: taken
    | some '\n' => return '\n' :: taken
    | some '\\' => do
      let rest := (← get).rest
      match escape? rest, rest with
      | _, [] => do
        modifyDraft fun draft => { draft with unfinished := some ('\n' :: taken) }
        return '\n' :: taken
      | some (c, after), _ => do
        modify fun reader =>
          { reader with rest := after, position := reader.position + rest.length - after.length }
        textLines fuel (c :: taken)
      | none, c :: _ => do
        let _ ← next
        textLines fuel (c :: taken)
    | some c => textLines fuel (c :: taken)

/-- Reads the text of a command, which may begin on the same line or, after a backslash, on the next
one. -/
def commandText : Reading Text := do
  skipBlanks
  let fuel := (← get).rest.length + 1
  match ← peek with
  | none => reject "expected \\ after \x60a', \x60c' or \x60i'"
  | some '\\' => do
    let _ ← next
    let rest := (← get).rest
    match rest.dropWhile isBlank with
    | [] =>
      if rest.isEmpty then
        modifyDraft fun draft => { draft with unfinished := some [] }
        return []
      else return (← textLines fuel []).reverse
    | '\n' :: _ => do
      skipBlanks
      let _ ← next
      return (← textLines fuel []).reverse
    | _ =>
      if rest.head? = some '\\' then return (← textLines fuel []).reverse
      else do
        let first ← next
        return (← textLines fuel first.toList).reverse
  | some _ => return (← textLines fuel []).reverse

/-- The pieces of what takes the place of something found. -/
def piecesOf : Nat → Text → Text → List Piece
  | 0, _, _ => []
  | fuel + 1, taken, text =>
    let before : List Piece := if taken.isEmpty then [] else [.text taken.reverse]
    match text with
    | [] => before
    | '&' :: rest => before ++ .group 0 :: piecesOf fuel [] rest
    | '\\' :: rest =>
      match escape? rest, rest with
      | some (c, rest), _ => piecesOf fuel (c :: taken) rest
      | none, [] => before
      | none, c :: rest =>
        let change (change : CaseChange) : List Piece :=
          before ++ .letters change :: piecesOf fuel [] rest
        match c with
        | 'U' => change .upper
        | 'L' => change .lower
        | 'u' => change .upperNext
        | 'l' => change .lowerNext
        | 'E' => change .none
        | c =>
          if c.isDigit then before ++ .group (c.toNat - 48) :: piecesOf fuel [] rest
          else piecesOf fuel (c :: taken) rest
    | c :: rest => piecesOf fuel (c :: taken) rest

/-- The flags of a replacement. -/
structure Flags where
  folds : Bool
  manyLines : Bool
  runs : Bool
  prints : Bool
  everywhere : Bool
  occurrence : Option Nat
  outlet : Option Outlet

/-- Reads the flags of a replacement, with a bound on how many there are. -/
def flags (manner : Manner) : Nat → Flags → Reading Flags
  | 0, found => return found
  | fuel + 1, found => do
    match ← peek with
    | none => return found
    | some '\x7d' => return found
    | some '#' => return found
    | some c => do
      if c.isDigit then
        if found.occurrence.isSome then
          let _ ← next
          reject "multiple number options to \x60s' command"
        let occurrence ← number
        if occurrence = 0 then reject "number option to \x60s' command may not be zero"
        flags manner fuel { found with occurrence := some occurrence }
      else
        let _ ← next
        match c with
        | '\n' => return found
        | ';' => return found
        | 'i' => flags manner fuel { found with folds := true }
        | 'I' => flags manner fuel { found with folds := true }
        | 'm' => flags manner fuel { found with manyLines := true }
        | 'M' => flags manner fuel { found with manyLines := true }
        | 'e' => flags manner fuel { found with runs := true }
        | 'p' =>
          if found.prints then reject "multiple \x60p' options to \x60s' command"
          else flags manner fuel { found with prints := true }
        | 'g' =>
          if found.everywhere then reject "multiple \x60g' options to \x60s' command"
          else flags manner fuel { found with everywhere := true }
        | 'w' => return { found with outlet := some (← readOutlet) }
        | c =>
          if isBlank c then flags manner fuel found
          else if c = '\r' ∧ (← peek) = some '\n' then
            let _ ← next
            return found
          else reject "unknown option to \x60s'"

/-- The greatest number of a group in some pieces. -/
def greatestGroup (pieces : List Piece) : Nat :=
  pieces.foldl (fun n piece =>
    match piece with
    | .group m => max n m
    | _ => n) 0

/-- What is said where a command that reaches outside is not let through. -/
def confinement : String := "e/r/w commands disabled in sandbox mode"

/-- Reads a replacement. -/
def substitution (manner : Manner) : Reading Substitution := do
  let unterminated := "unterminated \x60s' command"
  match ← next with
  | none => reject unterminated
  | some mark =>
    match ← delimited mark true with
    | none => reject unterminated
    | some sought =>
      match ← delimited mark false with
      | none => reject unterminated
      | some text => do
        let pieces := piecesOf (text.length + 1) [] text
        let found ← flags manner ((← get).rest.length + 1)
          ⟨false, false, false, false, false, none, none⟩
        let expression ← expressionOf manner sought found.folds found.manyLines
        if let .given matcher := expression then
          if matcher.groups < greatestGroup pieces then
            reject ("invalid reference \\" ++ toString (greatestGroup pieces) ++
              " on \x60s' command's RHS")
        if manner.confined ∧ (found.runs ∨ found.outlet.isSome) then reject confinement
        return ⟨expression, pieces, found.occurrence.getD 1, found.everywhere, found.runs,
          found.prints, found.outlet⟩

/-- The characters of one half of a translation. -/
def translated : Nat → Text → Text
  | 0, _ => []
  | _ + 1, [] => []
  | fuel + 1, '\\' :: rest =>
    match escape? rest, rest with
    | some (c, rest), _ => c :: translated fuel rest
    | none, c :: rest => c :: translated fuel rest
    | none, [] => ['\\']
  | fuel + 1, c :: rest => c :: translated fuel rest

/-- Reads a translation. -/
def translation : Reading (List (Char × Char)) := do
  let unterminated := "unterminated \x60y' command"
  match ← next with
  | none => reject unterminated
  | some mark =>
    match ← delimited mark false with
    | none => reject unterminated
    | some sought =>
      match ← delimited mark false with
      | none => reject unterminated
      | some text => do
        let sought := translated (sought.length + 1) sought
        let text := translated (text.length + 1) text
        if sought.length ≠ text.length then
          reject "strings for \x60y' command are different lengths"
        endOfCommand
        return sought.zip text

/-! ### Commands -/

/-- Reads a number that may follow a command. -/
def trailingNumber : Reading (Option Nat) := do
  skipBlanks
  match ← peek with
  | some c =>
    if c.isDigit then
      let n ← number
      endOfCommand
      return some n
    else do
      endOfCommand
      return none
  | none => return none

/-- The commands that consist of a letter. -/
def letterAction? : Char → Option Action
  | '=' => some .lineNumber
  | 'd' => some .delete
  | 'D' => some .deleteFirst
  | 'F' => some .fileName
  | 'g' => some .recall
  | 'G' => some .recallMore
  | 'h' => some .keep
  | 'H' => some .keepMore
  | 'x' => some .exchange
  | 'n' => some .next
  | 'N' => some .nextMore
  | 'p' => some .print
  | 'P' => some .printFirst
  | 'z' => some .clear
  | _ => none

/-- Adds a command. -/
def addCommand (selection : Selection) (action : Action) : Reading Unit :=
  modifyDraft fun draft => { draft with commands := draft.commands.push ⟨selection, action⟩ }

/-- Reads the end of a block. -/
def closeBlock (selection : Selection) : Reading Unit := do
  match (← get).draft.openings with
  | [] => reject "unexpected \x60\x7d'"
  | opening :: openings => do
    if selection.first.isSome then reject "\x60\x7d' doesn't want any addresses"
    endOfCommand
    modifyDraft fun draft =>
      { draft with
        openings
        commands := draft.commands.modify opening.index fun command =>
          { command with action := .block draft.commands.size } }

/-- Reads a label and takes note of its place. -/
def defineLabel (selection : Selection) : Reading Unit := do
  if selection.first.isSome then reject ": doesn't want any addresses"
  let name ← label
  if name.isEmpty then reject "\":\" lacks a label"
  modifyDraft fun draft =>
    { draft with labels := draft.labels ++ [(name, draft.commands.size)] }

/-- The digits of a version, as numbers. -/
def versionOf (text : Text) : List Nat :=
  (text.splitOn '.').map fun part =>
    part.foldl (fun n c => if c.isDigit then n * 10 + (c.toNat - 48) else n) 0

/-- The version that scripts may count on. -/
def version : List Nat := [4, 9, 0]

/-- A version is newer than another one. -/
def isNewer : List Nat → List Nat → Bool
  | [], _ => false
  | n :: ns, [] => 0 < n || isNewer ns []
  | n :: ns, m :: ms => m < n || (n == m && isNewer ns ms)

/-- Reads a comment, which at the very beginning may ask for silence. -/
def comment (selection : Selection) : Reading Unit := do
  if selection.first.isSome then reject "comments don't accept any addresses"
  let reader ← get
  let text ← takeWhile (· != '\n')
  let _ ← next
  if text = ['n'] ∧ reader.number ≤ 1 ∧ reader.position = 1 then
    modifyDraft fun draft => { draft with quiet := true }

/-- Reads the rest of a command that begins with a letter. -/
def commandRest (manner : Manner) (selection : Selection) (letter : Char) : Reading Unit := do
  let guarded : Reading Unit := do
    if manner.confined then reject confinement
  match letter with
  | '#' => comment selection
  | ':' => defineLabel selection
  | '\x7b' => do
    let reader ← get
    let start : Text := "-e expression #" ++ toString reader.number ++ ", char 0: "
    let place := if reader.name.isSome then reader.place else start
    modifyDraft fun draft =>
      { draft with openings := ⟨draft.commands.size, place⟩ :: draft.openings }
    addCommand selection (.block 0)
  | '\x7d' => closeBlock selection
  | 'a' => addCommand selection (.append (← commandText))
  | 'i' => addCommand selection (.insert (← commandText))
  | 'c' => addCommand selection (.change (← commandText))
  | 'b' => addCommand selection (.jump .always (← label))
  | 't' => addCommand selection (.jump .replaced (← label))
  | 'T' => addCommand selection (.jump .unreplaced (← label))
  | 'e' => do
    guarded
    skipBlanks
    let command ← takeWhile (· != '\n')
    let _ ← next
    addCommand selection (.run command)
  | 'r' => do
    guarded
    addCommand selection (.readFile (← readName))
  | 'R' => do
    guarded
    addCommand selection (.readLine (← readName))
  | 'w' => do
    guarded
    addCommand selection (.write (← readOutlet))
  | 'W' => do
    guarded
    addCommand selection (.writeFirst (← readOutlet))
  | 's' => addCommand selection (.substitute (← substitution manner))
  | 'y' => addCommand selection (.translate (← translation))
  | 'l' => addCommand selection (.list (← trailingNumber))
  | 'L' => reject "unknown command: \x60L'"
  | 'q' => do
    if selection.last.isSome then reject "command only uses one address"
    addCommand selection (.quit ((← trailingNumber).getD 0))
  | 'Q' => do
    if selection.last.isSome then reject "command only uses one address"
    addCommand selection (.quitSilently ((← trailingNumber).getD 0))
  | 'v' => do
    if isNewer (versionOf (← label)) version then reject "expected newer version of sed"
  | letter =>
    match letterAction? letter with
    | some action => do
      endOfCommand
      addCommand selection action
    | none => reject ("unknown command: \x60" ++ [letter] ++ ['\''])

/-- Reads commands to the end of a part.  The first argument bounds how many there are. -/
def commands (manner : Manner) : Nat → Reading Unit
  | 0 => return
  | fuel + 1 => do
    let _ ← takeWhile fun c => isGap c || c == ';'
    if (← get).rest.isEmpty then return
    let selection ← selection manner
    match ← next with
    | none => reject "missing command"
    | some letter => do
      commandRest manner selection letter
      commands manner fuel

/-- The command with another text. -/
def Command.withText (command : Command) (text : Text) : Command :=
  match command.action with
  | .append _ => { command with action := .append text }
  | .insert _ => { command with action := .insert text }
  | .change _ => { command with action := .change text }
  | _ => command

/-- Reads a part, which may begin with the rest of a text. -/
def readPart (manner : Manner) : Reading Unit := do
  let fuel := (← get).rest.length + 1
  if let some taken := (← get).draft.unfinished then
    modifyDraft fun draft => { draft with unfinished := none }
    let text ← textLines fuel taken
    modifyDraft fun draft =>
      { draft with
        commands := draft.commands.modify (draft.commands.size - 1) fun command =>
          command.withText text.reverse }
  commands manner fuel

/-- The draft after some parts, of which `number` says how many arguments were read before. -/
def readParts (manner : Manner) : Nat → Draft → List Part → Except Text Draft
  | _, draft, [] => .ok draft
  | number, draft, part :: parts => do
    let reader : Reader := match part with
      | .argument text => ⟨text, 0, 1, none, number + 1, draft⟩
      | .file name text => ⟨text, 0, 1, some name, number, draft⟩
    let (_, reader) ← (readPart manner).run reader
    readParts manner reader.number reader.draft parts

/-- A complaint about a script, and the status to end with. -/
structure Complaint where
  status : Nat
  message : Text
deriving DecidableEq, Repr

/-- The script that some parts make up. -/
def Script.ofParts (manner : Manner) (parts : List Part) : Except Complaint Script := do
  let draft ← (readParts manner 0 ⟨#[], [], [], [], none, false⟩ parts).mapError fun message =>
    ⟨1, message⟩
  if let opening :: _ := draft.openings then
    throw ⟨1, opening.place ++ "unmatched \x60\x7b'"⟩
  let script : Script := ⟨draft.commands, draft.labels, draft.outlets, draft.quiet⟩
  match script.jumps.find? fun label => (script.target? label).isNone with
  | some label => throw ⟨4, "can't find label for jump to \x60" ++ label ++ "'"⟩
  | none => return script

end TaskRunner.Editor
