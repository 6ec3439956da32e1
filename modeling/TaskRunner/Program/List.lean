import TaskRunner.Program.Mode
import TaskRunner.Program.Walk
import TaskRunner.Shell.Pattern
import TaskRunner.Text.Calendar

/-! Programs that show what is there: the names in directories, and what is known of files. -/

namespace TaskRunner.Program

open Tool

/-! ### `ls` -/

/-- A name that is listed, with what is known of it, what it leads to if it is a link, and whether
it leads to a directory. -/
structure Listed where
  name : Text
  path : Text
  info : FileInfo
  target : Text
  enters : Bool

/-- The switches of `ls`. -/
def lsSwitches : Switches :=
  ⟨"1aAbBcCdfFgGhHiklLmnNopqQrRsStuUvxXZ", "ITw", "",
    [("all", .nothing, "a"), ("almost-all", .nothing, "A"), ("escape", .nothing, "b"),
      ("ignore-backups", .nothing, "B"), ("directory", .nothing, "d"), ("classify", .maybe, "F"),
      ("file-type", .nothing, "type"), ("human-readable", .nothing, "h"), ("inode", .nothing, "i"),
      ("dereference", .nothing, "L"), ("numeric-uid-gid", .nothing, "n"),
      ("literal", .nothing, "N"), ("no-group", .nothing, "G"),
      ("hide-control-chars", .nothing, "q"),
      ("quote-name", .nothing, "Q"), ("reverse", .nothing, "r"), ("recursive", .nothing, "R"),
      ("size", .nothing, "s"), ("sort", .value, "sort"), ("time", .value, "time"),
      ("color", .maybe, "color"), ("group-directories-first", .nothing, "first"),
      ("ignore", .value, "I"), ("width", .value, "w"), ("format", .value, "format"),
      ("full-time", .nothing, "full"), ("time-style", .value, "style"),
      ("show-control-chars", .nothing, "shown"), ("indicator-style", .value, "mark"),
      ("quoting-style", .value, "quoting")], false⟩

/-- The mark behind a name that tells what it is. -/
def indicator (options : Options) (info : FileInfo) : Text :=
  let marks := options.has "F"
  match info.kind with
  | .directory => if marks ∨ options.has "p" ∨ options.has "type" then ['/'] else []
  | .link => if marks ∨ options.has "type" then ['@'] else []
  | .fifo => if marks ∨ options.has "type" then ['|'] else []
  | .regular => if marks && info.permissions &&& 0o111 != 0 then ['*'] else []
  | .device => []

/-- A name between double quotes, with escapes. -/
def doublyQuoted (name : Text) : Text :=
  '"' :: name.flatMap (fun c =>
    if c = '"' ∨ c = '\\' then ['\\', c] else if isPrinted c then [c] else escapedByte c) ++ ['"']

/-- A name as it is listed. -/
def listedName (options : Options) (name : Text) : Text :=
  if options.has "Q" then doublyQuoted name
  else if options.has "b" then
    name.flatMap fun c =>
      if c = '\\' ∨ c = ' ' then ['\\', c] else if isPrinted c then [c] else escapedByte c
  else if options.has "q" then name.map fun c => if isPrinted c then c else '?'
  else name

/-- The space that a file takes, in units of 1024 bytes. -/
def spaceOf (info : FileInfo) : Nat :=
  match info.kind with
  | .regular => (info.size + 4095) / 4096 * 4
  | .directory => 4
  | _ => 0

/-- A size, of which units of 1024 are not counted yet, in the first of some units that leave it
small, rounded up. -/
def inUnits (size : Nat) : List Char → Text
  | [] => decimal size
  | unit :: units =>
    if size < 1024 * 1024 ∨ units.isEmpty then
      let tenths := (size * 10 + 1023) / 1024
      if tenths < 100 then decimal (tenths / 10) ++ '.' :: decimal (tenths % 10) ++ [unit]
      else decimal ((size + 1023) / 1024) ++ [unit]
    else inUnits ((size + 1023) / 1024) units

/-- A size in units that people read easily. -/
def readableSize (n : Nat) : Text :=
  if n < 1024 then decimal n else inUnits n ['K', 'M', 'G', 'T']

/-- The extension of a name. -/
def extensionOf (name : Text) : Text :=
  let after := (name.reverse.takeWhile (· != '.')).reverse
  if after.length = name.length then [] else after

/-- The entries in the order that is asked for. -/
def arranged (options : Options) (entries : List Listed) : List Listed :=
  let byName := entries.mergeSort fun a b => isNotAfter a.name b.name
  let key := match options.value? "sort" with
    | some word => String.ofList word
    | none =>
      match options.lastOf ["S", "t", "U", "X", "f"] with
      | some "S" => "size"
      | some "t" => "time"
      | some "X" => "extension"
      | some _ => "none"
      | none => "name"
  let sorted := match key with
    | "size" => byName.mergeSort fun a b => b.info.size ≤ a.info.size
    | "time" => byName.mergeSort fun a b => b.info.modified ≤ a.info.modified
    | "extension" =>
      byName.mergeSort fun a b => isNotAfter (extensionOf a.name) (extensionOf b.name)
    | "none" => entries
    | _ => byName
  let sorted := if options.has "r" then sorted.reverse else sorted
  if options.has "first" then
    let (directories, others) := sorted.partition Listed.enters
    directories ++ others
  else sorted

/-- The entry of a path. -/
def listedAt (name path : Text) (follows : Bool) : Tool (Except Refusal Listed) := do
  let found ← do
    match ← lookAt path follows with
    | .ok info => pure (.ok info)
    | .error refusal => if follows then lookAt path false else pure (.error refusal)
  match found with
  | .error refusal => return .error refusal
  | .ok info =>
    let target := match ← ask (.readLink path) with
      | .ok target => target
      | .error _ => []
    let enters ← if info.kind = .link then isDirectory path else pure (info.kind == .directory)
    return .ok ⟨name, path, info, target, enters⟩

/-- When a file was changed, as a long listing shows it. -/
def listedTime (options : Options) (now modified : Nat) : Text :=
  let moment := Moment.ofInstant modified
  if options.has "full" ∨ options.value? "style" = some "full-iso".toList then
    moment.write "%Y-%m-%d %H:%M:%S.%N %z".toList
  else if options.value? "style" = some "long-iso".toList then
    moment.write "%Y-%m-%d %H:%M".toList
  else if (options.value? "style").any fun style => style.head? = some '+' then
    moment.write (((options.value? "style").getD []).drop 1)
  else if modified ≤ now ∧ now < modified + 15778476000000 then
    moment.write "%b %e %H:%M".toList
  else moment.write "%b %e  %Y".toList

/-- The lines of a long listing. -/
def longLines (options : Options) (now : Nat) (entries : List Listed) : List Text :=
  let size (entry : Listed) : Text :=
    if entry.info.kind = .device then "1, 3".toList
    else if options.has "h" then readableSize entry.info.size else decimal entry.info.size
  let widest (column : Listed → Text) : Nat :=
    entries.foldl (fun width entry => max width (column entry).length) 0
  let sizeWidth := widest size
  let namesWidth := widest fun entry => decimal entry.info.names
  let person : Text := if options.has "n" then ['0'] else "root".toList
  let owner := if options.has "g" then [] else person ++ [' ']
  let group := if options.has "o" ∨ options.has "G" then [] else person ++ [' ']
  entries.map fun entry =>
    let target : Text :=
      if entry.info.kind = .link then ofString " -> " ++ listedName options entry.target else []
    kindLetter entry.info.kind :: permissionText entry.info.permissions ++ ' ' ::
      padLeft namesWidth (decimal entry.info.names) ++ ' ' :: owner ++ group ++
      padLeft sizeWidth (size entry) ++ ' ' :: listedTime options now entry.info.modified ++ ' ' ::
      listedName options entry.name ++ target ++
      (if entry.info.kind = .link then [] else indicator options entry.info)

/-- The names are listed in the long way. -/
def isLong (options : Options) : Bool :=
  ["l", "n", "g", "o", "full"].any options.has ||
    options.value? "format" == some "long".toList

/-- Names with commas between, in lines no longer than a width. -/
def commaLines (width : Nat) (names : List Text) : List Text :=
  let step (state : List Text × Text) (name : Text) : List Text × Text :=
    let (done, line) := state
    if line.isEmpty then (done, name)
    else if line.length + name.length + 3 ≤ width then (done, line ++ ',' :: ' ' :: name)
    else ((line ++ [',']) :: done, name)
  let (done, line) := names.foldl step ([], [])
  (if line.isEmpty then done else line :: done).reverse

/-- The space between two columns: tabs as far as they reach, and blanks. -/
def gap (stop : Nat) : Nat → Nat → Text
  | 0, _ => []
  | fuel + 1, column =>
    if stop ≤ column then []
    else if (column + 1) / 8 < stop / 8 then '\t' :: gap stop fuel ((column / 8 + 1) * 8)
    else ' ' :: gap stop fuel (column + 1)

/-- The cells of a row, each with the width of its column, from a column on. -/
def rowLine : Nat → List (Text × Nat) → Text
  | _, [] => []
  | _, [(name, _)] => name
  | column, (name, width) :: rest =>
    name ++ gap (column + width) (width + 1) (column + name.length) ++ rowLine (column + width) rest

/-- Names in columns, as many as fit into a width. -/
def columnLines (across : Bool) (width : Nat) (names : List Text) : List Text :=
  let count := names.length
  let rowsFor (columns : Nat) : Nat := (count + columns - 1) / columns
  let cell (columns row column : Nat) : Option Text :=
    if across then if column < columns then names[row * columns + column]? else none
    else if row < rowsFor columns then names[column * rowsFor columns + row]? else none
  let widthOf (columns column : Nat) : Nat :=
    (List.range (rowsFor columns)).foldl (fun width row =>
      match cell columns row column with
      | some name => max width (name.length + 2)
      | none => width) 0
  let used (columns : Nat) : Nat :=
    if across then columns else (count + rowsFor columns - 1) / rowsFor columns
  let fits (columns : Nat) : Bool :=
    let total := (List.range (used columns)).foldl
      (fun sum column => sum + widthOf columns column) 0
    total ≤ width + 1
  let candidates := (List.range (min count (max 1 (width / 3)))).map (· + 1)
  let columns := ((candidates.filter fits).getLast?).getD 1
  (List.range (rowsFor columns)).map fun row =>
    rowLine 0 ((List.range (used columns)).filterMap fun column =>
      (cell columns row column).map fun name => (name, widthOf columns column))

/-- Lists entries. -/
def sayEntries (options : Options) (now : Nat) (total : Bool) (entries : List Listed) :
    Tool Unit := do
  let sum := entries.foldl (fun sum entry => sum + spaceOf entry.info) 0
  if total ∧ (isLong options ∨ options.has "s") then sayLine ("total " ++ decimal sum)
  let room := ((options.value? "w").bind wholeNumber?).getD 80
  let named (entry : Listed) : Text := listedName options entry.name ++ indicator options entry.info
  let lines :=
    if isLong options then longLines options now entries
    else
      match options.lastOf ["1", "m", "C", "x"] with
      | some "m" => commaLines room (entries.map named)
      | some "C" => columnLines false room (entries.map named)
      | some "x" => columnLines true room (entries.map named)
      | _ => entries.map named
  let front (entry : Listed) : Text :=
    (if options.has "i" then decimal entry.info.number ++ [' '] else []) ++
      (if options.has "s" then decimal (spaceOf entry.info) ++ [' '] else [])
  let fronts := if options.has "i" ∨ options.has "s" then entries.map front else []
  let width := fronts.foldl (fun width front => max width front.length) 0
  Tool.each (fun entry => sayLine (padLeft width (fronts.getD entry.2 []) ++ entry.1))
    lines.zipIdx

/-- A name that is left out of listings. -/
def isLeftOut (options : Options) (name : Text) : Bool :=
  let shown := options.has "a" || options.has "f" || options.has "A"
  (!shown && name.head? == some '.') || (options.has "B" && name.getLast? == some '~') ||
    (options.values "I").any fun pattern => (Shell.Pattern.ofText .rich pattern).fits name

/-- Lists a directory, and those below it if that is wanted.  The state says whether something was
written before. -/
def listDirectory (options : Options) (now : Nat) (headed : Bool) : Nat → Bool → Text → Tool Bool
  | 0, before, _ => return before
  | fuel + 1, before, path => do
    match ← ask (.list path) with
    | .error refusal =>
      complain (if before then 1 else 2) (aboutQuoted "cannot open directory " path refusal)
      return before
    | .ok names =>
      if headed then
        say ((if before then ['\n'] else []) ++ listedName options path ++ [':', '\n'])
      let dots := if options.has "a" ∨ options.has "f" then [['.'], ['.', '.']] else []
      let names := dots ++ names.filter fun name => !isLeftOut options name
      let entries ← Tool.fold (fun entries name => do
        match ← listedAt name (below path name) (options.has "L") with
        | .ok entry => return entry :: entries
        | .error refusal => do
          complain 1 (aboutQuoted "cannot access " (below path name) refusal)
          return entries) [] names
      let entries := arranged options entries.reverse
      sayEntries options now true entries
      if options.has "R" then
        let directories := entries.filter fun entry =>
          entry.info.kind == .directory && !dots.contains entry.name
        Tool.fold (fun before entry =>
          listDirectory options now headed fuel before (below path entry.name)) true directories
      else return true

/-- The program `ls`. -/
def ls (call : Call) : Task :=
  withOptions 2 2 lsSwitches call fun options => do
    let now := match ← ask .clock with
      | .ok now => now
      | .error _ => 0
    let whole := options.has "d"
    let operands := if options.operands.isEmpty then [['.']] else options.operands
    let followsLinks := options.has "L" || options.has "H"
    let follows := followsLinks || !(whole || isLong options || options.has "F")
    let entries ← Tool.fold (fun entries path => do
      let found ← do
        match ← listedAt path path follows with
        | .ok entry =>
          if entry.info.kind ≠ .directory ∧ ¬ followsLinks then listedAt path path false
          else pure (.ok entry)
        | .error refusal => pure (.error refusal)
      match found with
      | .ok entry => return entry :: entries
      | .error refusal => do
        complain 2 (aboutQuoted "cannot access " path refusal)
        return entries) [] operands
    let entries := arranged options entries.reverse
    let (directories, files) := entries.partition fun entry =>
      entry.info.kind == .directory && !whole
    if ¬ files.isEmpty then sayEntries options now false files
    let headed := options.has "R" ||
      !(files.isEmpty && operands.length ≤ 1 && directories.length ≤ 1)
    let _ ← Tool.fold (fun before entry =>
      listDirectory options now headed walkDepth before entry.path) (!files.isEmpty) directories

/-! ### `stat` -/

/-- The switches of `stat`. -/
def statSwitches : Switches :=
  ⟨"Lft", "c", "",
    [("dereference", .nothing, "L"), ("file-system", .nothing, "f"), ("format", .value, "c"),
      ("printf", .value, "printf"), ("terse", .nothing, "t"), ("cached", .value, "cached")], false⟩

/-- The number for a kind of file in its mode. -/
def kindBits : FileKind → Nat
  | .directory => 0o040000
  | .regular => 0o100000
  | .link => 0o120000
  | .fifo => 0o010000
  | .device => 0o020000

/-- When a file was changed, in full. -/
def fullTime (modified : Nat) : Text :=
  (Moment.ofInstant modified).write "%Y-%m-%d %H:%M:%S.%N %z".toList

/-- What a letter after a percent sign stands for, and whether it is a number. -/
def statPart? (entry : Listed) (letter : Char) : Option (Bool × Text) :=
  let info := entry.info
  let number (n : Nat) : Option (Bool × Text) := some (true, decimal n)
  let text (text : Text) : Option (Bool × Text) := some (false, text)
  match letter with
  | 'a' => text ((Layout.mk [] 0 none).unsigned 'o' info.permissions)
  | 'A' => text (kindLetter info.kind :: permissionText info.permissions)
  | 'b' => number (spaceOf info * 2)
  | 'B' => number 512
  | 'd' => number 1
  | 'D' => text ['1']
  | 'f' => text ((Layout.mk [] 0 none).unsigned 'x' (kindBits info.kind + info.permissions))
  | 'F' => text (kindName info).toList
  | 'g' => number 0
  | 'G' => text "root".toList
  | 'h' => number info.names
  | 'i' => number info.number
  | 'm' => text ['/']
  | 'n' => text entry.name
  | 'N' => text (quotedName entry.name ++
      if info.kind = .link then ofString " -> " ++ quotedName entry.target else [])
  | 'o' => number 4096
  | 's' => number info.size
  | 't' => number 0
  | 'T' => number 0
  | 'u' => number 0
  | 'U' => text "root".toList
  | 'w' => text ['-']
  | 'W' => number 0
  | 'x' => text (fullTime info.modified)
  | 'y' => text (fullTime info.modified)
  | 'z' => text (fullTime info.modified)
  | 'X' => number (info.modified / 1000000)
  | 'Y' => number (info.modified / 1000000)
  | 'Z' => number (info.modified / 1000000)
  | _ => none

/-- The text of a format. -/
def statText (escapes : Bool) (entry : Listed) : Nat → Text → Text
  | 0, _ => []
  | _ + 1, [] => []
  | fuel + 1, '%' :: cs =>
    let flags := cs.takeWhile fun c => "-+0 #".toList.contains c
    let rest := cs.drop flags.length
    let width := rest.takeWhile Char.isDigit
    let rest := rest.drop width.length
    let precision : Option Text := match rest with
      | '.' :: more => some (more.takeWhile Char.isDigit)
      | _ => none
    match rest.drop (match precision with
      | some digits => digits.length + 1
      | none => 0) with
    | [] => '%' :: cs
    | '%' :: rest => '%' :: statText escapes entry fuel rest
    | letter :: rest =>
      let layout : Layout := ⟨flags, digitsValue width, none⟩
      let shown := match statPart? entry letter, precision with
        | some (number, text), none => layout.fillNumber number [] text
        | some (true, text), some digits =>
          layout.fill (List.replicate (digitsValue digits - text.length) '0' ++ text)
        | some (false, text), some digits => layout.fill (text.take (digitsValue digits))
        | none, _ => ['?']
      shown ++ statText escapes entry fuel rest
  | fuel + 1, '\\' :: c :: cs =>
    if escapes then
      let found := ([('n', '\n'), ('t', '\t'), ('a', '\x07'), ('b', '\x08'), ('r', '\r'),
        ('f', '\x0c'), ('v', '\x0b'), ('e', '\x1b'), ('"', '"'), ('\\', '\\')] :
          List (Char × Char)).lookup c
      match found with
      | some d => d :: statText escapes entry fuel cs
      | none => '\\' :: c :: statText escapes entry fuel cs
    else '\\' :: statText escapes entry fuel (c :: cs)
  | fuel + 1, c :: cs => c :: statText escapes entry fuel cs

/-- What is shown of a file without a format. -/
def statReport (entry : Listed) : Text :=
  let special : String := "  File: %N\n  Size: %-10s\tBlocks: %-10b IO Block: %-6o %F\n" ++
    "Device: 0,1\tInode: %-11i Links: %h\nAccess: (%04a/%10A)  Uid: (    0/    root)   " ++
    "Gid: (    0/    root)\nAccess: %x\nModify: %y\nChange: %z\n Birth: -\n"
  let format := special.toList
  let plain : Listed := { entry with name := entry.name }
  let shown (text : Text) : Text := statText false plain (text.length + 1) text
  let name : Text := if entry.info.kind = .link then
      shownName entry.name ++ " -> " ++ shownName entry.target else entry.name
  ofString "  File: " ++ name ++ shown (format.drop 10)

/-- The program `stat`. -/
def stat (call : Call) : Task :=
  withOptions 1 1 statSwitches call fun options => do
    if options.operands.isEmpty then missingOperand
    Tool.each (fun path => do
      match ← listedAt path path false, options.has "L" with
      | .error refusal, _ => complain 1 (aboutQuoted "cannot statx " path refusal)
      | .ok entry, follows =>
        let found ← if follows then lookAt path true else pure (.ok entry.info)
        match found with
        | .error refusal => complain 1 (aboutQuoted "cannot statx " path refusal)
        | .ok info =>
          let entry := { entry with info }
          match options.value? "printf", options.value? "c" with
          | some format, _ => say (statText true entry (format.length + 1) format)
          | none, some format => sayLine (statText false entry (format.length + 1) format)
          | none, none => say (statReport entry)) options.operands

end TaskRunner.Program
