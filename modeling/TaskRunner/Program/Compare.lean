import TaskRunner.Program.Input
import TaskRunner.Text.Calendar
import TaskRunner.Text.Difference

/-! Programs that compare files: `cmp` byte by byte, and `diff` line by line. -/

namespace TaskRunner.Program

open Tool

/-- A message that names the file it is about. -/
def named_ (path : Text) (refusal : Refusal) : Text :=
  path ++ ": " ++ refusal.message

/-- All that stands in a file, or what is wrong with it. -/
def contentOf (path : Text) : Tool (Except Refusal Text) := do
  let descriptor ← if path = standardInput then pure (.ok 0) else openInput path
  match descriptor with
  | .error refusal => return .error refusal
  | .ok descriptor => do
    let (text, outcome) ← act (Act.readAll descriptor)
    if path ≠ standardInput then
      let _ ← ask (.close descriptor)
    match outcome with
    | .ok () => return .ok text
    | .error refusal => return .error refusal

/-- Ends the program with a complaint about how it was called. -/
def refuseCall {α : Type} (message : Text) : Tool α := do
  warn message
  warn ("Try '" ++ (← get).name ++ " --help' for more information.")
  setStatus 2
  finish 2

/-- The task of a program that compares files. -/
def comparison (switches : Switches) (call : Call) (body : Options → Tool Unit) : Task :=
  task 2 call do
    match switches.read call.arguments with
    | .ok options => body options
    | .error message => refuseCall message

/-! ### `cmp` -/

/-- The switches of `cmp`. -/
def cmpSwitches : Switches :=
  ⟨"bcls", "in", "",
    [("print-bytes", .nothing, "b"), ("verbose", .nothing, "l"), ("silent", .nothing, "s"),
      ("quiet", .nothing, "s"), ("ignore-initial", .value, "i"), ("bytes", .value, "n")], false⟩

/-- Where a comparison stands: the number of the byte and of the line. -/
structure Position where
  byte : Nat
  line : Nat
deriving DecidableEq, Repr

/-- Where two texts differ. -/
inductive Mismatch where
  | bytes (position : Position) (a b : Char)
  | end_ (isFirst : Bool) (position : Position)

/-- The first place where two texts differ from a position on. -/
def mismatch? (position : Position) : Text → Text → Option Mismatch
  | [], [] => none
  | [], _ :: _ => some (.end_ true position)
  | _ :: _, [] => some (.end_ false position)
  | a :: s, b :: t =>
    if a = b then
      mismatch? ⟨position.byte + 1, if a = '\n' then position.line + 1 else position.line⟩ s t
    else some (.bytes position a b)

/-- The bytes at which two texts differ. -/
def mismatches (position : Position) : Text → Text → List Mismatch
  | [], [] => []
  | [], _ :: _ => [.end_ true position]
  | _ :: _, [] => [.end_ false position]
  | a :: s, b :: t =>
    let rest := mismatches
      ⟨position.byte + 1, if a = '\n' then position.line + 1 else position.line⟩ s t
    if a = b then rest else .bytes position a b :: rest

/-- The octal digits of a byte. -/
def octalText (c : Char) : Text :=
  padLeft 3 (Nat.toDigits 8 c.toNat)

/-- A byte as it is shown: what is not visible has marks. -/
def shownByte (c : Char) : Text :=
  let n := c.toNat
  let (front, n) : Text × Nat := if 128 ≤ n then (['M', '-'], n - 128) else ([], n)
  if n < 32 then front ++ ['^', Char.ofNat (n + 64)]
  else if n = 127 then front ++ ['^', '?']
  else front ++ [Char.ofNat n]

/-- The counts of bytes to pass over in two files. -/
def skipped (options : Options) (operands : List Text) : Tool (Nat × Nat) := do
  let number (text : Text) : Tool Nat := do
    match wholeNumber? text with
    | some n => return n
    | none => refuseCall (("invalid --ignore-initial value '" : String) ++ text ++ "'")
  match options.value? "i" with
  | some text => do
    let first := text.takeWhile (· != ':')
    let n ← number first
    if first.length < text.length then return (n, ← number (text.drop (first.length + 1)))
    else return (n, n)
  | none => do
    let first ← match operands[0]? with
      | some text => number text
      | none => pure 0
    let second ← match operands[1]? with
      | some text => number text
      | none => pure 0
    return (first, second)

/-- Tells that a file ends before the other one. -/
def tellEnd (path : Text) (isEmpty verbose : Bool) (position : Position) (last : Option Char) :
    Tool Unit := do
  if isEmpty then warn ("EOF on " ++ path ++ " which is empty")
  else
    let line := if last = some '\n' then position.line - 1 else position.line
    let where_ : Text :=
      if verbose then []
      else (if last = some '\n' then ", line " else ", in line ") ++ decimal line
    warn ("EOF on " ++ path ++ " after byte " ++ decimal (position.byte - 1) ++ where_)

/-- The program `cmp`. -/
def cmp (call : Call) : Task :=
  comparison cmpSwitches call fun options => do
    let (first, second) : Text × Text ← match options.operands with
      | [] => refuseCall ("missing operand after '" ++ call.name ++ "'")
      | [path] => pure (path, standardInput)
      | a :: b :: rest => do
        match rest[2]? with
        | some extra => refuseCall ("extra operand '" ++ extra ++ "'")
        | none => pure (a, b)
    let (skipFirst, skipSecond) ← skipped options (options.operands.drop 2)
    let limit ← match options.value? "n" with
      | none => pure none
      | some text =>
        match wholeNumber? text with
        | some n => pure (some n)
        | none => refuseCall (("invalid --bytes value '" : String) ++ text ++ "'")
    if first = second ∧ skipFirst = skipSecond then finish 2
    let read (path : Text) (skip : Nat) : Tool Text := do
      match ← contentOf path with
      | .ok text =>
        let text := text.drop skip
        return match limit with
          | some n => text.take n
          | none => text
      | .error refusal => do
        if ¬ options.has "s" then warn (named_ path refusal)
        setStatus 2
        finish 2
    let a ← read first skipFirst
    let b ← read second skipSecond
    let start : Position := ⟨1, 1⟩
    if options.has "s" then
      if a ≠ b then setStatus 1
    else
      let verbose := options.has "l"
      let found := if verbose then mismatches start a b else (mismatch? start a b).toList
      let width := (decimal (max a.length b.length)).length
      each (fun mismatch => do
        setStatus 1
        match mismatch with
        | .bytes position x y =>
          if verbose then
            let bytes := if (options.has "b" || options.has "c") then
                octalText x ++ ' ' :: padRight 4 (shownByte x) ++ ' ' :: octalText y ++
                  ' ' :: shownByte y
              else octalText x ++ ' ' :: octalText y
            sayLine (padLeft width (decimal position.byte) ++ ' ' :: bytes)
          else if (options.has "b" || options.has "c") then
            sayLine (first ++ ' ' :: second ++ " differ: byte " ++ decimal position.byte ++
              ", line " ++ decimal position.line ++ " is " ++ octalText x ++ ' ' :: shownByte x ++
              ' ' :: octalText y ++ ' ' :: shownByte y)
          else
            sayLine (first ++ ' ' :: second ++ " differ: char " ++ decimal position.byte ++
              ", line " ++ decimal position.line)
        | .end_ isFirst position =>
          let path := if isFirst then first else second
          let text := if isFirst then a else b
          tellEnd path text.isEmpty verbose position text.getLast?) found

/-! ### `diff` -/

/-- The switches of `diff`. -/
def diffSwitches : Switches :=
  ⟨"abBcdeEilNnpPqrstTuwyZ", "CDFIKLSUxXW", "",
    [("brief", .nothing, "q"), ("report-identical-files", .nothing, "s"),
      ("ignore-case", .nothing, "i"), ("ignore-space-change", .nothing, "b"),
      ("ignore-trailing-space", .nothing, "Z"), ("ignore-all-space", .nothing, "w"),
      ("ignore-blank-lines", .nothing, "B"), ("recursive", .nothing, "r"),
      ("new-file", .nothing, "N"), ("normal", .nothing, "normal"), ("text", .nothing, "a"),
      ("label", .value, "L"), ("unified", .maybe, "U"), ("context", .maybe, "C"),
      ("color", .maybe, "color"), ("minimal", .nothing, "d"), ("exclude", .value, "x"),
      ("expand-tabs", .nothing, "t"), ("side-by-side", .nothing, "y"),
      ("width", .value, "W")], false⟩

/-- How lines are shown that differ. -/
inductive DiffStyle where
  | normal
  | unified (context : Nat)
  | context (context : Nat)
deriving DecidableEq, Repr

/-- A file that is compared: how it is named, its lines, and when it was changed. -/
structure Side where
  name : Text
  lines : Array Line
  changed : Nat

/-- What counts of a line when lines are compared. -/
def lineKey (options : Options) (line : Line) : String :=
  let text := line.text
  let ignoresBlanks := options.has "w" || options.has "b" || options.has "Z"
  let text := if options.has "i" then text.map Char.toLower else text
  let text :=
    if options.has "w" then text.filter fun c => !Char.isWhitespace c
    else if options.has "b" then
      let words := (text.splitBy fun a b => a.isWhitespace == b.isWhitespace).map fun word =>
        if word.head?.any Char.isWhitespace then [' '] else word
      ((words.flatten).reverse.dropWhile Char.isWhitespace).reverse
    else if options.has "Z" then (text.reverse.dropWhile Char.isWhitespace).reverse
    else text
  String.ofList (if line.ended ∨ ignoresBlanks then text ++ ['\n'] else text)

/-- Lines behind a mark. -/
def sayLines (mark : Text) (lines : List Line) : Tool Unit :=
  each (fun line => do
    sayLine (mark ++ line.text)
    if ¬ line.ended then sayLine "\\ No newline at end of file") lines

/-- The numbers of the first and the last one of some lines. -/
def lineSpan (start count : Nat) : Text :=
  if count ≤ 1 then decimal (start + count)
  else decimal (start + 1) ++ ',' :: decimal (start + count)

/-- Some of the lines of a side. -/
def Side.part (side : Side) (start count : Nat) : List Line :=
  (side.lines.extract start (start + count)).toList

/-- Shows what differs in two files, one stretch after the other. -/
def sayNormal (a b : Side) (hunks : List Difference.Hunk) : Tool Unit :=
  each (fun hunk => do
    let kind := if hunk.removed = 0 then 'a' else if hunk.added = 0 then 'd' else 'c'
    sayLine (lineSpan hunk.first hunk.removed ++ kind :: lineSpan hunk.second hunk.added)
    sayLines ['<', ' '] (a.part hunk.first hunk.removed)
    if kind = 'c' then sayLine ['-', '-', '-']
    sayLines ['>', ' '] (b.part hunk.second hunk.added)) hunks

/-- Stretches that are so close to one another that they are shown together. -/
def grouped (context : Nat) : List Difference.Hunk → List (List Difference.Hunk)
  | [] => []
  | hunk :: rest =>
    match grouped context rest with
    | [] => [[hunk]]
    | group :: groups =>
      match group with
      | [] => [hunk] :: groups
      | next :: _ =>
        if next.first ≤ hunk.first + hunk.removed + 2 * context then (hunk :: group) :: groups
        else [hunk] :: group :: groups

/-- The lines around some stretches: the first one in each file and how many they are. -/
def around (context : Nat) (a : Side) (group : List Difference.Hunk) : Nat × Nat × Nat × Nat :=
  let hunk := group.headD ⟨0, 0, 0, 0⟩
  let last := group.getLastD hunk
  let front := min context hunk.first
  let after := min context (a.lines.size - (last.first + last.removed))
  let first := hunk.first - front
  let second := hunk.second - front
  (first, last.first + last.removed + after - first, second,
    last.second + last.added + after - second)

/-- The first line and the count of lines in the heading of lines that are shown together. -/
def unifiedSpan (start count : Nat) : Text :=
  if count = 0 then decimal start ++ ",0"
  else if count = 1 then decimal (start + 1)
  else decimal (start + 1) ++ ',' :: decimal count

/-- Shows stretches with the lines around them.  `place` is the first line of the first file that is
not shown yet. -/
def sayGroup (a b : Side) (stop : Nat) : Nat → List Difference.Hunk → Tool Unit
  | place, [] => sayLines [' '] (a.part place (stop - place))
  | place, hunk :: rest => do
    sayLines [' '] (a.part place (hunk.first - place))
    sayLines ['-'] (a.part hunk.first hunk.removed)
    sayLines ['+'] (b.part hunk.second hunk.added)
    sayGroup a b stop (hunk.first + hunk.removed) rest

/-- Shows what differs in two files in the midst of the lines that do not. -/
def sayUnified (context : Nat) (labels : List Text) (a b : Side) (hunks : List Difference.Hunk) :
    Tool Unit := do
  let head (n : Nat) (side : Side) : Text :=
    match labels[n]? with
    | some label => label
    | none =>
      side.name ++ '\t' ::
        (Moment.ofInstant side.changed).write "%Y-%m-%d %H:%M:%S.%N +0000".toList
  sayLine ("--- " ++ head 0 a)
  sayLine ("+++ " ++ head 1 b)
  each (fun group => do
    let (first, removed, second, added) := around context a group
    sayLine ("@@ -" ++ unifiedSpan first removed ++ " +" ++ unifiedSpan second added ++ " @@")
    sayGroup a b (first + removed) first group) (grouped context hunks)

/-- The lines of one file around some stretches, with marks: an exclamation mark where lines
changed. `isFirst` says which of the two files it is. -/
def contextLines (side : Side) (isFirst : Bool) (stop : Nat) :
    Nat → List Difference.Hunk → List (Text × List Line)
  | place, [] => [([' ', ' '], side.part place (stop - place))]
  | place, hunk :: rest =>
    let (start, count) := if isFirst then (hunk.first, hunk.removed)
      else (hunk.second, hunk.added)
    let mark := if hunk.removed ≠ 0 ∧ hunk.added ≠ 0 then '!' else if isFirst then '-' else '+'
    ([' ', ' '], side.part place (start - place)) :: ([mark, ' '], side.part start count) ::
      contextLines side isFirst stop (start + count) rest

/-- Shows what differs in two files, the lines around it once for each file. -/
def sayContext (context : Nat) (labels : List Text) (a b : Side) (hunks : List Difference.Hunk) :
    Tool Unit := do
  let head (n : Nat) (side : Side) : Text :=
    match labels[n]? with
    | some label => label
    | none =>
      side.name ++ '\t' :: (Moment.ofInstant side.changed).write "%a %b %e %H:%M:%S %Y".toList
  let span (start count : Nat) : Text :=
    if count ≤ 1 then decimal (start + count)
    else decimal (start + 1) ++ ',' :: decimal (start + count)
  sayLine ("*** " ++ head 0 a)
  sayLine ("--- " ++ head 1 b)
  each (fun group => do
    let (first, removed, second, added) := around context a group
    sayLine (List.replicate 15 '*')
    sayLine ("*** " ++ span first removed ++ " ****")
    if group.any fun hunk => hunk.removed != 0 then
      each (fun part => sayLines part.1 part.2)
        (contextLines a true (first + removed) first group)
    sayLine ("--- " ++ span second added ++ " ----")
    if group.any fun hunk => hunk.added != 0 then
      each (fun part => sayLines part.1 part.2)
        (contextLines b false (second + added) second group)) (grouped context hunks)

/-- How `diff` was called: its options, how lines are shown that differ, and the text that says so
when files in directories are compared. -/
structure Comparing where
  options : Options
  style : DiffStyle
  shown : Text

/-- What is known of a file that is to be compared, if it is there. -/
def lookAtSide (path : Text) : Tool (Except Refusal FileInfo) := do
  if path = standardInput then ask (.inspectOpen 0) else ask (.inspect path true)

/-- The status of `diff` is at least this one. -/
def raiseStatus (status : Nat) : Tool Unit :=
  modify fun desk => { desk with status := max desk.status status }

/-- Compares two files.  What is told before the lines is `heading`. -/
def compareFiles (comparing : Comparing) (heading : Text) (a b : Text) : Tool Unit := do
  let options := comparing.options
  let absent := options.has "N"
  let read (path : Text) : Tool (Except Refusal (Text × Nat)) := do
    match ← lookAtSide path with
    | .error .noEntry =>
      if absent then return .ok ([], 0) else return .error .noEntry
    | .error refusal => return .error refusal
    | .ok info =>
      match ← contentOf path with
      | .ok text => return .ok (text, info.modified)
      | .error refusal => return .error refusal
  match ← read a, ← read b with
  | .ok (s, changedA), .ok (t, changedB) => do
    let side (name text : Text) (changed : Nat) : Side :=
      ⟨name, (linesOf '\n' (text.length + 1) text).toArray, changed⟩
    let first := side a s changedA
    let second := side b t changedB
    let isBinary := !options.has "a" && (s.contains '\x00' || t.contains '\x00')
    let keys (side : Side) : List String := side.lines.toList.map (lineKey options)
    let hunks :=
      if s = t ∨ isBinary then []
      else
        let all := Difference.hunks (keys first) (keys second)
        if options.has "B" then
          all.filter fun hunk =>
            !((first.part hunk.first hunk.removed ++ second.part hunk.second hunk.added).all
              fun line => line.text.isEmpty)
        else all
    let differ := if isBinary then s ≠ t else ¬ hunks.isEmpty
    if ¬ differ then
      if options.has "s" then sayLine ("Files " ++ a ++ " and " ++ b ++ " are identical")
    else do
      raiseStatus 1
      if options.has "q" then sayLine ("Files " ++ a ++ " and " ++ b ++ " differ")
      else if isBinary then
        sayLine ("Binary files " ++ a ++ " and " ++ b ++ " differ")
      else do
        say heading
        match comparing.style with
        | .normal => sayNormal first second hunks
        | .unified context => sayUnified context (options.values "L") first second hunks
        | .context context => sayContext context (options.values "L") first second hunks
  | x, y => do
    if let .error refusal := x then warn (named_ a refusal)
    if let .error refusal := y then warn (named_ b refusal)
    raiseStatus 2

/-- The names in a directory in their order. -/
def sortedNames (path : Text) : Tool (List Text) := do
  match ← ask (.list path) with
  | .ok names => return names.mergeSort isNotAfter
  | .error refusal => do
    warn (named_ path refusal)
    raiseStatus 2
    return []

/-- The names of two directories in order, each with where it stands. -/
def mergedNames : Nat → List Text → List Text → List (Text × Bool × Bool)
  | 0, _, _ => []
  | fuel + 1, first, second =>
    match first, second with
    | [], [] => []
    | a :: rest, [] => (a, true, false) :: mergedNames fuel rest []
    | [], b :: rest => (b, false, true) :: mergedNames fuel [] rest
    | a :: s, b :: t =>
      if a = b then (a, true, true) :: mergedNames fuel s t
      else if isNotAfter a b then (a, true, false) :: mergedNames fuel s (b :: t)
      else (b, false, true) :: mergedNames fuel (a :: s) t

/-- A path in a directory. -/
def insideOf (directory name : Text) : Text :=
  if directory.getLast? = some '/' then directory ++ name else directory ++ '/' :: name

/-- Compares two directories.  The first argument bounds how deep they are. -/
def compareDirectories (comparing : Comparing) : Nat → Text → Text → Tool Unit
  | 0, _, _ => pure ()
  | fuel + 1, a, b => do
    let options := comparing.options
    let first ← sortedNames a
    let second ← sortedNames b
    each (fun (entry : Text × Bool × Bool) => do
      let (name, inFirst, inSecond) := entry
      let x := insideOf a name
      let y := insideOf b name
      if inFirst ∧ inSecond then
        let isDirectory (path : Text) : Tool Bool := do
          match ← lookAtSide path with
          | .ok info => return info.kind == .directory
          | .error _ => return false
        let deepX ← isDirectory x
        let deepY ← isDirectory y
        if deepX ∧ deepY then
          if options.has "r" then compareDirectories comparing fuel x y
          else sayLine ("Common subdirectories: " ++ x ++ " and " ++ y)
        else if deepX ≠ deepY then
          let what (deep : Bool) : Text :=
            if deep then "directory".toList else "regular file".toList
          sayLine ("File " ++ x ++ " is a " ++ what deepX ++ " while file " ++ y ++ " is a " ++
            what deepY)
          raiseStatus 1
        else
          compareFiles comparing (comparing.shown ++ ' ' :: x ++ ' ' :: y ++ ['\n']) x y
      else if options.has "N" then
        compareFiles comparing (comparing.shown ++ ' ' :: x ++ ' ' :: y ++ ['\n']) x y
      else do
        sayLine ("Only in " ++ (if inFirst then a else b) ++ ": " ++ name)
        raiseStatus 1) (mergedNames (first.length + second.length + 1) first second)

/-- How deep directories are compared. -/
def diffDepth : Nat := 1000

/-- The program `diff`. -/
def diff (call : Call) : Task :=
  comparison diffSwitches call fun options => do
    let (a, b) : Text × Text ← match options.operands with
      | [] => refuseCall ("missing operand after '" ++ call.arguments.getLastD call.name ++ "'")
      | [_] => refuseCall ("missing operand after '" ++ call.arguments.getLastD call.name ++ "'")
      | [a, b] => pure (a, b)
      | _ :: _ :: extra :: _ => refuseCall ("extra operand '" ++ extra ++ "'")
    let width (key : String) : Nat := ((options.value? key).bind wholeNumber?).getD 3
    let style := match options.lastOf ["u", "U", "c", "C", "normal"] with
      | some "u" => DiffStyle.unified 3
      | some "U" => .unified (width "U")
      | some "c" => .context 3
      | some "C" => .context (width "C")
      | _ => .normal
    let given := call.arguments.filter fun argument =>
      argument.head? == some '-' && 1 < argument.length
    let comparing : Comparing :=
      ⟨options, style, List.intercalate [' '] (call.name :: given)⟩
    let x ← lookAtSide a
    let y ← lookAtSide b
    let isDirectory (found : Except Refusal FileInfo) : Bool := match found with
      | .ok info => info.kind == .directory
      | .error _ => false
    let name (path : Text) : Text := (path.reverse.takeWhile (· != '/')).reverse
    if isDirectory x ∧ isDirectory y then compareDirectories comparing diffDepth a b
    else if isDirectory x ∧ b ≠ standardInput then compareFiles comparing [] (insideOf a (name b)) b
    else if isDirectory y ∧ a ≠ standardInput then compareFiles comparing [] a (insideOf b (name a))
    else compareFiles comparing [] a b

end TaskRunner.Program
