import TaskRunner.Program.Input

/-! Programs that pass text on: whole, in part, numbered, turned around or counted. -/

namespace TaskRunner.Program

open Tool

/-! ### Blocks -/

/-- How much `cat` reads at once. -/
def copyBlock : Nat := 131072

/-- Does something with each block of what is left of a source. -/
def eachBlock (descriptor count : Nat) (body : Text → Tool Unit) : Tool (Except Refusal Unit) :=
  loop (fun _ : Unit => do
    match ← ask (.read descriptor count) with
    | .ok [] => return .inr (.ok ())
    | .ok block => do
      body block
      return .inl ()
    | .error .interrupted => return .inl ()
    | .error refusal => return .inr (.error refusal))
    (fun _ => pure (.ok ())) ()

/-- Writes a block at once. -/
def writeBlock (block : Text) : Tool Unit := do
  match ← act (Act.writeAll 1 block) with
  | .ok () => return
  | .error refusal => do
    modify fun desk => { desk with refused := some refusal }
    finish 1

/-! ### `cat` -/

/-- A byte as it is shown where bytes that are not visible are. -/
def visible (tabs : Bool) (c : Char) : Text :=
  let plain (n : Nat) : Text :=
    if n = 127 then ['^', '?']
    else if n < 32 then ['^', Char.ofNat (n + 64)]
    else [Char.ofNat n]
  if c = '\n' ∨ (c = '\t' ∧ ¬ tabs) then [c]
  else if 128 ≤ c.toNat then 'M' :: '-' :: plain (c.toNat - 128)
  else plain c.toNat

/-- How `cat` changes lines: the number of the last one, how many empty ones came last, and whether
the line before is still open. -/
structure CatState where
  number : Nat
  blank : Nat
  within : Bool

/-- The switches of `cat`. -/
def catSwitches : Switches :=
  ⟨"AbeEnstTuv", "", "",
    [("number-nonblank", .nothing, "b"), ("number", .nothing, "n"),
      ("squeeze-blank", .nothing, "s"), ("show-nonprinting", .nothing, "v"),
      ("show-ends", .nothing, "E"), ("show-tabs", .nothing, "T"), ("show-all", .nothing, "A")],
    false⟩

/-- A line of `cat`. -/
def catLine (options : Options) (state : CatState) (line : Line) : Tool CatState := do
  let has (keys : List String) : Bool := keys.any options.has
  let blank := line.text.isEmpty && !state.within
  if blank ∧ options.has "s" ∧ 1 ≤ state.blank then return state
  let numbered := !state.within && (if options.has "b" then !line.text.isEmpty else options.has "n")
  let number := if numbered then state.number + 1 else state.number
  let front := if numbered then padLeft 6 (decimal number) ++ ['\t'] else []
  let shows := has ["v", "A", "e", "t"]
  let tabs := has ["T", "A", "t"]
  let shown := line.text.flatMap fun c =>
    if c = '\t' ∧ tabs then ['^', 'I'] else if shows then visible false c else [c]
  let mark : Text := if has ["E", "A", "e"] then ['$'] else []
  say (front ++ shown ++ if line.ended then mark ++ ['\n'] else [])
  return ⟨number, if blank then state.blank + 1 else 0, !line.ended⟩

/-- A file is where the standard output goes. -/
def isOutput (descriptor : Nat) : Tool Bool := do
  match ← ask (.inspectOpen descriptor), ← ask (.inspectOpen 1) with
  | .ok input, .ok output =>
    if input.number ≠ output.number ∨ input.kind ≠ .regular ∨ output.kind ≠ .regular then
      return false
    else
      match ← ask (.offset descriptor) with
      | .ok offset => return offset < output.size
      | .error _ => return false
  | _, _ => return false

/-- The program `cat`. -/
def cat (call : Call) : Task :=
  withOptions 1 1 catSwitches call fun options => do
    match ← ask (.inspectOpen 1) with
    | .error refusal => fail 1 ("standard output: " ++ refusal.message : String)
    | .ok _ => pure ()
    let plain := options.given.all fun entry => entry.1 == "u"
    let _ ← foldInputs 1 about options.operands (⟨0, 0, false⟩ : CatState)
      fun state path descriptor => do
        if ← isOutput descriptor then
          complain 1 (shownName path ++ ": input file is output file")
          return state
        else if plain then
          complainIf 1 (about path) (← eachBlock descriptor copyBlock writeBlock)
          return state
        else
          let (outcome, state) ← eachLine (.ofDescriptor descriptor) '\n' state (catLine options)
          complainIf 1 (about path) outcome
          return state

/-! ### Counts -/

/-- The multipliers that may stand behind a count. -/
def multipliers : List (String × Nat) :=
  [("b", 512), ("kB", 1000), ("K", 1024), ("k", 1024), ("KiB", 1024), ("MB", 1000000),
    ("M", 1048576), ("m", 1048576), ("MiB", 1048576), ("GB", 1000000000), ("G", 1073741824),
    ("GiB", 1073741824)]

/-- The number that a count stands for. -/
def count? (text : Text) : Option Nat :=
  let digits := text.takeWhile Char.isDigit
  let unit := String.ofList (text.drop digits.length)
  if digits.isEmpty then none
  else if unit = "" then some (digitsValue digits)
  else (multipliers.lookup unit).map (digitsValue digits * ·)

/-- What is asked for of a file: lines or bytes, how many, and which sign stands before. -/
structure Portion where
  bytes : Bool
  sign : Option Char
  count : Nat

/-- The portion that switches ask for. -/
def portion (options : Options) : Tool Portion := do
  match (options.given.filter fun entry => entry.1 == "n" || entry.1 == "c").getLast? with
  | some (key, some value) =>
    let (sign, digits) : Option Char × Text := match value with
      | '-' :: digits => (some '-', digits)
      | '+' :: digits => (some '+', digits)
      | digits => (none, digits)
    let bytes := key == "c"
    match count? digits with
    | some count => return ⟨bytes, sign, count⟩
    | none =>
      let what : Text := if bytes then "bytes" else "lines"
      fail 1 ("invalid number of " ++ what ++ ": " ++ quoted digits)
  | _ => return ⟨false, none, 10⟩

/-- The switches of `head` and `tail`. -/
def portionSwitches : Switches :=
  ⟨"fqvz", "cn", "",
    [("bytes", .value, "c"), ("lines", .value, "n"), ("quiet", .nothing, "q"),
      ("silent", .nothing, "q"), ("verbose", .nothing, "v"), ("zero-terminated", .nothing, "z")],
    false⟩

/-- The arguments with an old-style count in front spelled out. -/
def withCount (plus : Bool) (arguments : List Text) : List Text :=
  match arguments with
  | (sign :: c :: cs) :: rest =>
    if c.isDigit ∧ (sign = '-' ∨ (plus ∧ sign = '+')) then
      let digits := (c :: cs).takeWhile Char.isDigit
      let letters := (c :: cs).drop digits.length
      let count : Text := if sign = '+' then '+' :: digits else digits
      match letters with
      | [] => ['-', 'n'] :: count :: rest
      | ['c'] => ['-', 'c'] :: count :: rest
      | letters => ['-', 'n'] :: count :: ('-' :: letters) :: rest
    else arguments
  | _ => arguments

/-- The arguments begin with an old-style count, but there are too many of them. -/
def misplacedCount? (arguments : List Text) : Option Char :=
  match arguments with
  | ('-' :: c :: _) :: _ :: _ :: _ => if c.isDigit then some c else none
  | _ => none

/-- The headings of several files: whether there are any, and whether one has been written. -/
def sayHeading (shown first : Bool) (path : Text) : Tool Unit := do
  if shown then
    let name : Text := if path = standardInput then ofString "standard input" else path
    say ((if first then [] else ['\n']) ++ "==> " ++ name ++ " <==\n")

/-- Shows a part of each file under its heading. -/
def showPortions (options : Options) (portion : Nat → Tool (Except Refusal Unit)) :
    Tool Unit := do
  let headed := match options.lastOf ["q", "v"] with
    | some key => key == "v"
    | none => 1 < options.operands.length
  let complaint (path : Text) (refusal : Refusal) : Text :=
    "cannot open " ++ quotedName path ++ " for reading: " ++ ofString refusal.message
  let _ ← foldInputs 1 complaint options.operands true fun first path descriptor => do
    sayHeading headed first path
    complainIf 1 (aboutQuoted "error reading " path) (← portion descriptor)
    return false

/-! ### `head` and `tail` -/

/-- The mark that ends a line. -/
def lineMark (options : Options) : Char :=
  if options.has "z" then '\x00' else '\n'

/-- How much `head` reads at once. -/
def headBlock : Nat := 8192

/-- The text up to the end of some number of lines, how many lines are missing, and the text after
it. -/
def takeLines (mark : Char) : Nat → Nat → Text → Text × Nat × Text
  | _, 0, text => ([], 0, text)
  | 0, n, text => ([], n, text)
  | fuel + 1, n + 1, text =>
    match Source.cut? mark text with
    | none => (text, n + 1, [])
    | some (line, rest) =>
      let (more, missing, rest) := takeLines mark fuel n rest
      (line ++ mark :: more, missing, rest)

/-- Shows the first lines of a source. -/
def headLines (mark : Char) (count descriptor : Nat) : Tool (Except Refusal Unit) :=
  loop (fun missing => do
    if missing = 0 then return .inr (.ok ())
    else
      match ← ask (.read descriptor headBlock) with
      | .ok [] => return .inr (.ok ())
      | .ok block => do
        let (shown, missing, rest) := takeLines mark block.length missing block
        say shown
        if missing = 0 then act (Source.giveBack ⟨descriptor, rest, false⟩)
        return .inl missing
      | .error .interrupted => return .inl missing
      | .error refusal => return .inr (.error refusal))
    (fun _ => pure (.ok ())) count

/-- Shows the first bytes of a source. -/
def headBytes (count descriptor : Nat) : Tool (Except Refusal Unit) :=
  loop (fun missing => do
    if missing = 0 then return .inr (.ok ())
    else
      match ← ask (.read descriptor (min missing headBlock)) with
      | .ok [] => return .inr (.ok ())
      | .ok block => do
        say block
        return .inl (missing - block.length)
      | .error .interrupted => return .inl missing
      | .error refusal => return .inr (.error refusal))
    (fun _ => pure (.ok ())) count

/-- Shows the lines or bytes of a whole text that a choice leaves. -/
def showChosen (descriptor : Nat) (choose : Text → Text) : Tool (Except Refusal Unit) := do
  let (text, outcome) ← act (Act.readAll descriptor)
  say (choose text)
  return outcome

/-- The whole lines of a text, each with the mark of its end if that is there. -/
def wholeLines (mark : Char) (text : Text) : List Text :=
  (linesOf mark (text.length + 1) text).map fun line => line.whole mark

/-- The program `head`. -/
def head (call : Call) : Task :=
  withOptions 1 1 portionSwitches { call with arguments := withCount false call.arguments }
    fun options => do
      let portion ← portion options
      let mark := lineMark options
      showPortions options fun descriptor =>
        match portion.sign, portion.bytes with
        | some '-', true =>
          showChosen descriptor fun text => text.take (text.length - portion.count)
        | some '-', false =>
          showChosen descriptor fun text =>
            let lines := wholeLines mark text
            (lines.take (lines.length - portion.count)).flatten
        | _, true => headBytes portion.count descriptor
        | _, false => headLines mark portion.count descriptor

/-- The program `tail`. -/
def tail (call : Call) : Task :=
  let switches := { portionSwitches with flags := portionSwitches.flags ++ "fF" }
  withOptions 1 1 switches { call with arguments := withCount true call.arguments }
    fun options => do
      match misplacedCount? call.arguments with
      | some digit => fail 1 ("option used in invalid context -- " ++ [digit])
      | none => pure ()
      let portion ← portion options
      let mark := lineMark options
      showPortions options fun descriptor =>
        showChosen descriptor fun text =>
          match portion.sign, portion.bytes with
          | some '+', true => text.drop (portion.count - 1)
          | some '+', false => ((wholeLines mark text).drop (portion.count - 1)).flatten
          | _, true => text.drop (text.length - portion.count)
          | _, false =>
            let lines := wholeLines mark text
            (lines.drop (lines.length - portion.count)).flatten

/-! ### `wc` -/

/-- The counts of a text: lines, words, bytes, and the length of the longest line. -/
structure Counts where
  lines : Nat
  words : Nat
  bytes : Nat
  longest : Nat

/-- No counts yet, of a text that begins. -/
structure Counting where
  counts : Counts
  inWord : Bool
  column : Nat

namespace Counting

/-- What is counted before a text begins. -/
def start : Counting := ⟨⟨0, 0, 0, 0⟩, false, 0⟩

/-- What is counted after one more character. -/
def add (counting : Counting) (c : Char) : Counting :=
  let counts := counting.counts
  let space := isSpaceChar c
  let column :=
    if c = '\t' then counting.column + 8 - counting.column % 8
    else if isPrinted c then counting.column + 1
    else if c = '\n' ∨ c = '\r' ∨ c = '\x0c' then 0
    else counting.column
  ⟨{ lines := if c = '\n' then counts.lines + 1 else counts.lines
     words := if !space && !counting.inWord then counts.words + 1 else counts.words
     bytes := counts.bytes + 1
     longest := max counts.longest column }, !space, column⟩

end Counting

/-- The switches of `wc`. -/
def wcSwitches : Switches :=
  ⟨"clmLw", "", "",
    [("bytes", .nothing, "c"), ("chars", .nothing, "m"), ("lines", .nothing, "l"),
      ("words", .nothing, "w"), ("files0-from", .value, "files0-from"),
      ("max-line-length", .nothing, "L"), ("total", .value, "total")], false⟩

/-- The columns that are asked for. -/
def wcColumns (options : Options) (counts : Counts) : List Nat :=
  let shown (key : String) (count : Nat) : List Nat := if options.has key then [count] else []
  let all := ["c", "l", "m", "L", "w"].all fun key => !options.has key
  if all then [counts.lines, counts.words, counts.bytes]
  else
    shown "l" counts.lines ++ shown "w" counts.words ++ shown "m" counts.bytes ++
      shown "c" counts.bytes ++ shown "L" counts.longest

/-- How wide the columns are. -/
def wcWidth (columns : Nat) (operands : List Text) : Tool Nat := do
  if operands.length ≤ 1 ∧ columns = 1 then return 1
  let infos ← fold (fun infos path => do
    let info ← if path = standardInput then ask (.inspectOpen 0) else ask (.inspect path true)
    return infos ++ [info]) ([] : List (Except Refusal FileInfo)) (inputsOf operands)
  match infos with
  | .error _ :: _ => return 1
  | infos =>
    let found := infos.filterMap Except.toOption
    let sizes := (found.filter fun info => info.kind == .regular).map FileInfo.size
    let total := sizes.foldl (· + ·) 0
    let least := if found.all fun info => info.kind == .regular then 1 else 7
    return max least (decimal total).length

/-- The program `wc`. -/
def wc (call : Call) : Task :=
  withOptions 1 1 wcSwitches call fun options => do
    let columns := wcColumns options
    let width ← wcWidth (columns ⟨0, 0, 0, 0⟩).length options.operands
    let row (counts : Counts) (name : Text) : Text :=
      List.intercalate [' '] ((columns counts).map fun n => padLeft width (decimal n)) ++
        (if name.isEmpty then [] else ' ' :: name) ++ ['\n']
    let only := options.value? "total" == some (ofString "only")
    let total ← foldInputs 1 about options.operands (⟨0, 0, 0, 0⟩ : Counts)
      fun total path descriptor => do
        let (outcome, counting) ← loop (fun counting : Counting => do
          match ← ask (.read descriptor 16384) with
          | .ok [] => return .inr ((.ok () : Except Refusal Unit), counting)
          | .ok block => return .inl (block.foldl Counting.add counting)
          | .error .interrupted => return .inl counting
          | .error refusal => return .inr (.error refusal, counting))
          (fun counting => pure (.ok (), counting)) Counting.start
        complainIf 1 (about path) outcome
        let counts := counting.counts
        if ¬ only then say (row counts (if options.operands.isEmpty then [] else shownName path))
        return ⟨total.lines + counts.lines, total.words + counts.words,
          total.bytes + counts.bytes, max total.longest counts.longest⟩
    let shown := match options.value? "total" with
      | some ['a', 'l', 'w', 'a', 'y', 's'] => true
      | some ['n', 'e', 'v', 'e', 'r'] => false
      | _ => 1 < options.operands.length
    if only then say (row total [])
    else if shown then say (row total (ofString "total"))

/-! ### `tac`, `rev` and `nl` -/

/-- Shows each file after a change. -/
def showChanged (complaint : Text → Refusal → Text) (options : Options) (change : Text → Text) :
    Tool Unit :=
  eachInput 1 complaint options.operands fun path descriptor => do
    let (text, outcome) ← act (Act.readAll descriptor)
    say (change text)
    complainIf 1 (about path) outcome

/-- The program `tac`. -/
def tac (call : Call) : Task :=
  let complaint (path : Text) (refusal : Refusal) : Text :=
    "failed to open " ++ quotedName path ++ " for reading: " ++ ofString refusal.message
  withOptions 1 1 (.letters "br" "s") call fun options =>
    showChanged complaint options fun text => (wholeLines '\n' text).reverse.flatten

/-- The program `rev`. -/
def rev (call : Call) : Task :=
  let complaint (path : Text) (refusal : Refusal) : Text :=
    "cannot open " ++ path ++ ": " ++ refusal.message
  withOptions 1 1 (.letters "0" "") call fun options =>
    showChanged complaint options fun text =>
      (linesOf '\n' (text.length + 1) text).flatMap fun line =>
        line.text.reverse ++ if line.ended then ['\n'] else []

/-- The switches of `nl`. -/
def nlSwitches : Switches :=
  ⟨"p", "bdfhilnsvw", "",
    [("body-numbering", .value, "b"), ("line-increment", .value, "i"),
      ("number-format", .value, "n"), ("number-separator", .value, "s"),
      ("starting-line-number", .value, "v"), ("number-width", .value, "w")], false⟩

/-- The program `nl`. -/
def nl (call : Call) : Task :=
  withOptions 1 1 nlSwitches call fun options => do
    let number (key : String) (fallback : Nat) : Nat :=
      ((options.value? key).bind wholeNumber?).getD fallback
    let width := number "w" 6
    let step := number "i" 1
    let separator := (options.value? "s").getD ['\t']
    let all := options.value? "b" == some ['a']
    let none_ := options.value? "b" == some ['n']
    let layout (n : Nat) : Text :=
      match (options.value? "n").map String.ofList with
      | some "ln" => padRight width (decimal n)
      | some "rz" => List.replicate (width - (decimal n).length) '0' ++ decimal n
      | _ => padLeft width (decimal n)
    let _ ← foldInputs 1 about options.operands (number "v" 1) fun n path descriptor => do
      let (outcome, n) ← eachLine (.ofDescriptor descriptor) '\n' n fun n line => do
        if none_ || (line.text.isEmpty && !all) then
          say (List.replicate (width + separator.length) ' ' ++ line.text ++ ['\n'])
          return n
        else
          say (layout n ++ separator ++ line.text ++ ['\n'])
          return n + step
      complainIf 1 (about path) outcome
      return n

/-! ### `tee` and `yes` -/

/-- The program `tee`. -/
def tee (call : Call) : Task :=
  let switches : Switches := ⟨"aip", "", "",
    [("append", .nothing, "a"), ("ignore-interrupts", .nothing, "i"),
      ("output-error", .maybe, "p")], false⟩
  withOptions 1 1 switches call fun options => do
    let mode : OpenMode := if options.has "a" then .addition else .output
    let outputs ← fold (fun outputs path => do
      match ← ask (.openFile path mode 0o666) with
      | .ok descriptor => return outputs ++ [(path, descriptor)]
      | .error refusal => do
        complain 1 (about path refusal)
        return outputs) ([] : List (Text × Nat)) options.operands
    loop (fun outputs => do
      match ← ask (.read 0 headBlock) with
      | .ok [] => return .inr ()
      | .error .interrupted => return .inl outputs
      | .error refusal => do
        complain 1 ("read error: " ++ refusal.message : String)
        return .inr ()
      | .ok block => do
        let kept ← fold (fun kept (output : Text × Nat) => do
          match ← act (Act.writeAll output.2 block) with
          | .ok () => return kept ++ [output]
          | .error refusal => do
            complain 1 (about output.1 refusal)
            return kept) ([] : List (Text × Nat)) outputs
        if kept.isEmpty then return .inr () else return .inl kept)
      (fun _ => pure ()) ((ofString "standard output", 1) :: outputs)

/-- The program `yes`. -/
def yes (call : Call) : Task :=
  withOptions 1 1 (.letters "" "") call fun options => do
    let words := if options.operands.isEmpty then [['y']] else options.operands
    let line := List.intercalate [' '] words ++ ['\n']
    let block := (List.replicate (8192 / line.length + 1) line).flatten
    loop (fun _ : Unit => do
      writeBlock block
      return (.inl () : Unit ⊕ Unit))
      (fun _ => pure ()) ()

end TaskRunner.Program
