import TaskRunner.Program.Show

/-! Programs that work on the columns and fields of lines, and on neighbouring lines. -/

namespace TaskRunner.Program

open Tool

/-! ### `cut` -/

/-- A stretch of positions, from one on, which may have no end. -/
structure Stretch where
  low : Nat
  high : Option Nat

namespace Stretch

/-- A position lies in the stretch. -/
def holds (stretch : Stretch) (n : Nat) : Bool :=
  stretch.low ≤ n && stretch.high.all (n ≤ ·)

end Stretch

/-- What the positions in a list are, for complaints about it. -/
structure Positions where
  what : String
  value : String
  range : String

/-- Fields. -/
def fieldPositions : Positions := ⟨"fields", "field value", "field range"⟩

/-- Bytes or characters. -/
def bytePositions : Positions :=
  ⟨"byte/character positions", "byte/character position", "byte or character range"⟩

/-- The parts of a text between separators. -/
def splitOn (separators : Char → Bool) (text : Text) : List Text :=
  text.foldr (fun c parts =>
    if separators c then [] :: parts
    else
      match parts with
      | [] => [[c]]
      | part :: rest => (c :: part) :: rest) [[]]

/-- A part of a list that is being read: the number before a dash, whether there was a dash, and the
number after it or without it. -/
structure Stretching where
  low : Option Nat
  dash : Bool
  number : Option Nat

/-- The stretch that a part of a list stands for. -/
def Stretching.stretch (positions : Positions) (part : Stretching) : Except Text Stretch :=
  match part.dash, part.low, part.number with
  | true, none, none => wrong "invalid range with no endpoint: -"
  | true, low, none => .ok ⟨low.getD 1, none⟩
  | true, low, some high =>
    if high < low.getD 1 then wrong "invalid decreasing range"
    else .ok ⟨low.getD 1, some high⟩
  | false, _, number =>
    if number.getD 0 = 0 then wrong (positions.what ++ " are numbered from 1" : String)
    else .ok ⟨number.getD 0, number⟩

/-- The stretches in what is left of a list. -/
def readStretches (positions : Positions) : Stretching → Text → Except Text (List Stretch)
  | part, [] => do return [← part.stretch positions]
  | part, c :: cs =>
    if c = '-' then
      if part.dash then wrong ("invalid " ++ positions.range : String)
      else if part.number = some 0 then
        wrong (positions.what ++ " are numbered from 1" : String)
      else readStretches positions ⟨part.number, true, none⟩ cs
    else if c = ',' ∨ isBlankChar c then do
      let stretch ← part.stretch positions
      return stretch :: (← readStretches positions ⟨none, false, none⟩ cs)
    else if c.isDigit then
      let n := 10 * part.number.getD 0 + (c.toNat - '0'.toNat)
      readStretches positions { part with number := some n } cs
    else wrong ("invalid " ++ positions.value ++ " " ++ quoted (c :: cs))

/-- The stretches in a list. -/
def stretchesOf (positions : Positions) (list : Text) : Except Text (List Stretch) :=
  readStretches positions ⟨none, false, none⟩ list

/-- The switches of `cut`. -/
def cutSwitches : Switches :=
  ⟨"nsz", "bcdf", "",
    [("bytes", .value, "b"), ("characters", .value, "c"), ("delimiter", .value, "d"),
      ("fields", .value, "f"), ("only-delimited", .nothing, "s"),
      ("output-delimiter", .value, "output-delimiter"),
      ("complement", .nothing, "complement"), ("zero-terminated", .nothing, "z")], false⟩

/-- The chosen bytes of a line, with a separator between stretches that do not meet. -/
def cutBytes (wanted : Nat → Bool) (starts : Nat → Bool) (separator : Text) (line : Text) : Text :=
  (line.zipIdx 1).flatMap fun (c, n) =>
    if wanted n then (if starts n then separator ++ [c] else [c]) else []

/-- The program `cut`. -/
def cut (call : Call) : Task :=
  withOptions 1 1 cutSwitches call fun options => do
    let lists := options.given.filter fun entry => ["b", "c", "f"].contains entry.1
    let list ← match lists with
      | [] => misuse 1 "you must specify a list of bytes, characters, or fields"
      | [entry] => pure entry
      | _ => misuse 1 "only one list may be specified"
    let fields := list.1 == "f"
    let delimiter ← match options.value? "d" with
      | none => pure '\t'
      | some [] => pure '\x00'
      | some [c] => pure c
      | some _ => misuse 1 "the delimiter must be a single character"
    if ¬ fields ∧ (options.value? "d").isSome then
      misuse 1 "an input delimiter may be specified only when operating on fields"
    if ¬ fields ∧ options.has "s" then
      misuse 1 "suppressing non-delimited lines makes sense\n\tonly when operating on fields"
    let positions := if fields then fieldPositions else bytePositions
    let stretches ← match stretchesOf positions (list.2.getD []) with
      | .ok stretches => pure stretches
      | .error message => misuse 1 message
    let complemented := options.has "complement"
    let wanted (n : Nat) : Bool := (stretches.any fun stretch => stretch.holds n) != complemented
    let output := options.value? "output-delimiter"
    let mark := lineMark options
    eachInput 1 about options.operands fun path descriptor => do
      let (outcome, _) ← eachLine (.ofDescriptor descriptor) mark () fun _ line => do
        if fields then
          let parts := splitOn (· == delimiter) line.text
          if parts.length = 1 then
            if ¬ options.has "s" then say (line.text ++ [mark])
          else
            let kept := ((parts.zipIdx 1).filter fun entry => wanted entry.2).map Prod.fst
            say (List.intercalate (output.getD [delimiter]) kept ++ [mark])
        else
          let starts (n : Nat) : Bool :=
            output.isSome && 1 < n &&
              (stretches.any fun stretch => stretch.low == n && !stretch.holds (n - 1)) &&
              !wanted (n - 1) && (List.range n).any fun m => 0 < m && wanted m
          say (cutBytes wanted starts (output.getD []) line.text ++ [mark])
      complainIf 1 (about path) outcome

/-! ### `uniq` -/

/-- The switches of `uniq`. -/
def uniqSwitches : Switches :=
  ⟨"cdDiuz", "fsw", "",
    [("count", .nothing, "c"), ("repeated", .nothing, "d"), ("all-repeated", .maybe, "D"),
      ("ignore-case", .nothing, "i"), ("unique", .nothing, "u"), ("skip-fields", .value, "f"),
      ("skip-chars", .value, "s"), ("check-chars", .value, "w"),
      ("zero-terminated", .nothing, "z")], false⟩

/-- A text without the fields at its front. -/
def withoutFields : Nat → Text → Text
  | 0, text => text
  | n + 1, text =>
    withoutFields n ((text.dropWhile isBlankChar).dropWhile fun c => !isBlankChar c)

/-- Complains about a count that is none. -/
def countOf (options : Options) (key : String) (what : String) (fallback : Nat) : Tool Nat := do
  match options.value? key with
  | none => return fallback
  | some text =>
    match wholeNumber? text with
    | some n => return n
    | none => fail 1 (text ++ ": invalid number of " ++ what)

/-- The program `uniq`. -/
def uniq (call : Call) : Task :=
  withOptions 1 1 uniqSwitches call fun options => do
    match options.operands with
    | _ :: _ :: extra :: _ => misuse 1 ("extra operand " ++ quoted extra)
    | _ => pure ()
    let fields ← countOf options "f" "fields to skip" 0
    let chars ← countOf options "s" "bytes to skip" 0
    let width ← match options.value? "w" with
      | none => pure none
      | some _ => do pure (some (← countOf options "w" "bytes to compare" 0))
    let mark := lineMark options
    let key (line : Text) : Text :=
      let rest := (withoutFields fields line).drop chars
      let rest := match width with
        | some n => rest.take n
        | none => rest
      if options.has "i" then rest.map Char.toUpper else rest
    let descriptor ← match options.operands with
      | [] => pure 0
      | path :: _ =>
        if path = standardInput then pure 0
        else
          match ← openInput path with
          | .ok descriptor => pure descriptor
          | .error refusal => fail 1 (about path refusal)
    match options.operands[1]? with
    | some path =>
      if path ≠ standardInput then
        match ← ask (.openFile path .output 0o666) with
        | .error refusal => fail 1 (about path refusal)
        | .ok output => do
          let _ ← ask (.copy output 1)
          let _ ← ask (.close output)
    | none => pure ()
    let show_ (first : Text) (count : Nat) : Tool Unit := do
      if (options.has "d" && count < 2) || (options.has "u" && 1 < count) then return
      else
        let front := if options.has "c" then padLeft 7 (decimal count) ++ [' '] else []
        say (front ++ first ++ [mark])
    let (outcome, last) ← eachLine (.ofDescriptor descriptor) mark (none : Option (List Text))
      fun group line => do
        match group with
        | none => return some [line.text]
        | some lines =>
          if key (lines.getLastD []) = key line.text then return some (line.text :: lines)
          else
            if options.has "D" then
              if 1 < lines.length then each (fun text => say (text ++ [mark])) lines.reverse
            else show_ (lines.getLastD []) lines.length
            return some [line.text]
    match last with
    | none => pure ()
    | some lines =>
      if options.has "D" then
        if 1 < lines.length then each (fun text => say (text ++ [mark])) lines.reverse
      else show_ (lines.getLastD []) lines.length
    complainIf 1 (aboutQuoted "error reading " (options.operands.headD standardInput)) outcome

/-! ### `paste` and `comm` -/

/-- The delimiters of `paste`, of which an empty one is nothing. -/
def pasteDelimiters : Nat → Text → List Text
  | 0, _ => []
  | _ + 1, [] => []
  | fuel + 1, '\\' :: c :: cs =>
    (match c with
      | '0' => []
      | 'n' => ['\n']
      | 't' => ['\t']
      | c => [c]) :: pasteDelimiters fuel cs
  | fuel + 1, c :: cs => [c] :: pasteDelimiters fuel cs

/-- The lines of texts side by side. -/
def besides (delimiters : List Text) : Nat → List (List Text) → List Text
  | 0, _ => []
  | fuel + 1, files =>
    if files.all List.isEmpty then []
    else
      let row := (files.zipIdx).flatMap fun (file, n) =>
        (if n = 0 then [] else delimiters.getD ((n - 1) % max 1 delimiters.length) []) ++
          file.headD []
      row :: besides delimiters fuel (files.map List.tail)

/-- Lines in a row. -/
def inRow (delimiters : List Text) (lines : List Text) : Text :=
  (lines.zipIdx).flatMap fun (line, n) =>
    (if n = 0 then [] else delimiters.getD ((n - 1) % max 1 delimiters.length) []) ++ line

/-- The texts of the lines that are left to read. -/
def linesIn (descriptor : Nat) : Tool (List Text) := do
  let (text, _) ← act (Act.readAll descriptor)
  return (linesOf '\n' (text.length + 1) text).map Line.text

/-- Lines dealt out to some number of columns, of which the last ones may be shorter. -/
def dealt (columns : Nat) (lines : List Text) (column : Nat) : List Text :=
  (lines.zipIdx.filter fun entry => entry.2 % columns == column).map Prod.fst

/-- The program `paste`. -/
def paste (call : Call) : Task :=
  let switches : Switches := ⟨"sz", "d", "",
    [("delimiters", .value, "d"), ("serial", .nothing, "s"), ("zero-terminated", .nothing, "z")],
    false⟩
  withOptions 1 1 switches call fun options => do
    let list := (options.value? "d").getD ['\t']
    let delimiters := pasteDelimiters (list.length + 1) list
    let inputs := inputsOf options.operands
    let files ← fold (fun files path => do
      if path = standardInput then
        let lines ← if files.any (fun file => file.1 == standardInput) then pure [] else linesIn 0
        return files ++ [(path, lines)]
      else
        match ← openInput path with
        | .error refusal => do
          complain 1 (about path refusal)
          if ¬ options.has "s" then finish 1
          return files
        | .ok descriptor => return files ++ [(path, ← linesIn descriptor)])
      ([] : List (Text × List Text)) inputs
    if options.has "s" then
      each (fun (file : Text × List Text) => sayLine (inRow delimiters file.2)) files
    else
      let shared := (files.filter fun file => file.1 == standardInput)
      let columns := (files.zipIdx).map fun (file, n) =>
        if file.1 = standardInput then
          let column := ((files.take n).filter fun file => file.1 == standardInput).length
          dealt shared.length ((shared.head?.map Prod.snd).getD []) column
        else file.2
      let most := (columns.map List.length).foldl max 0
      each sayLine (besides delimiters most columns)

/-- What `comm` has to say: a line in a column, or that the lines of a file are out of order. -/
inductive Comparison where
  | line (column : Nat) (text : Text)
  | disorder (file : Nat)
deriving DecidableEq, Repr

/-- What is to be said of the order of a file when its next line is met.  It is said once, and only
after lines that are not in both files. -/
def disorderOf (checked : Bool) (file : Nat) (told : List Nat) (line : Text) (rest : List Text) :
    List Comparison :=
  if checked ∧ ¬ told.contains file ∧ rest.head?.any (fun next => next < line) then
    [.disorder file]
  else []

/-- The lines of two files side by side.  `strict` says whether order counts from the beginning, and
`told` which files were found out of order. -/
def merged : Nat → Bool → List Nat → List Text → List Text → List Comparison
  | 0, _, _, _, _ => []
  | fuel + 1, strict, told, first, second =>
    let goOn (strict : Bool) (shown : Comparison) (news : List Comparison)
        (first second : List Text) : List Comparison :=
      let found := news.filterMap fun piece =>
        match piece with
        | .disorder file => some file
        | .line _ _ => none
      shown :: news ++ merged fuel strict (found ++ told) first second
    match first, second with
    | [], [] => []
    | [], b :: second =>
      goOn true (.line 2 b) (disorderOf true 2 told b second) [] second
    | a :: first, [] =>
      goOn true (.line 1 a) (disorderOf true 1 told a first) first []
    | a :: first, b :: second =>
      if a = b then
        goOn strict (.line 3 a)
          (disorderOf strict 1 told a first ++ disorderOf strict 2 told b second) first second
      else if a < b then
        goOn true (.line 1 a) (disorderOf true 1 told a first) first (b :: second)
      else goOn true (.line 2 b) (disorderOf true 2 told b second) (a :: first) second

/-- The program `comm`. -/
def comm (call : Call) : Task :=
  let switches : Switches := ⟨"123z", "", "",
    [("check-order", .nothing, "check-order"), ("nocheck-order", .nothing, "nocheck-order"),
      ("output-delimiter", .value, "output-delimiter"), ("total", .nothing, "total"),
      ("zero-terminated", .nothing, "z")], false⟩
  withOptions 1 1 switches call fun options => do
    let file (path : Text) : Tool (List Text) := do
      if path = standardInput then linesIn 0
      else
        match ← openInput path with
        | .error refusal => fail 1 (about path refusal)
        | .ok descriptor => linesIn descriptor
    match options.operands with
    | [] => misuse 1 "missing operand"
    | [only] => misuse 1 ("missing operand after " ++ quoted only)
    | _ :: _ :: extra :: _ => misuse 1 ("extra operand " ++ quoted extra)
    | [first, second] => do
      let a ← file first
      let b ← file second
      let separator := (options.value? "output-delimiter").getD ['\t']
      let shown (column : Nat) : Bool := !options.has (toString column)
      let indent (column : Nat) : Text :=
        (((List.range column).filter fun n => 0 < n && shown n).map fun _ => separator).flatten
      let pieces := merged (a.length + b.length + 1) (options.has "check-order") [] a b
      each (fun (piece : Comparison) => do
        match piece with
        | .line column text => if shown column then sayLine (indent column ++ text)
        | .disorder file =>
          if ¬ options.has "nocheck-order" then
            complain 1 ("file " ++ toString file ++ " is not in sorted order" : String)
            if options.has "check-order" then finish 1) pieces
      if options.has "total" then
        let count (column : Nat) : Text :=
          decimal (pieces.filter fun piece =>
            match piece with
            | .line n _ => n == column
            | .disorder _ => false).length
        sayLine (count 1 ++ separator ++ count 2 ++ separator ++ count 3 ++ separator ++ "total")
      if (← get).status ≠ 0 then warn "input is not in sorted order"

/-! ### `fold`, `expand` and `unexpand` -/

/-- The column after a character. -/
def columnAfter (bytes : Bool) (column : Nat) (c : Char) : Nat :=
  if bytes then column + 1
  else if c = '\t' then column + 8 - column % 8
  else if c = '\x08' then column - 1
  else if c = '\r' then 0
  else column + 1

/-- A line in pieces that are not wider than allowed. -/
def folded (bytes spaces : Bool) (width : Nat) : Nat → Text → List Text
  | 0, _ => []
  | fuel + 1, text =>
    let rec fitting : Nat → Text → Nat
      | _, [] => 0
      | column, c :: cs =>
        let after := columnAfter bytes column c
        if width < after then 0 else 1 + fitting after cs
    let count := max 1 (fitting 0 text)
    if text.length ≤ count then [text]
    else
      let piece := text.take count
      let kept := (piece.reverse.dropWhile fun c => !isBlankChar c).reverse
      let piece := if spaces && !kept.isEmpty then kept else piece
      piece :: folded bytes spaces width fuel (text.drop piece.length)

/-- The program `fold`. -/
def fold_ (call : Call) : Task :=
  let switches : Switches := ⟨"bs", "w", "",
    [("bytes", .nothing, "b"), ("spaces", .nothing, "s"), ("width", .value, "w")], false⟩
  let arguments := call.arguments.map fun argument =>
    match argument with
    | '-' :: c :: cs => if c.isDigit then '-' :: 'w' :: c :: cs else argument
    | argument => argument
  withOptions 1 1 switches { call with arguments } fun options => do
    let width := ((options.value? "w").bind wholeNumber?).getD 80
    if width = 0 ∨ ((options.value? "w").any fun text => (wholeNumber? text).isNone) then
      fail 1 ("invalid number of columns: " ++ quoted ((options.value? "w").getD []))
    eachInput 1 about options.operands fun path descriptor => do
      let (outcome, _) ← eachLine (.ofDescriptor descriptor) '\n' () fun _ line => do
        let pieces :=
          folded (options.has "b") (options.has "s") width (line.text.length + 1) line.text
        say (List.intercalate ['\n'] pieces ++ if line.ended then ['\n'] else [])
      complainIf 1 (about path) outcome

/-- A line with spaces in place of its tabs. -/
def expanded (stop : Nat) (text : Text) : Text :=
  (text.foldl (fun (found : List Char × Nat) c =>
    if c = '\t' then
      let count := stop - found.2 % stop
      (List.replicate count ' ' ++ found.1, found.2 + count)
    else (c :: found.1, found.2 + 1)) ([], 0)).1.reverse

/-- The blanks that lead to a column: tabs as far as they go, and spaces. -/
def blanksTo (stop from_ end_ : Nat) : Text :=
  let tabs := end_ / stop - from_ / stop
  if tabs = 0 then List.replicate (end_ - from_) ' '
  else List.replicate tabs '\t' ++ List.replicate (end_ % stop) ' '

/-- A line with tabs in place of the blanks at its front. -/
def unexpanded (stop : Nat) (text : Text) : Text :=
  let blanks := text.takeWhile isBlankChar
  let width := (expanded stop blanks).length
  blanksTo stop 0 width ++ text.drop blanks.length

/-- A program that changes each line by itself. -/
def changeLines (change : Nat → Text → Text) (call : Call) : Task :=
  let switches : Switches := ⟨"ai", "t", "",
    [("all", .nothing, "a"), ("initial", .nothing, "i"), ("tabs", .value, "t")], false⟩
  withOptions 1 1 switches call fun options => do
    let stop := max 1 (((options.value? "t").bind wholeNumber?).getD 8)
    eachInput 1 about options.operands fun path descriptor => do
      let (outcome, _) ← eachLine (.ofDescriptor descriptor) '\n' () fun _ line =>
        say (change stop line.text ++ if line.ended then ['\n'] else [])
      complainIf 1 (about path) outcome

/-- The program `expand`. -/
def expand : Call → Task := changeLines expanded

/-- The program `unexpand`. -/
def unexpand : Call → Task := changeLines unexpanded

end TaskRunner.Program
