import TaskRunner.Program.Show

/-! The program `tr`, which puts characters in the place of others. -/

namespace TaskRunner.Program

open Tool

/-- A part of a set: characters, a class of letters of one size, or a character that fills up a set.
-/
inductive SetPart where
  | chars (text : Text)
  | named (name : String) (members : Text)
  | filled (c : Char) (count : Option Nat)
deriving DecidableEq, Repr

/-- All bytes in order. -/
def allBytes : Text :=
  (List.range 256).map Char.ofNat

/-- The characters from one to another. -/
def charsFrom (low high : Char) : Text :=
  (List.range (high.toNat + 1 - low.toNat)).map fun n => Char.ofNat (low.toNat + n)

/-- The character behind a backslash, and the text after it. -/
def escapedChar (text : Text) : Char × Text :=
  match text with
  | [] => ('\\', [])
  | c :: rest =>
    let isOctal (c : Char) : Bool := '0' ≤ c && c ≤ '7'
    if isOctal c then
      let digits := (text.take 3).takeWhile isOctal
      let digits := if 255 < digits.foldl (fun n d => 8 * n + (d.toNat - 48)) 0 then digits.take 2
        else digits
      (Char.ofNat (digits.foldl (fun n d => 8 * n + (d.toNat - 48)) 0), text.drop digits.length)
    else
      let plain := ([('a', '\x07'), ('b', '\x08'), ('f', '\x0c'), ('n', '\n'), ('r', '\r'),
        ('t', '\t'), ('v', '\x0b')] : List (Char × Char)).lookup c
      (plain.getD c, rest)

/-- The character at the front of a set, and the text after it. -/
def setChar? : Text → Option (Char × Text)
  | [] => none
  | '\\' :: rest => some (escapedChar rest)
  | c :: rest => some (c, rest)

/-- What stands between brackets and marks at the front of a set, and the text after it. -/
def markedPart? (mark : Char) (text : Text) : Option (Text × Text) :=
  match text with
  | '[' :: c :: rest => if c = mark then go rest else none
  | _ => none
where
  /-- The text up to the mark and the bracket that closes the part. -/
  go : Text → Option (Text × Text)
    | [] => none
    | c :: cs =>
      match c == mark, cs with
      | true, ']' :: rest => some ([], rest)
      | _, _ => (go cs).map fun found => (c :: found.1, found.2)

/-- A character with the number of its copies at the front of a set, and the text after it. -/
def filledPart? (text : Text) : Option (Char × Option Nat × Text) :=
  match text with
  | '[' :: rest =>
    match setChar? rest with
    | some (c, '*' :: rest) =>
      let digits := rest.takeWhile Char.isDigit
      match rest.drop digits.length with
      | ']' :: after =>
        let count := if digits.head? = some '0' then
            digits.foldl (fun n d => 8 * n + (d.toNat - 48)) 0
          else digitsValue digits
        some (c, if count = 0 then none else some count, after)
      | _ => none
    | _ => none
  | _ => none

/-- The parts of a set. -/
def setParts : Nat → Text → Except Text (List SetPart)
  | 0, _ => .ok []
  | _ + 1, [] => .ok []
  | fuel + 1, text =>
    match markedPart? ':' text, markedPart? '=' text, filledPart? text with
    | some (name, rest), _, _ => do
      if name.isEmpty then wrong "missing character class name '[::]'"
      match characterClass? name with
      | none => wrong ("invalid character class " ++ quoted name)
      | some holds =>
        return .named (String.ofList name) (allBytes.filter holds) :: (← setParts fuel rest)
    | none, some (name, rest), _ => do
      match name with
      | [c] => return .chars [c] :: (← setParts fuel rest)
      | [] => wrong "missing equivalence class character '[==]'"
      | name => wrong (name ++ ": equivalence class operand must be a single character")
    | none, none, some (c, count, rest) => return .filled c count :: (← setParts fuel rest)
    | none, none, none =>
      match setChar? text with
      | none => .ok []
      | some (low, rest) =>
        match rest with
        | '-' :: more =>
          match setChar? more with
          | none => return [.chars [low], .chars ['-']]
          | some (high, rest) => do
            if high < low then
              wrong ("range-endpoints of '" ++ visible true low ++ ['-'] ++ visible true high ++
                "' are in reverse collating sequence order")
            return .chars (charsFrom low high) :: (← setParts fuel rest)
        | _ => return .chars [low] :: (← setParts fuel rest)

/-- The parts of the set that an operand stands for. -/
def setOf (operand : Text) : Except Text (List SetPart) :=
  setParts (operand.length + 1) operand

/-- The characters of a part. -/
def SetPart.members : SetPart → Text
  | .chars text => text
  | .named _ members => members
  | .filled c count => List.replicate (count.getD 0) c

/-- The characters of a set. -/
def membersOf (parts : List SetPart) : Text :=
  parts.flatMap SetPart.members

/-- The characters of a set that is to have a length, which a part may fill up. -/
def membersUpTo (length : Nat) (parts : List SetPart) : Text :=
  let missing := length - (membersOf parts).length
  let rec go : List SetPart → Bool → Text
    | [], _ => []
    | .filled c none :: rest, false => List.replicate missing c ++ go rest true
    | part :: rest, done => part.members ++ go rest done
  go parts false

/-- The part is one of the two classes of letters. -/
def SetPart.isCase : SetPart → Bool
  | .named name _ => name == "lower" || name == "upper"
  | _ => false

/-- Where the classes of letters stand in a set. -/
def casePlaces (parts : List SetPart) : List Nat :=
  go 0 parts
where
  /-- The places of the classes of letters, from a place on. -/
  go : Nat → List SetPart → List Nat
    | _, [] => []
    | n, part :: rest =>
      if part.isCase then n :: go (n + part.members.length) rest
      else go (n + part.members.length) rest

/-- How bytes are exchanged: the pairs of those that change. -/
def exchange (truncates complemented : Bool) (first second : List SetPart) : Except Text Text := do
  if second.any fun part =>
      match part with
      | .named _ _ => !part.isCase
      | _ => false then
    wrong (ofString "when translating, the only character classes that may appear in\n" ++
      ofString "string2 are 'upper' and 'lower'")
  let from_ := if complemented then
      let members := membersOf first
      allBytes.filter fun c => !members.contains c
    else membersOf first
  let aligned := (casePlaces second).all fun place => (casePlaces first).contains place
  if ¬ aligned then wrong "misaligned [:upper:] and/or [:lower:] construct"
  let target := membersUpTo from_.length second
  match target.getLast? with
  | none =>
    if truncates then return allBytes
    else wrong "when not truncating set1, string2 must be non-empty"
  | some last =>
    let pairs := from_.zipIdx.filterMap fun (c, n) =>
      match target[n]? with
      | some image => some (c, image)
      | none => if truncates then none else some (c, last)
    let table := pairs.foldl (fun table (c, image) => table.set! c.toNat image) allBytes.toArray
    return table.toList

/-- A text in which equal neighbours that are marked stand once.  `last` is the character before. -/
def squeezed (marked : Array Bool) (last : Option Char) (text : Text) : Text :=
  (text.foldl (fun (found : List Char × Option Char) c =>
    if found.2 = some c ∧ marked.getD c.toNat false then found else (c :: found.1, some c))
    ([], last)).1.reverse

/-- The bytes that are marked. -/
def marks (complemented : Bool) (members : Text) : Array Bool :=
  members.foldl (fun table c => table.set! c.toNat (!complemented))
    (Array.replicate 256 complemented)

/-- The switches of `tr`. -/
def trSwitches : Switches :=
  ⟨"cCdst", "", "",
    [("complement", .nothing, "c"), ("delete", .nothing, "d"), ("squeeze-repeats", .nothing, "s"),
      ("truncate-set1", .nothing, "t")], true⟩

/-- What `tr` does with a block: `last` is the last character that it has written. -/
structure Translation where
  kept : Array Bool
  images : Array Char
  squeezes : Array Bool

/-- What the operands and switches of `tr` ask for. -/
def translation (options : Options) : Except Text Translation := do
  let complemented := options.has "c" || options.has "C"
  let none_ := Array.replicate 256 false
  let all := Array.replicate 256 true
  match options.operands with
  | [] => wrong []
  | [first] =>
    let members := marks complemented (membersOf (← setOf first))
    if options.has "d" then return ⟨members.map not, allBytes.toArray, none_⟩
    else return ⟨all, allBytes.toArray, members⟩
  | first :: second :: _ =>
    let first ← setOf first
    let second ← setOf second
    if options.has "d" then
      return ⟨(marks complemented (membersOf first)).map not, allBytes.toArray,
        marks false (membersOf second)⟩
    else
      let squeezes := if options.has "s" then marks false (membersUpTo 0 second) else none_
      let images ← exchange (options.has "t") complemented first second
      return ⟨all, images.toArray, squeezes⟩

/-- Complains about the number of operands of `tr`. -/
def checkOperands (options : Options) : Tool Unit := do
  let deletes := options.has "d"
  let squeezes := options.has "s"
  let wanted := if deletes == squeezes then 2 else 1
  let most := if deletes && !squeezes then 1 else 2
  let advise (message advice : Text) : Tool Unit := do
    warn message
    if ¬ advice.isEmpty then Tool.writeError (advice ++ ['\n'])
    let name := (← get).name
    Tool.writeError ("Try '" ++ name ++ " --help' for more information.\n")
    setStatus 1
    finish 1
  match options.operands with
  | [] => misuse 1 "missing operand"
  | operands =>
    if operands.length < wanted then
      advise ("missing operand after " ++ quoted (operands.getLastD []))
        (if deletes then "Two strings must be given when both deleting and squeezing repeats."
          else "Two strings must be given when translating.")
    else if most < operands.length then
      advise ("extra operand " ++ quoted (operands.getD most []))
        (if operands.length = 2 then
          "Only one string may be given when deleting without squeezing repeats."
        else [])

/-- The program `tr`. -/
def tr (call : Call) : Task :=
  withOptions 1 1 trSwitches call fun options => do
    checkOperands options
    match translation options with
    | .error message => fail 1 message
    | .ok found => do
      let _ ← loop (fun last : Option Char => do
        match ← ask (.read 0 headBlock) with
        | .ok [] => return .inr ()
        | .error .interrupted => return .inl last
        | .error refusal => fail 1 ("read error: " ++ refusal.message : String)
        | .ok block => do
          let kept := block.filterMap fun c =>
            if found.kept.getD c.toNat true then some (found.images.getD c.toNat c) else none
          let written := squeezed found.squeezes last kept
          say written
          return .inl (written.getLast?.or last))
        (fun _ => pure ()) none

end TaskRunner.Program
