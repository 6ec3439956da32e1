import TaskRunner.Program.Show
import TaskRunner.Text.Split

/-! The program `split`, which cuts a text into files. -/

namespace TaskRunner.Program

open Tool

/-- The way in which a number of parts are made: of as many bytes each, of whole lines, or of lines
dealt out in turn. -/
inductive Share where
  | bytes
  | lines
  | turns
deriving DecidableEq, Repr

/-- How a text is cut. -/
inductive Cut where
  | lines (count : Nat)
  | bytes (count : Nat)
  /-- Whole lines of so many bytes together at most. -/
  | lineBytes (count : Nat)
  /-- So many parts, of which only one may be wanted. -/
  | parts (share : Share) (which : Option Nat) (count : Nat)
deriving DecidableEq, Repr

/-- The lines of a text with their ends. -/
def markedLines (mark : Char) (text : Text) : List Text :=
  (linesOf mark (text.length + 1) text).map (·.whole mark)

/-- A list in pieces of some length. -/
def pieces {α : Type} (size : Nat) : Nat → List α → List (List α)
  | 0, _ => []
  | _ + 1, [] => []
  | fuel + 1, items => items.take size :: pieces size fuel (items.drop size)

/-- Lines put together as long as they have not too many bytes.  A line that has too many is cut. -/
def linesWithin (size : Nat) : Text → List Text → List Text
  | gathered, [] => if gathered.isEmpty then [] else [gathered]
  | gathered, line :: lines =>
    if gathered.length + line.length ≤ size then linesWithin size (gathered ++ line) lines
    else
      let cut := pieces size (line.length + 1) line
      let done := if gathered.isEmpty then [] else [gathered]
      done ++ cut.dropLast ++ linesWithin size (cut.getLastD []) lines

/-- How many bytes stand before the end of a part. -/
def partEnd (size count n : Nat) : Nat :=
  n * (size / count) + min n (size % count)

/-- A text in parts of whole lines, each up to the end of the line in which its share of the bytes
ends. -/
def lineParts (mark : Char) (size count : Nat) : Nat → Nat → Nat → Text → List Text
  | 0, _, _, _ => []
  | fuel + 1, n, written, text =>
    let stop := partEnd size count n
    if stop ≤ written then [] :: lineParts mark size count fuel (n + 1) written text
    else
      let least := stop - 1 - written
      let rest := (text.drop least).dropWhile (· != mark)
      let taken := text.take (text.length - rest.length + 1)
      taken :: lineParts mark size count fuel (n + 1) (written + taken.length)
        (text.drop taken.length)

/-- The members of a list at every so many places, from one on. -/
def everyNth {α : Type} (count n : Nat) (items : List α) : List α :=
  (items.zip (List.range items.length)).filterMap fun (item, i) =>
    if i % count = n then some item else none

/-- The parts of a text. -/
def Cut.cutUp (cut : Cut) (mark : Char) (text : Text) : List Text :=
  match cut with
  | .lines count =>
    let lines := markedLines mark text
    (pieces count (lines.length + 1) lines).map List.flatten
  | .bytes count => pieces count (text.length + 1) text
  | .lineBytes count => linesWithin count [] (markedLines mark text)
  | .parts share which count =>
    let all := match share with
      | .bytes =>
        (List.range count).map fun n =>
          let start := partEnd text.length count n
          (text.drop start).take (partEnd text.length count (n + 1) - start)
      | .lines => lineParts mark text.length count count 1 0 text
      | .turns =>
        let lines := markedLines mark text
        (List.range count).map fun n => (everyNth count n lines).flatten
    match which with
    | none => all
    | some n => [all.getD (n - 1) []]

/-! ### Names -/

/-- How files are named: what stands in front and behind, the characters between, how many of them
there are, where counting begins, and whether there may be more of them. -/
structure Naming where
  front : Text
  back : Text
  digits : Text
  width : Nat
  first : Nat
  grows : Bool

namespace Naming

/-- A number in digits of some kind. -/
def inDigits (digits : Text) : Nat → Nat → Text
  | 0, _ => []
  | width + 1, n =>
    inDigits digits width (n / digits.length) ++ [digits.getD (n % digits.length) '0']

/-- The characters that stand for a number when there may be more of them.  The last digit in front
says that there are more. -/
def growing (digits : Text) : Nat → Nat → Nat → Text
  | 0, width, n => inDigits digits width n
  | fuel + 1, width, n =>
    let room := (digits.length - 1) * Nat.pow digits.length (width - 1)
    if n < room then inDigits digits width n
    else digits.getLastD '0' :: growing digits fuel (width + 1) (n - room)

/-- The name of a file, if there are names left. -/
def name? (naming : Naming) (n : Nat) : Option Text :=
  if naming.grows then
    some (naming.front ++ growing naming.digits (n + 1) naming.width n ++ naming.back)
  else
    let n := n + naming.first
    if n < Nat.pow naming.digits.length naming.width then
      some (naming.front ++ inDigits naming.digits naming.width n ++ naming.back)
    else none

/-- How many characters are needed to tell so many files apart. -/
def neededWidth (base count : Nat) : Nat :=
  ((List.range (count + 1)).find? fun width => count ≤ Nat.pow base width).getD 1

end Naming

/-! ### The program -/

/-- The number of parts that is asked for. -/
def chunksOf (text : Text) : Tool Cut := do
  let number (text : Text) : Tool Nat := do
    match count? text with
    | some 0 => fail 1 ("invalid number of chunks: " ++ quoted text)
    | some n => return n
    | none => fail 1 ("invalid number of chunks: " ++ quoted text)
  let (share, rest) : Share × Text := match text with
    | 'l' :: '/' :: rest => (.lines, rest)
    | 'r' :: '/' :: rest => (.turns, rest)
    | rest => (.bytes, rest)
  match splitAt '/' rest with
  | [which, count] => do
    let count ← number count
    match count? which with
    | some n =>
      if 1 ≤ n ∧ n ≤ count then return .parts share (some n) count
      else fail 1 ("invalid chunk number: " ++ quoted which)
    | none => fail 1 ("invalid chunk number: " ++ quoted which)
  | _ => return .parts share none (← number rest)

/-- The cut that switches ask for. -/
def cutOf (options : Options) : Tool Cut := do
  let chosen := options.given.filter fun entry => ["l", "b", "C", "n"].contains entry.1
  let counted (what : String) (value : Text) : Tool Nat := do
    match count? value with
    | some 0 => fail 1 ("invalid number of " ++ what ++ ": " ++ quoted value)
    | some n => return n
    | none => fail 1 ("invalid number of " ++ what ++ ": " ++ quoted value)
  match chosen with
  | [] => return .lines 1000
  | [(key, value)] => do
    let value := value.getD []
    match key with
    | "l" => return .lines (← counted "lines" value)
    | "b" => return .bytes (← counted "bytes" value)
    | "C" => return .lineBytes (← counted "lines" value)
    | _ => chunksOf value
  | _ => misuse 1 "cannot split in more than one way"

/-- The names that switches ask for. -/
def namingOf (options : Options) (cut : Cut) (front : Text) : Tool Naming := do
  let back := (options.value? "additional-suffix").getD []
  if back.contains '/' then
    misuse 1 ("invalid suffix " ++ quoted back ++ ", contains directory separator")
  let width ← match options.value? "a" with
    | none => pure 0
    | some text =>
      match wholeNumber? text with
      | some n => pure n
      | none => fail 1 ("invalid suffix length: " ++ quoted text)
  let kind := options.lastOf ["d", "x"]
  let digits : Text := match kind with
    | some "d" => "0123456789"
    | some _ => "0123456789abcdef"
    | none => "abcdefghijklmnopqrstuvwxyz"
  let start ← match kind.bind options.value? with
    | none => pure none
    | some text =>
      match wholeNumber? text with
      | some n => pure (some n)
      | none => fail 1 ((text ++ ": invalid start value for numerical suffix" : Text))
  let first := start.getD 0
  match cut with
  | .parts _ _ count =>
    let needed := max 2 (Naming.neededWidth digits.length (count + first))
    return ⟨front, back, digits, if width = 0 then needed else width, first, false⟩
  | _ =>
    let grows := width == 0 && start.isNone
    return ⟨front, back, digits, if width = 0 then 2 else width, first, grows⟩

/-- Writes parts to files. -/
def writeParts (naming : Naming) (options : Options) : Nat → List Text → Tool Unit
  | _, [] => return
  | n, part :: parts => do
    if part.isEmpty ∧ options.has "e" then writeParts naming options n parts
    else
      match naming.name? n with
      | none => fail 1 "output file suffixes exhausted"
      | some name => do
        if options.has "verbose" then sayLine ("creating file " ++ quotedName name)
        match ← ask (.openFile name .output 438) with
        | .error refusal => fail 1 (about name refusal)
        | .ok descriptor => do
          let _ ← act (Act.writeAll descriptor part)
          let _ ← ask (.close descriptor)
        writeParts naming options (n + 1) parts

/-- The arguments with an old-style number of lines spelled out. -/
def withLines : List Text → List Text
  | [] => []
  | argument :: rest =>
    match argument with
    | '-' :: c :: cs =>
      if (c :: cs).all Char.isDigit then ['-', 'l'] :: (c :: cs) :: withLines rest
      else if c = '-' ∧ cs.isEmpty then argument :: rest
      else argument :: withLines rest
    | argument => argument :: withLines rest

/-- The program `split`. -/
def split (call : Call) : Task :=
  let switches : Switches :=
    ⟨"deux", "abClnt", "",
      [("bytes", .value, "b"), ("lines", .value, "l"), ("line-bytes", .value, "C"),
        ("number", .value, "n"), ("elide-empty-files", .nothing, "e"),
        ("unbuffered", .nothing, "u"), ("suffix-length", .value, "a"),
        ("additional-suffix", .value, "additional-suffix"), ("numeric-suffixes", .maybe, "d"),
        ("hex-suffixes", .maybe, "x"), ("separator", .value, "t"),
        ("verbose", .nothing, "verbose")], false⟩
  withOptions 1 1 switches { call with arguments := withLines call.arguments } fun options => do
    let cut ← cutOf options
    let (path, front) ← match options.operands with
      | [] => pure (standardInput, ofString "x")
      | [path] => pure (path, ofString "x")
      | [path, front] => pure (path, front)
      | _ :: _ :: extra :: _ => misuse 1 ("extra operand " ++ quoted extra)
    let naming ← namingOf options cut front
    let mark := match options.value? "t" with
      | some [c] => c
      | some ['\\', '0'] => '\x00'
      | _ => '\n'
    let descriptor ← if path = standardInput then pure 0 else
      match ← openInput path with
      | .ok descriptor => pure descriptor
      | .error refusal =>
        fail 1 ("cannot open " ++ quotedName path ++ " for reading: " ++ refusal.message)
    let (text, outcome) ← act (Act.readAll descriptor)
    match outcome with
    | .error refusal => fail 1 (about path refusal)
    | .ok () => pure ()
    match cut with
    | .parts _ (some _) _ => each say (cut.cutUp mark text)
    | cut => writeParts naming options 0 (cut.cutUp mark text)

end TaskRunner.Program
