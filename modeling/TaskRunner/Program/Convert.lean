import TaskRunner.Program.Show
import TaskRunner.Text.Split

/-! Programs that give files another size or shape: `dd` copies them in records, and `truncate` cuts
them off or fills them up. -/

namespace TaskRunner.Program

open Tool

/-! ### `dd` -/

/-- What `dd` is to do: from where to where, in records of which sizes, how much of both is passed
over and how much is copied, and what else was asked for. -/
structure Copying where
  input : Option Text
  output : Option Text
  inSize : Option Nat
  outSize : Option Nat
  size : Option Nat
  skip : Nat
  seek : Nat
  count : Option Nat
  conversions : List String
  inFlags : List String
  outFlags : List String
  report : String

namespace Copying

/-- A copy of everything. -/
def start : Copying := ⟨none, none, none, none, none, 0, 0, none, [], [], [], ""⟩

/-- The multipliers that may stand behind a number. -/
def units : List (String × Nat) :=
  [("c", 1), ("w", 2), ("B", 1)] ++ multipliers

/-- A number with a multiplier. -/
def factor? (text : Text) : Option Nat :=
  let digits := text.takeWhile Char.isDigit
  let unit := String.ofList (text.drop digits.length)
  if digits.isEmpty then none
  else if unit = "" then some (digitsValue digits)
  else (units.lookup unit).map (digitsValue digits * ·)

/-- A number: the product of what stands between the signs for it. -/
def number? : Nat → Text → Option Nat
  | 0, _ => none
  | fuel + 1, text => do
    let front := text.takeWhile (· != 'x')
    let n ← factor? front
    match text.drop front.length with
    | [] => some n
    | _ :: rest => return n * (← number? fuel rest)

/-- A number of bytes rather than of records. -/
def isBytes (text : Text) : Bool :=
  text.getLast? == some 'B' && (text.dropLast.getLast?.any Char.isDigit)

/-- The conversions that can be asked for. -/
def conversionNames : List String :=
  ["ascii", "ebcdic", "ibm", "block", "unblock", "lcase", "ucase", "sparse", "swab", "sync", "excl",
    "nocreat", "notrunc", "noerror", "fdatasync", "fsync"]

/-- The flags that a file can have. -/
def flagNames : List String :=
  ["append", "binary", "cio", "direct", "directory", "dsync", "noatime", "nocache", "noctty",
    "nofollow", "nolinks", "nonblock", "sync", "text", "fullblock", "count_bytes", "skip_bytes",
    "seek_bytes"]

/-- The names between commas, all of which must be known. -/
def names (what : String) (known : List String) (text : Text) : Tool (List String) :=
  (splitAt ',' text).mapM fun name => do
    let name := String.ofList name
    if known.contains name then return name
    else misuse 1 ("invalid " ++ what ++ ": " ++ quoted name.toList)

/-- What `dd` is to do with one more operand. -/
def withOperand (copying : Copying) (operand : Text) : Tool Copying := do
  let key := operand.takeWhile (· != '=')
  if key.length = operand.length then
    misuse 1 ("unrecognized operand " ++ quoted operand)
  let value := operand.drop (key.length + 1)
  let number (least : Nat) : Tool Nat := do
    match number? (value.length + 1) value with
    | some n =>
      if least ≤ n then return n else fail 1 ("invalid number: " ++ quoted value)
    | none => fail 1 ("invalid number: " ++ quoted value)
  match String.ofList key with
  | "if" => return { copying with input := some value }
  | "of" => return { copying with output := some value }
  | "ibs" => return { copying with inSize := some (← number 1) }
  | "obs" => return { copying with outSize := some (← number 1) }
  | "bs" => return { copying with size := some (← number 1) }
  | "cbs" => do
    let _ ← number 1
    return copying
  | "skip" | "iseek" => do
    let flags := if isBytes value then ["skip_bytes"] else []
    return { copying with skip := ← number 0, inFlags := copying.inFlags ++ flags }
  | "seek" | "oseek" => do
    let flags := if isBytes value then ["seek_bytes"] else []
    return { copying with seek := ← number 0, outFlags := copying.outFlags ++ flags }
  | "count" => do
    let flags := if isBytes value then ["count_bytes"] else []
    return { copying with count := some (← number 0), inFlags := copying.inFlags ++ flags }
  | "conv" => return { copying with
      conversions := copying.conversions ++ (← names "conversion" conversionNames value) }
  | "iflag" => return { copying with
      inFlags := copying.inFlags ++ (← names "input flag" flagNames value) }
  | "oflag" => return { copying with
      outFlags := copying.outFlags ++ (← names "output flag" flagNames value) }
  | "status" =>
    let report := String.ofList value
    if ["none", "noxfer", "progress"].contains report then return { copying with report }
    else misuse 1 ("invalid status level: " ++ quoted value)
  | _ => misuse 1 ("unrecognized operand " ++ quoted operand)

/-- The size of the records that are read. -/
def readSize (copying : Copying) : Nat :=
  (copying.size.orElse fun _ => copying.inSize).getD 512

/-- The size of the records that are written. -/
def writeSize (copying : Copying) : Nat :=
  (copying.size.orElse fun _ => copying.outSize).getD 512

/-- How many bytes of the input are passed over. -/
def skipped (copying : Copying) : Nat :=
  if copying.inFlags.contains "skip_bytes" then copying.skip
  else copying.skip * copying.readSize

/-- How many bytes of the output are passed over. -/
def passed (copying : Copying) : Nat :=
  if copying.outFlags.contains "seek_bytes" then copying.seek
  else copying.seek * copying.writeSize

/-- A conversion was asked for. -/
def has (copying : Copying) (conversion : String) : Bool :=
  copying.conversions.contains conversion

/-- Each record is written as it was read. -/
def isDirect (copying : Copying) : Bool :=
  copying.size.isSome &&
    !(["lcase", "ucase", "swab", "block", "unblock"].any copying.has)

end Copying

/-- How a copy has come out: how many whole and partial records were read and written, how many
bytes were written, what still has to be written, and whether something went wrong. -/
structure Copied where
  readWhole : Nat
  readPart : Nat
  wroteWhole : Nat
  wrotePart : Nat
  bytes : Nat
  waiting : Text
  failed : Bool

/-- Neighbouring bytes exchanged. -/
def exchanged : Text → Text
  | a :: b :: rest => b :: a :: exchanged rest
  | rest => rest

/-- A number of bytes with the unit that leaves a short number. -/
def scaledTo (base : Nat) (units : List String) (n : Nat) : Text :=
  let rec scale : List String → Nat → Nat → Text
    | [], _, _ => decimal n
    | unit :: units, size, fuel =>
      if n < size * base ∨ units.isEmpty ∨ fuel = 0 then
        let tenths := (n * 10 + size / 2) / size
        (if tenths < 100 then decimal (tenths / 10) ++ '.' :: decimal (tenths % 10)
          else decimal ((n + size / 2) / size)) ++ ' ' :: ofString unit
      else scale units (size * base) (fuel - 1)
  scale units base 10

/-- What `dd` says at its end about the number of bytes. -/
def byteReport (n : Nat) : Text :=
  let decimalUnits := scaledTo 1000 ["kB", "MB", "GB", "TB"] n
  let binaryUnits := scaledTo 1024 ["KiB", "MiB", "GiB", "TiB"] n
  let front : Text := decimal n ++ ofString (if n = 1 then " byte" else " bytes")
  if n < 1000 then front
  else if n < 1024 then front ++ " (" ++ decimalUnits ++ ")"
  else front ++ " (" ++ decimalUnits ++ ", " ++ binaryUnits ++ ")"

/-- What `dd` says at its end. -/
def copyReport (copying : Copying) (copied : Copied) : Text :=
  if copying.report = "none" then []
  else
    let counts := decimal copied.readWhole ++ '+' :: decimal copied.readPart ++
      " records in\n" ++ decimal copied.wroteWhole ++ '+' :: decimal copied.wrotePart ++
      " records out\n"
    if copying.report = "noxfer" then counts
    else
      counts ++ byteReport copied.bytes ++ " copied, 2e-05 s, " ++
        scaledTo 1000 ["kB/s", "MB/s", "GB/s"] (copied.bytes * 50000) ++ "\n"

/-- Writes a record. -/
def writeRecord (target size : Nat) (copied : Copied) (record : Text) : Tool Copied := do
  match ← act (Act.writeAll target record) with
  | .ok () =>
    let copied := { copied with bytes := copied.bytes + record.length }
    if record.length = size then return { copied with wroteWhole := copied.wroteWhole + 1 }
    else return { copied with wrotePart := copied.wrotePart + 1 }
  | .error _ => return { copied with failed := true }

/-- Writes the whole records that wait to be written. -/
def writeRecords (target size : Nat) : Nat → Copied → Tool Copied
  | 0, copied => return copied
  | fuel + 1, copied => do
    if copied.waiting.length < size ∨ copied.failed then return copied
    let record := copied.waiting.take size
    let copied := { copied with waiting := copied.waiting.drop size }
    writeRecords target size fuel (← writeRecord target size copied record)

/-- Reads a record, in several parts if it is to be whole. -/
def readRecord (source size : Nat) (full : Bool) : Tool (Except Refusal Text) :=
  loop (fun found : Text => do
    match ← ask (.read source (size - found.length)) with
    | .ok part =>
      let found := found ++ part
      if part.isEmpty ∨ ¬ full ∨ size ≤ found.length then return .inr (.ok found)
      else return .inl found
    | .error .interrupted => return .inl found
    | .error refusal => return .inr (.error refusal))
    (fun found => pure (.ok found)) []

/-- A record after the conversions. -/
def converted (copying : Copying) (record : Text) : Text :=
  let record :=
    if copying.has "ucase" then record.map Char.toUpper
    else if copying.has "lcase" then record.map Char.toLower
    else record
  if copying.has "swab" then exchanged record else record

/-- Copies records from one descriptor to another. -/
def copyRecords (copying : Copying) (source target : Nat) : Tool Copied := do
  let size := copying.readSize
  let counted (copied : Copied) : Nat :=
    match copying.count with
    | none => size
    | some count =>
      let done := copied.readWhole + copied.readPart
      let (records, more) : Nat × Nat :=
        if copying.inFlags.contains "count_bytes" then (count / size, count % size) else (count, 0)
      if done < records then size else if done = records then more else 0
  let step (copied : Copied) : Tool (Copied ⊕ Copied) := do
    let wanted := counted copied
    if wanted = 0 ∨ copied.failed then return .inr copied
    match ← readRecord source wanted (copying.inFlags.contains "fullblock") with
    | .error refusal => do
      let name := quotedName (copying.input.getD "standard input")
      warn ("error reading " ++ name ++ ": " ++ refusal.message)
      return .inr { copied with failed := true }
    | .ok record =>
      if record.isEmpty then return .inr copied
      let whole := record.length == size
      let copied :=
        if whole then { copied with readWhole := copied.readWhole + 1 }
        else { copied with readPart := copied.readPart + 1 }
      let record :=
        if copying.has "sync" then
          record ++ List.replicate (size - record.length) '\x00'
        else record
      if copying.isDirect then return .inl (← writeRecord target size copied record)
      else
        let copied := { copied with waiting := copied.waiting ++ converted copying record }
        return .inl (← writeRecords target copying.writeSize (record.length + 1) copied)
  let copied ← loop step (fun copied => pure copied) ⟨0, 0, 0, 0, 0, [], false⟩
  if copied.waiting.isEmpty ∨ copied.failed then return copied
  else writeRecord target copying.writeSize { copied with waiting := [] } copied.waiting

/-- Passes over the front of the input. -/
def skipInput (copying : Copying) (source : Nat) : Tool Unit := do
  let count := copying.skipped
  if count ≠ 0 then
    match ← ask (.inspectOpen source), ← ask (.seek source count) with
    | .ok info, .ok () => do
      if info.size < count then
        warn (shownName (copying.input.getD "standard input") ++
          ": cannot skip to specified offset")
    | _, _ => do
      let _ ← act (Act.ask (.read source count))

/-- Opens what is written to.  What stands before the place where writing begins stays, and what
stands after it goes if that is wanted. -/
def openTarget (copying : Copying) (path : Text) : Tool Nat := do
  let keeps := copying.has "notrunc"
  let refuse (refusal : Refusal) : Tool Nat :=
    fail 1 ("failed to open " ++ quotedName path ++ ": " ++ refusal.message)
  let mode : OpenMode :=
    ⟨false, true, !copying.has "nocreat", !keeps, copying.outFlags.contains "append",
      copying.has "excl"⟩
  let place := copying.passed
  if keeps ∨ place = 0 then
    match ← ask (.openFile path mode 438) with
    | .ok target => return target
    | .error refusal => refuse refusal
  else
    let front ← match ← openInput path with
      | .ok source => do
        let (text, _) ← act (Act.readAll source)
        let _ ← ask (.close source)
        pure (text.take place)
      | .error _ => pure []
    match ← ask (.openFile path mode 438) with
    | .ok target => do
      let _ ← act (Act.writeAll target (front ++ List.replicate (place - front.length) '\x00'))
      return target
    | .error refusal => refuse refusal

/-- The program `dd`. -/
def dd (call : Call) : Task :=
  withOptions 1 1 (.letters "" "") call fun options => do
    let copying ← fold Copying.withOperand .start options.operands
    let source ← match copying.input with
      | none => pure 0
      | some path =>
        match ← openInput path with
        | .ok source => pure source
        | .error refusal =>
          fail 1 ("failed to open " ++ quotedName path ++ ": " ++ refusal.message)
    let target ← match copying.output with
      | none => pure 1
      | some path => openTarget copying path
    skipInput copying source
    if copying.passed ≠ 0 then
      let _ ← ask (.seek target copying.passed)
    let copied ← copyRecords copying source target
    writeError (copyReport copying copied)
    if copied.failed then setStatus 1

/-! ### `truncate` -/

/-- How the size of a file is to change. -/
inductive Sizing where
  | exactly
  | longer
  | shorter
  | atMost
  | atLeast
  | downTo
  | upTo
deriving DecidableEq, Repr

namespace Sizing

/-- The change that the sign in front of a size asks for. -/
def ofSign? : Char → Option Sizing
  | '+' => some .longer
  | '-' => some .shorter
  | '<' => some .atMost
  | '>' => some .atLeast
  | '/' => some .downTo
  | '%' => some .upTo
  | _ => none

/-- The size that comes of another one. -/
def apply (sizing : Sizing) (n size : Nat) : Nat :=
  match sizing with
  | .exactly => n
  | .longer => size + n
  | .shorter => size - n
  | .atMost => min size n
  | .atLeast => max size n
  | .downTo => size / n * n
  | .upTo => (size + n - 1) / n * n

end Sizing

/-- The text with a number of bytes: cut off, or filled up with zeros. -/
def resized (size : Nat) (text : Text) : Text :=
  text.take size ++ List.replicate (size - text.length) '\x00'

/-- Gives a file another size. -/
def resize (options : Options) (sizing : Sizing) (n : Nat) (reference : Option Nat)
    (path : Text) : Tool Unit := do
  let refuse (refusal : Refusal) : Tool Unit :=
    complain 1 ("cannot open " ++ quotedName path ++ " for writing: " ++ refusal.message)
  let there ← ask (.inspect path true)
  match there with
  | .error .noEntry => if options.has "c" then return
  | _ => pure ()
  let mode : OpenMode := ⟨true, true, !options.has "c", false, false, false⟩
  match ← ask (.openFile path mode 438) with
  | .error refusal => refuse refusal
  | .ok descriptor => do
    let (text, _) ← act (Act.readAll descriptor)
    let _ ← ask (.close descriptor)
    let size := sizing.apply n (reference.getD text.length)
    match ← ask (.openFile path { mode with empties := true } 438) with
    | .error refusal => refuse refusal
    | .ok descriptor => do
      let _ ← act (Act.writeAll descriptor (resized size text))
      let _ ← ask (.close descriptor)

/-- The program `truncate`. -/
def truncate (call : Call) : Task :=
  let switches : Switches :=
    ⟨"co", "rs", "",
      [("no-create", .nothing, "c"), ("io-blocks", .nothing, "o"), ("reference", .value, "r"),
        ("size", .value, "s")], false⟩
  withOptions 1 1 switches call fun options => do
    let (sizing, n) ← match options.value? "s" with
      | none => pure (Sizing.exactly, none)
      | some text =>
        let text := text.dropWhile isSpaceChar
        let sizing := text.head?.bind Sizing.ofSign?
        let digits := if sizing.isSome then text.tail else text
        let n := if digits.getLast? = some 'b' then none else count? digits
        match n with
        | none => fail 1 ("Invalid number: " ++ quoted text)
        | some n =>
          if n = 0 ∧ (sizing = some .downTo ∨ sizing = some .upTo) then
            fail 1 "division by zero"
          else pure (sizing.getD .exactly, some n)
    let model := options.value? "r"
    if n.isNone ∧ model.isNone then
      misuse 1 "you must specify either '--size' or '--reference'"
    if model.isSome ∧ n.isSome ∧ sizing = .exactly then
      misuse 1 "you must specify a relative '--size' with '--reference'"
    if options.operands.isEmpty then misuse 1 "missing file operand"
    let reference ← match model with
      | none => pure none
      | some path =>
        match ← ask (.inspect path true) with
        | .ok info => pure (some info.size)
        | .error refusal =>
          fail 1 ("cannot stat " ++ quotedName path ++ ": " ++ refusal.message)
    let n := n.getD (reference.getD 0)
    each (resize options sizing n reference) options.operands

end TaskRunner.Program
