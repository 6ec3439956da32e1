import TaskRunner.Program.Show
import TaskRunner.Text.Fraction

/-! Programs that write bytes in other ways: `od` shows what they are, and `base64` puts them into
letters. -/

namespace TaskRunner.Program

open Tool

/-! ### `od` -/

/-- What `od` shows bytes as. -/
inductive DumpKind where
  | named
  | character
  | signed
  | unsigned
  | octal
  | hexadecimal
  | fraction
deriving DecidableEq, Repr

/-- A way to show bytes: as what, how many at a time, and whether the characters stand behind. -/
structure DumpSpec where
  kind : DumpKind
  size : Nat
  trailed : Bool
deriving DecidableEq, Repr

namespace DumpSpec

/-- How wide a value is shown. -/
def width (spec : DumpSpec) : Nat :=
  match spec.kind, spec.size with
  | .octal, 1 => 3
  | .octal, 2 => 6
  | .octal, 4 => 11
  | .octal, _ => 22
  | .signed, 1 => 4
  | .signed, 2 => 6
  | .signed, 4 => 11
  | .signed, _ => 20
  | .unsigned, 1 => 3
  | .unsigned, 2 => 5
  | .unsigned, 4 => 10
  | .unsigned, _ => 20
  | .hexadecimal, size => 2 * size
  | .fraction, 4 => 15
  | .fraction, _ => 24
  | _, _ => 3

/-- The number that bytes stand for, the lowest first. -/
def valueOf (bytes : Text) : Nat :=
  bytes.foldr (fun c n => n * 256 + c.toNat) 0

/-- The names of the characters up to the space. -/
def characterNames : List String :=
  ["nul", "soh", "stx", "etx", "eot", "enq", "ack", "bel", "bs", "ht", "nl", "vt", "ff", "cr", "so",
    "si", "dle", "dc1", "dc2", "dc3", "dc4", "nak", "syn", "etb", "can", "em", "sub", "esc", "fs",
    "gs", "rs", "us", "sp"]

/-- A byte as a character. -/
def characterText (c : Char) : Text :=
  if c = '\x00' then ['\\', '0']
  else
    match controlLetter? c with
    | some letter => ['\\', letter]
    | none => if isPrinted c then [c] else octalByte c

/-- The bytes of a value as they are shown. -/
def shown (spec : DumpSpec) (bytes : Text) : Text :=
  let n := valueOf bytes
  let filled (digits : Nat) (text : Text) : Text :=
    List.replicate (digits - text.length) '0' ++ text
  match spec.kind with
  | .named =>
    let code := n % 128
    if code = 127 then "del".toList
    else
      match characterNames[code]? with
      | some name => name.toList
      | none => [Char.ofNat code]
  | .character => characterText (Char.ofNat n)
  | .signed =>
    let half := Nat.pow 2 (8 * spec.size - 1)
    let value : Int := if n < half then n else (n : Int) - 2 * half
    (toString value).toList
  | .unsigned => decimal n
  | .octal => filled spec.width (Nat.toDigits 8 n)
  | .hexadecimal => filled spec.width (Nat.toDigits 16 n)
  | .fraction =>
    if spec.size = 4 then
      Fraction.write ⟨[], 0, some 8⟩ 'g' (Float32.ofBits (UInt32.ofNat n)).toFloat
    else Fraction.write ⟨[], 0, some 17⟩ 'g' (Float.ofBits (UInt64.ofNat n))

end DumpSpec

/-- The size that a letter or digits behind a kind mean. -/
def dumpSizeAt (otherwise : Nat) (text : Text) : Option (Nat × Text) :=
  match text with
  | 'C' :: rest => some (1, rest)
  | 'S' :: rest => some (2, rest)
  | 'I' :: rest => some (4, rest)
  | 'L' :: rest => some (8, rest)
  | 'F' :: rest => some (4, rest)
  | 'D' :: rest => some (8, rest)
  | text =>
    let digits := text.takeWhile Char.isDigit
    if digits.isEmpty then some (otherwise, text)
    else
      let n := digitsValue digits
      if n ∈ [1, 2, 4, 8] then some (n, text.drop digits.length) else none

/-- The ways to show bytes that a text names. -/
def dumpSpecs : Nat → Text → Option (List DumpSpec)
  | 0, _ => none
  | _ + 1, [] => some []
  | fuel + 1, c :: cs => do
    let kind ← ([('a', .named), ('c', .character), ('d', .signed), ('u', .unsigned), ('o', .octal),
      ('x', .hexadecimal), ('f', .fraction)] : List (Char × DumpKind)).lookup c
    let (size, rest) ←
      if kind = .named ∨ kind = .character then some (1, cs)
      else dumpSizeAt (if kind = .fraction then 8 else 4) cs
    let trailed := rest.head? == some 'z'
    let more ← dumpSpecs fuel (if trailed then rest.drop 1 else rest)
    return ⟨kind, size, trailed⟩ :: more

/-- The ways to show bytes that switches ask for, in their order. -/
def dumpSpecsOf (options : Options) : Except Text (List DumpSpec) := do
  let short : List (String × DumpSpec) :=
    [("a", ⟨.named, 1, false⟩), ("b", ⟨.octal, 1, false⟩), ("c", ⟨.character, 1, false⟩),
      ("d", ⟨.unsigned, 2, false⟩), ("f", ⟨.fraction, 4, false⟩), ("i", ⟨.signed, 4, false⟩),
      ("l", ⟨.signed, 8, false⟩), ("o", ⟨.octal, 2, false⟩), ("s", ⟨.signed, 2, false⟩),
      ("x", ⟨.hexadecimal, 2, false⟩), ("D", ⟨.unsigned, 4, false⟩),
      ("X", ⟨.hexadecimal, 4, false⟩), ("O", ⟨.octal, 4, false⟩)]
  let specs ← options.given.foldlM (fun specs entry =>
    match entry with
    | ("t", some text) =>
      match dumpSpecs (text.length + 1) text with
      | some more => .ok (specs ++ more)
      | none =>
        wrong ("invalid character '" ++ text.take 1 ++ "' in type string " ++ quoted text)
    | (key, _) =>
      match short.lookup key with
      | some spec => .ok (specs ++ [spec])
      | none => .ok specs) []
  return if specs.isEmpty then [⟨.octal, 2, false⟩] else specs

/-- The bytes of a row in groups of a size, zeros filling up the last one. -/
def groupBytes (size : Nat) : Nat → Text → List Text
  | 0, _ => []
  | _ + 1, [] => []
  | fuel + 1, bytes =>
    let group := bytes.take size
    (group ++ List.replicate (size - group.length) '\x00') ::
      groupBytes size fuel (bytes.drop size)

/-- The fields of a row, with the space between them shared out evenly. -/
def rowText (spec : DumpSpec) (fields spread : Nat) (row : Text) : Text :=
  let groups := groupBytes spec.size (row.length + 1) row
  let rec go : Nat → Nat → List Text → Text
    | _, _, [] => []
    | 0, _, _ => []
    | left + 1, space, group :: rest =>
      let next := spread * left / fields
      padLeft (space - next + spec.width) (spec.shown group) ++ go left next rest
  let text := go fields spread groups
  if spec.trailed then
    let missing := fields - groups.length
    let blank := List.replicate (missing * spec.width + spread * missing / fields) ' '
    let visible := row.map fun c => if isPrinted c then c else '.'
    text ++ blank ++ "  >".toList ++ visible ++ ['<']
  else text

/-- The switches of `od`. -/
def odSwitches : Switches :=
  ⟨"abcdfiloxsvDXO", "AjNtS", "w",
    [("address-radix", .value, "A"), ("skip-bytes", .value, "j"), ("read-bytes", .value, "N"),
      ("format", .value, "t"), ("output-duplicates", .nothing, "v"), ("width", .maybe, "w"),
      ("strings", .maybe, "S"), ("endian", .value, "endian"), ("traditional", .nothing, "old")],
    false⟩

/-- A number of bytes, in decimal, octal or hexadecimal digits with a multiplier behind. -/
def byteCount? (text : Text) : Option Nat :=
  match text with
  | '0' :: 'x' :: digits =>
    if digits.all fun c => (hexDigit? c).isSome then
      some (digits.foldl (fun n c => 16 * n + (hexDigit? c).getD 0) 0)
    else none
  | '0' :: digits =>
    if digits.all fun c => '0' ≤ c && c ≤ '7' then
      some (digits.foldl (fun n c => 8 * n + (c.toNat - 48)) 0)
    else none
  | text => count? text

/-- Shows rows of bytes with their addresses.  A row that is the same as the one before is left out,
and a star stands for all of those. -/
def sayRows (address : Nat → Text) (lines : Text → List Text) (width : Nat) (all : Bool) :
    Nat → Nat → Text → Bool → Text → Tool Nat
  | 0, place, _, _, _ => return place
  | fuel + 1, place, before, starred, bytes => do
    if bytes.isEmpty then return place
    let row := bytes.take width
    let rest := bytes.drop width
    if ¬ all ∧ row = before ∧ row.length = width then
      if ¬ starred then sayLine ['*']
      sayRows address lines width all fuel (place + width) before true rest
    else
      Tool.each (fun entry => sayLine
        ((if entry.2 = 0 then address place
          else List.replicate (address place).length ' ') ++ entry.1)) (lines row).zipIdx
      sayRows address lines width all fuel (place + row.length) row false rest

/-- The program `od`. -/
def od (call : Call) : Task :=
  withOptions 1 1 odSwitches call fun options => do
    let specs ← match dumpSpecsOf options with
      | .ok specs => pure specs
      | .error message => fail 1 message
    let number (key : String) : Tool (Option Nat) := do
      match options.value? key with
      | none => return none
      | some text =>
        match byteCount? text with
        | some n => return some n
        | none => fail 1 ("invalid -" ++ ofString key ++ " argument " ++ quoted text)
    let skip := (← number "j").getD 0
    let most ← number "N"
    let given ← number "w"
    let width := match given with
      | some n => max n 1
      | none => if options.has "w" then 32 else 16
    let radix := (options.value? "A").bind List.head?
    if let some c := radix then
      if ¬ "doxn".toList.contains c then
        fail 1 ("invalid output address radix '" ++ c ::
          "'; it must be one character from [doxn]".toList)
    let address (n : Nat) : Text :=
      let filled (digits : Nat) (text : Text) : Text :=
        List.replicate (digits - text.length) '0' ++ text
      match radix with
      | some 'n' => []
      | some 'd' => filled 7 (decimal n)
      | some 'x' => filled 6 (Nat.toDigits 16 n)
      | _ => filled 7 (Nat.toDigits 8 n)
    let (bytes, opened) ← foldInputs 1 about options.operands (([], false) : List Text × Bool)
      fun state path descriptor => do
        let (text, outcome) ← act (Act.readAll descriptor)
        complainIf 1 (about path) outcome
        return (text :: state.1, true)
    if ¬ opened then finish 1
    let bytes := bytes.reverse.flatten
    if bytes.length < skip then fail 1 "cannot skip past end of combined input".toList
    let bytes := bytes.drop skip
    let bytes := match most with
      | some n => bytes.take n
      | none => bytes
    let blockWidth := specs.foldl (fun widest spec =>
      max widest ((spec.width + 1) * (width / spec.size))) 0
    let lines (row : Text) : List Text := specs.map fun spec =>
      let fields := width / spec.size
      rowText spec fields (blockWidth - spec.width * fields) row
    let last ← sayRows address lines width (options.has "v") (bytes.length + 1) skip [] false bytes
    if radix ≠ some 'n' then sayLine (address last)

/-! ### `base64` -/

/-- The characters that stand for six bits each. -/
def sixBitLetters : Array Char :=
  "ABCDEFGHIJKLMNOPQRSTUVWXYZabcdefghijklmnopqrstuvwxyz0123456789+/".toList.toArray

/-- Bytes in letters, three at a time. -/
def inLetters : Text → List Text → Text
  | a :: b :: c :: rest, done =>
    let n := a.toNat * 65536 + b.toNat * 256 + c.toNat
    inLetters rest ([n / 262144, n / 4096 % 64, n / 64 % 64, n % 64].map letter :: done)
  | [a, b], done =>
    let n := a.toNat * 65536 + b.toNat * 256
    finish (([n / 262144, n / 4096 % 64, n / 64 % 64].map letter ++ ['=']) :: done)
  | [a], done =>
    let n := a.toNat * 65536
    finish (([n / 262144, n / 4096 % 64].map letter ++ ['=', '=']) :: done)
  | [], done => finish done
where
  /-- The letter for six bits. -/
  letter (n : Nat) : Char := sixBitLetters[n % 64]!
  /-- The letters in order. -/
  finish (done : List Text) : Text := done.reverse.flatten

/-- The six bits that a letter stands for. -/
def sixBits? (c : Char) : Option Nat :=
  if c.isUpper then some (c.toNat - 65)
  else if c.isLower then some (c.toNat - 97 + 26)
  else if c.isDigit then some (c.toNat - 48 + 52)
  else if c = '+' then some 62
  else if c = '/' then some 63
  else none

/-- The bytes that letters stand for, four at a time, as far as they are right; and whether they all
are. -/
def outOfLetters : Text → List Text → Text × Bool
  | [], done => (done.reverse.flatten, true)
  | [a, b, '=', '='], done =>
    match sixBits? a, sixBits? b with
    | some a, some b => ((([a * 4 + b / 16].map Char.ofNat) :: done).reverse.flatten, true)
    | _, _ => (done.reverse.flatten, false)
  | [a, b, c, '='], done =>
    match sixBits? a, sixBits? b, sixBits? c with
    | some a, some b, some c =>
      ((([a * 4 + b / 16, b % 16 * 16 + c / 4].map Char.ofNat) :: done).reverse.flatten, true)
    | _, _, _ => (done.reverse.flatten, false)
  | a :: b :: c :: d :: rest, done =>
    match sixBits? a, sixBits? b, sixBits? c, sixBits? d with
    | some a, some b, some c, some d =>
      outOfLetters rest
        ([a * 4 + b / 16, b % 16 * 16 + c / 4, c % 4 * 64 + d].map Char.ofNat :: done)
    | _, _, _, _ => (done.reverse.flatten, false)
  | [a, b, c], done =>
    match sixBits? a, sixBits? b, sixBits? c with
    | some a, some b, some c =>
      ((([a * 4 + b / 16, b % 16 * 16 + c / 4].map Char.ofNat) :: done).reverse.flatten, false)
    | _, _, _ => (done.reverse.flatten, false)
  | [a, b], done =>
    match sixBits? a, sixBits? b with
    | some a, some b => ((([a * 4 + b / 16].map Char.ofNat) :: done).reverse.flatten, false)
    | _, _ => (done.reverse.flatten, false)
  | [_], done => (done.reverse.flatten, false)

/-- A text in lines of a width. -/
def inLines (width : Nat) : Nat → Text → List Text
  | 0, _ => []
  | _ + 1, [] => []
  | fuel + 1, text => text.take width :: inLines width fuel (text.drop width)

/-- The program `base64`. -/
def base64 (call : Call) : Task :=
  let switches : Switches :=
    ⟨"di", "w", "", [("decode", .nothing, "d"), ("ignore-garbage", .nothing, "i"),
      ("wrap", .value, "w")], false⟩
  withOptions 1 1 switches call fun options => do
    let width ← match options.value? "w" with
      | none => pure 76
      | some text =>
        match wholeNumber? text with
        | some n => pure n
        | none => fail 1 ("invalid wrap size: " ++ quoted text)
    if let _ :: extra :: _ := options.operands then
      misuse 1 ("extra operand " ++ quoted extra)
    eachInput 1 about options.operands fun path descriptor => do
      let (text, outcome) ← act (Act.readAll descriptor)
      complainIf 1 (about path) outcome
      if options.has "d" then
        let kept := text.filter fun c =>
          if options.has "i" then (sixBits? c).isSome || c == '=' else c != '\n'
        let (bytes, right) := outOfLetters kept []
        say bytes
        if ¬ right then complain 1 "invalid input".toList
      else
        let letters := inLetters text []
        if width = 0 then say letters
        else Tool.each sayLine (inLines width (letters.length + 1) letters)

end TaskRunner.Program
