import TaskRunner.Program.Column
import TaskRunner.Text.Fraction

/-! The program `sort`, which puts lines in order. -/

namespace TaskRunner.Program

open Tool

/-- How keys are compared: by which kind of order, of which characters, and in which direction. -/
structure KeyOrder where
  letters : List Char
deriving DecidableEq, Repr

namespace KeyOrder

/-- The letter is set. -/
def has (order : KeyOrder) (letter : Char) : Bool :=
  order.letters.contains letter

end KeyOrder

/-- A place in a line: the field, from one on, and the character in it, of which zero is the last.
-/
structure KeyPlace where
  field : Nat
  char : Nat
  blanks : Bool

/-- A key: where it begins and ends, and how it is compared. -/
structure Key where
  start : KeyPlace
  stop : Option KeyPlace
  order : KeyOrder

/-- The letters of orders. -/
def orderLetters : List Char :=
  ['b', 'd', 'f', 'g', 'h', 'i', 'M', 'n', 'R', 'r', 'V']

/-- A place at the front of a key's description, with the letters behind it, and what follows. -/
def keyPlaceAt (first : Bool) (text : Text) : Except Text (KeyPlace × List Char × Text) := do
  let digits := text.takeWhile Char.isDigit
  let rest := text.drop digits.length
  if digits.isEmpty then
    wrong ((if first then "invalid number at field start: invalid count at start of "
      else "invalid number after ',': invalid count at start of ") ++ quoted text)
  let (char, rest) ← match rest with
    | '.' :: more => do
      let digits := more.takeWhile Char.isDigit
      if digits.isEmpty then
        wrong ("invalid number after '.': invalid count at start of " ++ quoted more)
      pure (some (digitsValue digits), more.drop digits.length)
    | rest => pure (none, rest)
  let letters := rest.takeWhile fun c => orderLetters.contains c
  return (⟨digitsValue digits, char.getD (if first then 1 else 0), letters.contains 'b'⟩, letters,
    rest.drop letters.length)

/-- The key that a description stands for. -/
def keyOf (text : Text) : Except Text Key := do
  let (start, letters, rest) ← keyPlaceAt true text
  if start.field = 0 then
    wrong ("field number is zero: invalid field specification " ++ quoted text)
  if start.char = 0 then
    wrong ("character offset is zero: invalid field specification " ++ quoted text)
  match rest with
  | [] => return ⟨start, none, ⟨letters⟩⟩
  | ',' :: rest => do
    let (stop, more, rest) ← keyPlaceAt false rest
    if ¬ rest.isEmpty then
      wrong ("stray character in field spec: invalid field specification " ++ quoted text)
    if stop.field = 0 then
      wrong ("field number is zero: invalid field specification " ++ quoted text)
    return ⟨start, some stop, ⟨letters ++ more⟩⟩
  | _ => wrong ("stray character in field spec: invalid field specification " ++ quoted text)

/-- The text behind the first fields of a line. -/
def afterFields (separator : Option Char) : Nat → Text → Text
  | 0, text => text
  | n + 1, text =>
    match separator with
    | some c => afterFields separator n ((text.dropWhile (· != c)).drop 1)
    | none =>
      afterFields separator n ((text.dropWhile isBlankChar).dropWhile fun c => !isBlankChar c)

/-- How many characters stand before the end of a key. -/
def keyEnd (separator : Option Char) (place : KeyPlace) (line : Text) : Nat :=
  if place.char = 0 then
    let rest := afterFields separator (place.field - 1) line
    let field := match separator with
      | some c => rest.takeWhile (· != c)
      | none =>
        let blanks := rest.takeWhile isBlankChar
        blanks ++ (rest.drop blanks.length).takeWhile fun c => !isBlankChar c
    line.length - rest.length + field.length
  else
    let rest := afterFields separator (place.field - 1) line
    let rest := if place.blanks then rest.dropWhile isBlankChar else rest
    min line.length (line.length - rest.length + place.char)

/-- The part of a line that a key is. -/
def keyText (separator : Option Char) (key : Key) (line : Text) : Text :=
  let rest := afterFields separator (key.start.field - 1) line
  let rest := if key.start.blanks then rest.dropWhile isBlankChar else rest
  let rest := rest.drop (key.start.char - 1)
  match key.stop with
  | none => rest
  | some place => rest.take (keyEnd separator place line - (line.length - rest.length))

/-! ### Orders -/

/-- A number in a text: its sign, the digits before the point, and those behind it. -/
def numberParts (text : Text) : Bool × Text × Text :=
  let text := text.dropWhile isBlankChar
  let (negative, digits) := match text with
    | '-' :: digits => (true, digits)
    | digits => (false, digits)
  let whole := digits.takeWhile Char.isDigit
  let fraction := match digits.drop whole.length with
    | '.' :: more => more.takeWhile Char.isDigit
    | _ => []
  (negative, whole.dropWhile (· == '0'), (fraction.reverse.dropWhile (· == '0')).reverse)

/-- Two numbers in texts compared. -/
def compareNumeric (a b : Text) : Ordering :=
  let (negA, wholeA, fractionA) := numberParts a
  let (negB, wholeB, fractionB) := numberParts b
  let zero (whole fraction : Text) : Bool := whole.isEmpty && fraction.isEmpty
  let negA := negA && !zero wholeA fractionA
  let negB := negB && !zero wholeB fractionB
  let size := (compare wholeA.length wholeB.length).then
    ((compare (String.ofList wholeA) (String.ofList wholeB)).then
      (compare (String.ofList fractionA) (String.ofList fractionB)))
  match negA, negB with
  | false, false => size
  | true, true => size.swap
  | true, false => .lt
  | false, true => .gt

/-- The place of the unit behind a number. -/
def unitRank (text : Text) : Nat :=
  let text := text.dropWhile isBlankChar
  let digits := if text.head? = some '-' then text.tail else text
  let rest := digits.dropWhile fun c => c.isDigit || c == '.'
  match rest with
  | c :: _ => ("KMGTPEZYRQ".toList.idxOf? c.toUpper).elim 0 (· + 1)
  | [] => 0

/-- Two numbers with units compared. -/
def compareHuman (a b : Text) : Ordering :=
  let sign (text : Text) : Int :=
    let (negative, whole, fraction) := numberParts text
    if whole.isEmpty && fraction.isEmpty then 0 else if negative then -1 else 1
  let rank (text : Text) : Int := sign text * (unitRank text + 1)
  (compare (rank a) (rank b)).then (compareNumeric a b)

/-- The number of a month by the first letters of its name. -/
def monthRank (text : Text) : Nat :=
  let name := String.ofList (((text.dropWhile isBlankChar).take 3).map Char.toUpper)
  (["JAN", "FEB", "MAR", "APR", "MAY", "JUN", "JUL", "AUG", "SEP", "OCT", "NOV", "DEC"].idxOf?
    name).elim 0 (· + 1)

/-- Two numbers with fractions and exponents compared.  What is no number comes first. -/
def compareGeneral (a b : Text) : Ordering :=
  match Fraction.read? a, Fraction.read? b with
  | none, none => .eq
  | none, some _ => .lt
  | some _, none => .gt
  | some (x, _), some (y, _) => if x < y then .lt else if y < x then .gt else .eq

/-- The rank of a character within the name of a version. -/
def versionRank (c : Option Char) : Int :=
  match c with
  | none => 0
  | some '~' => -1
  | some c => if c.isDigit then 0 else if c.isAlpha then c.toNat else c.toNat + 256

/-- Two names of versions compared, in which numbers count as such. -/
def compareVersion : Nat → Text → Text → Ordering
  | 0, _, _ => .eq
  | fuel + 1, a, b =>
    let nonDigit (c : Option Char) : Bool := c.any fun c => !c.isDigit
    if a.isEmpty && b.isEmpty then .eq
    else if nonDigit a.head? || nonDigit b.head? then
      match compare (versionRank a.head?) (versionRank b.head?) with
      | .eq => compareVersion fuel a.tail b.tail
      | order => order
    else
      let digitsA := a.takeWhile Char.isDigit
      let digitsB := b.takeWhile Char.isDigit
      match compare (digitsValue digitsA) (digitsValue digitsB) with
      | .eq => compareVersion fuel (a.drop digitsA.length) (b.drop digitsB.length)
      | order => order

/-- Two texts compared byte by byte. -/
def compareBytes : Text → Text → Ordering
  | [], [] => .eq
  | [], _ => .lt
  | _, [] => .gt
  | a :: as, b :: bs => if a < b then .lt else if b < a then .gt else compareBytes as bs

/-- Two keys compared, apart from the direction. -/
def compareKeys (order : KeyOrder) (a b : Text) : Ordering :=
  if order.has 'n' then compareNumeric a b
  else if order.has 'g' then compareGeneral a b
  else if order.has 'h' then compareHuman a b
  else if order.has 'M' then compare (monthRank a) (monthRank b)
  else
    let seen (text : Text) : Text :=
      let text := if order.has 'd' then
          text.filter fun c => isBlankChar c || c.isAlphanum
        else if order.has 'i' then text.filter isPrinted else text
      if order.has 'f' then text.map Char.toUpper else text
    if order.has 'V' then compareVersion (a.length + b.length + 1) (seen a) (seen b)
    else compareBytes (seen a) (seen b)

/-- What the lines are ordered by: the keys, the separator of fields, whether equal lines are the
same line, whether they keep their places, and whether the last resort is turned round. -/
structure LineOrder where
  keys : List Key
  separator : Option Char
  unique : Bool
  stable : Bool
  reversed : Bool

namespace LineOrder

/-- Two lines compared by the keys. -/
def byKeys (order : LineOrder) (a b : Text) : Ordering :=
  order.keys.foldl (fun found key =>
    match found with
    | .eq =>
      let result := compareKeys key.order (keyText order.separator key a)
        (keyText order.separator key b)
      if key.order.has 'r' then result.swap else result
    | found => found) .eq

/-- Two lines compared. -/
def compareLines (order : LineOrder) (a b : Text) : Ordering :=
  match order.byKeys a b with
  | .eq =>
    if (order.unique || order.stable) && !order.keys.isEmpty then .eq
    else
      let result := compareBytes a b
      if order.reversed then result.swap else result
  | found => found

end LineOrder

/-- The switches of `sort`. -/
def sortSwitches : Switches :=
  ⟨"bcCdfghimMnrRsuVz", "koSTt", "",
    [("ignore-leading-blanks", .nothing, "b"), ("check", .maybe, "check"),
      ("dictionary-order", .nothing, "d"), ("ignore-case", .nothing, "f"),
      ("general-numeric-sort", .nothing, "g"), ("human-numeric-sort", .nothing, "h"),
      ("ignore-nonprinting", .nothing, "i"), ("key", .value, "k"), ("merge", .nothing, "m"),
      ("month-sort", .nothing, "M"), ("numeric-sort", .nothing, "n"), ("output", .value, "o"),
      ("parallel", .value, "parallel"), ("random-sort", .nothing, "R"),
      ("reverse", .nothing, "r"), ("stable", .nothing, "s"), ("unique", .nothing, "u"),
      ("version-sort", .nothing, "V"), ("field-separator", .value, "t"),
      ("zero-terminated", .nothing, "z"), ("buffer-size", .value, "S"),
      ("temporary-directory", .value, "T")], false⟩

/-- The separator that switches ask for. -/
def separatorOf (options : Options) : Except Text (Option Char) :=
  match options.value? "t" with
  | none => .ok none
  | some [] => wrong "empty tab"
  | some [c] => .ok (some c)
  | some ['\\', '0'] => .ok (some '\x00')
  | some text => wrong ("multi-character tab " ++ quoted text)

/-- Complains about letters that do not go together. -/
def checkLetters (letters : List Char) : Except Text Unit :=
  let count (names : List Char) : Nat := if names.any letters.contains then 1 else 0
  if 1 < count ['n'] + count ['g'] + count ['h'] + count ['M'] + count ['V', 'R', 'd', 'i'] then
    let shown := orderLetters.filter fun letter =>
      letters.contains letter && letter != 'b' && letter != 'r'
    wrong ("options '-" ++ shown ++ "' are incompatible")
  else .ok ()

/-- The order that switches ask for. -/
def lineOrder (options : Options) : Except Text LineOrder := do
  let separator ← separatorOf options
  let general := orderLetters.filter fun letter => options.has (String.singleton letter)
  let keys ← (options.values "k").mapM keyOf
  let inherit (key : Key) : Key :=
    if key.order.letters.isEmpty then
      { key with
        order := ⟨general⟩
        start := { key.start with blanks := general.contains 'b' }
        stop := key.stop.map fun place => { place with blanks := general.contains 'b' } }
    else key
  let keys :=
    if keys.isEmpty then
      if general.all (· == 'r') then [] else [⟨⟨1, 1, general.contains 'b'⟩, none, ⟨general⟩⟩]
    else keys.map inherit
  for key in keys do
    checkLetters key.order.letters
  return ⟨keys, separator, options.has "u", options.has "s", general.contains 'r'⟩

/-- Lines of files that are in order, put together in order. -/
def mergedLines (order : LineOrder) : Nat → List (List Text) → List Text
  | 0, _ => []
  | fuel + 1, files =>
    let files := files.filter fun file => !file.isEmpty
    let best := (files.zipIdx).foldl (fun (best : Option (Text × Nat)) (file, n) =>
      match best, file with
      | _, [] => best
      | none, line :: _ => some (line, n)
      | some (least, _), line :: _ =>
        if order.compareLines line least == .lt then some (line, n) else best) none
    match best with
    | none => []
    | some (line, n) => line :: mergedLines order fuel (files.modify n List.tail)

/-- The first line that comes before the one that precedes it, with its number. -/
def firstDisordered (order : LineOrder) : Nat → List Text → Option (Nat × Text)
  | n, a :: b :: rest =>
    let wrong_ := match order.compareLines a b with
      | .gt => true
      | .eq => order.unique
      | .lt => false
    if wrong_ then some (n + 1, b) else firstDisordered order (n + 1) (b :: rest)
  | _, _ => none

/-- Lines of which only the first of equal ones are left. -/
def withoutEqual (order : LineOrder) (lines : List Text) : List Text :=
  (lines.foldl (fun kept line =>
    match kept with
    | [] => [line]
    | last :: _ => if order.compareLines last line == .eq then kept else line :: kept)
    ([] : List Text)).reverse

/-- The program `sort`. -/
def sort (call : Call) : Task :=
  withOptions 2 2 sortSwitches call fun options => do
    let order ← match lineOrder options with
      | .ok order => pure order
      | .error message => fail 2 message
    let mark := lineMark options
    let inputs := inputsOf options.operands
    let checks := options.has "c" || options.has "C" || options.has "check"
    if checks then
      match inputs with
      | _ :: extra :: _ => fail 2 ("extra operand " ++ quoted extra ++ " not allowed with -c")
      | _ => pure ()
    let files ← fold (fun files path => do
      let opened ← if path = standardInput then pure (.ok 0) else openInput path
      match opened with
      | .error refusal => do
        let verb : Text := if checks then "open failed: " else "cannot read: "
        fail 2 (verb ++ about path refusal)
      | .ok descriptor => do
        let (text, outcome) ← act (Act.readAll descriptor)
        match outcome with
        | .error refusal => fail 2 ("read failed: " ++ about path refusal)
        | .ok () => pure ()
        if descriptor ≠ 0 then
          let _ ← ask (.close descriptor)
        return files ++ [(linesOf mark (text.length + 1) text).map Line.text])
      ([] : List (List Text)) inputs
    let lines := files.flatten
    if checks then
      match firstDisordered order 1 lines with
      | none => return
      | some (n, line) => do
        if ¬ options.has "C" then
          let front := (inputs.headD []) ++ ':' :: decimal n ++ ": disorder: "
          warn (front ++ line)
        setStatus 1
        finish 1
    let sorted :=
      if options.has "m" then mergedLines order (lines.length + 1) files
      else lines.mergeSort fun a b => order.compareLines a b != .gt
    let sorted := if order.unique then withoutEqual order sorted else sorted
    match options.value? "o" with
    | none => pure ()
    | some path =>
      match ← ask (.openFile path .output 0o666) with
      | .error refusal => fail 2 ("open failed: " ++ about path refusal)
      | .ok output => do
        let _ ← ask (.copy output 1)
        let _ ← ask (.close output)
    each (fun line => say (line ++ [mark])) sorted

end TaskRunner.Program
