import TaskRunner.Shell.Arithmetic
import TaskRunner.Text.Layout

/-! Braces: a word with alternatives in braces stands for several words.  Alternatives are listed
between commas, or counted from one number or letter to another.  Only bare characters count here;
everything else in a word stays as it is. -/

namespace TaskRunner.Shell

/-- A part of a word as the braces in it are found: a bare character, or another piece. -/
inductive Atom where
  | plain (c : Char)
  | piece (piece : Piece)

namespace Atom

/-- The bare character that an atom is. -/
def char? : Atom → Option Char
  | plain c => some c
  | piece _ => none

/-- The atoms of a word. -/
def ofWord (word : Word) : List Atom :=
  word.flatMap fun part =>
    match part with
    | .text false content => content.map plain
    | part => [piece part]

/-- The word that atoms make up. -/
def word (atoms : List Atom) : Word :=
  atoms.foldr (fun atom rest =>
    match atom with
    | plain c => consText false [c] rest
    | piece part => part :: rest) []

/-- How many atoms come before the first one that is a certain character outside of inner braces.  A
closing brace counts only if there was a comma or two dots before it, which `ready` says, and an
opening one does not if it stands at the front and nothing or a closing brace follows. -/
def offset? (sought : Char) (level : Nat) (ready front : Bool) : List Atom → Option Nat
  | [] => none
  | atom :: rest =>
    let c := atom.char?
    let next := rest.head?.bind char?
    let further (level : Nat) (ready : Bool) : Option Nat :=
      (offset? sought level ready false rest).map (· + 1)
    if c = some sought ∧ level = 0 ∧ ready then
      if sought = '\x7b' ∧ front ∧ (rest.isEmpty ∨ next = some '\x7d') then further level ready
      else some 0
    else if c = some '\x7b' then further (level + 1) ready
    else if c = some '\x7d' ∧ 0 < level then further (level - 1) ready
    else if sought = '\x7d' ∧ level = 0 ∧ c = some ',' then further level true
    else if sought = '\x7d' ∧ level = 0 ∧ c = some '.' ∧ next = some '.' ∧
        (rest.tail.head?.bind char?) ≠ some '\x7d' then further level true
    else further level ready

/-- How many atoms come before the first pair of braces that holds alternatives, and how many stand
in it. -/
def pair? : Nat → Bool → List Atom → Option (Nat × Nat)
  | 0, _, _ => none
  | fuel + 1, front, atoms =>
    match offset? '\x7b' 0 true front atoms with
    | none => none
    | some before =>
      let rest := atoms.drop (before + 1)
      match offset? '\x7d' 0 false false rest with
      | some inside => some (before, inside)
      | none => (pair? fuel false rest).map fun found => (before + 1 + found.1, found.2)

/-- The alternatives between commas. -/
def listed : Nat → List Atom → List (List Atom)
  | 0, atoms => [atoms]
  | fuel + 1, atoms =>
    match offset? ',' 0 true false atoms with
    | none => [atoms]
    | some count => atoms.take count :: listed fuel (atoms.drop (count + 1))

end Atom

/-! ### Sequences -/

/-- An end of a sequence: a number with the width it is written in, if it begins with a zero, or a
letter. -/
inductive SequenceEnd where
  | number (value : Int) (padded : Bool)
  | letter (c : Char)

/-- The end of a sequence that a text is. -/
def sequenceEnd? (text : Text) : Option SequenceEnd :=
  match decimalValue text with
  | some value =>
    let digits := if text.head? = some '-' then text.tail else text
    some (.number value (1 < digits.length && digits.head? == some '0'))
  | none =>
    match text with
    | [c] => if c.isAlpha then some (.letter c) else none
    | _ => none

/-- A number with zeros in front, up to a width with its sign. -/
def zeroPadded (width : Nat) (value : Int) : Text :=
  let sign : Text := if value < 0 then ['-'] else []
  let digits := decimal value.natAbs
  sign ++ List.replicate (width - sign.length - digits.length) '0' ++ digits

/-- The numbers from one to another by steps of some size. -/
def stepped (first last : Int) (step : Nat) : List Int :=
  let count := (last - first).natAbs / step + 1
  (List.range count).map fun (n : Nat) =>
    let moved : Int := (n * step : Nat)
    if first ≤ last then first + moved else first - moved

/-- The texts from one to another, if an expression says so: its ends between two dots, and the size
of the steps behind two more. -/
def sequence? (text : Text) : Option (List Text) := do
  let (first, rest) ← breakAtDots text
  let (last, step) ← match breakAtDots rest with
    | none => pure (rest, (1 : Int))
    | some (last, step) => do pure (last, ← decimalValue step)
  let size := if step = 0 then 1 else step.natAbs
  match ← sequenceEnd? first, ← sequenceEnd? last with
  | .number low padded, .number high paddedToo =>
    let width := if padded ∨ paddedToo then max first.length last.length else 0
    return (stepped low high size).map (zeroPadded width)
  | .letter low, .letter high =>
    return (stepped low.toNat high.toNat size).map fun n => [Char.ofNat n.toNat]
  | _, _ => none
where
  /-- What stands before the first two dots of a text, and what stands behind them. -/
  breakAtDots : Text → Option (Text × Text)
    | [] => none
    | '.' :: '.' :: rest => some ([], rest)
    | c :: rest => (breakAtDots rest).map fun r => (c :: r.1, r.2)

/-! ### Alternatives -/

/-- What atoms with braces stand for, with a bound on the number of braces. -/
def alternativesOf : Nat → List Atom → List (List Atom)
  | 0, atoms => [atoms]
  | fuel + 1, atoms =>
    match Atom.pair? (atoms.length + 1) true atoms with
    | none => [atoms]
    | some (before, inside) =>
      let front := atoms.take before
      let amble := (atoms.drop (before + 1)).take inside
      let behind := atoms.drop (before + inside + 2)
      let chars := amble.filterMap Atom.char?
      let found : Option (List (List Atom)) :=
        if chars.contains ',' then
          some ((Atom.listed (amble.length + 1) amble).flatMap (alternativesOf fuel))
        else if chars.length = amble.length then
          (sequence? chars).map fun texts => texts.map fun text => text.map Atom.plain
        else none
      let kept : List Atom := .plain '\x7b' :: amble ++ [.plain '\x7d']
      let middles := found.getD [kept]
      let ends := if behind.isEmpty then [[]] else alternativesOf fuel behind
      middles.flatMap fun middle => ends.map fun rest => front ++ middle ++ rest

/-- The words that a word with braces stands for. -/
def alternatives (word : Word) : List Word :=
  let hasBrace := word.any fun piece =>
    match piece with
    | .text false content => content.contains '\x7b'
    | _ => false
  if hasBrace then
    let atoms := Atom.ofWord word
    (alternativesOf (atoms.length + 1) atoms).map Atom.word
  else [word]

end TaskRunner.Shell
