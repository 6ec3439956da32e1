import TaskRunner.Program.Switches

/-! Permissions as they are written: in octal digits, or in clauses that say who gets or loses what.
-/

namespace TaskRunner.Program

/-- What a clause grants or takes: bits, or what one of the three kinds of users has now; and
whether what may be executed by somebody, or entered, gets the bits for that. -/
structure Grant where
  bits : Nat
  copied : Option Nat
  conditional : Bool
deriving DecidableEq, Repr

/-- A part of a clause: the bits of those it is about, of which there are none if it does not say;
the sign; and what it grants. -/
structure ModeChange where
  affected : Nat
  sign : Char
  grant : Grant
deriving DecidableEq, Repr

/-- A way to change permissions: to what digits say, or part by part. -/
inductive ModeRule where
  | exact (permissions : Nat)
  | stepwise (changes : List ModeChange)
deriving DecidableEq, Repr

namespace ModeRule

/-- The bits of those that a letter means. -/
def affectedBits : Char → Option Nat
  | 'u' => some 0o4700
  | 'g' => some 0o2070
  | 'o' => some 0o1007
  | 'a' => some 0o7777
  | _ => none

/-- What a letter grants. -/
def letterBits : Char → Option Grant
  | 'r' => some ⟨0o444, none, false⟩
  | 'w' => some ⟨0o222, none, false⟩
  | 'x' => some ⟨0o111, none, false⟩
  | 'X' => some ⟨0, none, true⟩
  | 's' => some ⟨0o6000, none, false⟩
  | 't' => some ⟨0o1000, none, false⟩
  | _ => none

/-- What some letters grant together. -/
def grantOf (letters : Text) : Grant :=
  letters.foldl (fun all letter =>
    match letterBits letter with
    | some grant => ⟨all.bits ||| grant.bits, none, all.conditional || grant.conditional⟩
    | none => all) ⟨0, none, false⟩

/-- The number that octal digits stand for. -/
def octalValue (digits : Text) : Nat :=
  digits.foldl (fun n d => 8 * n + (d.toNat - '0'.toNat)) 0

/-- The digit is octal. -/
def isOctalDigit (c : Char) : Bool :=
  '0' ≤ c && c ≤ '7'

/-- The place among the bits of those whose permissions a letter copies. -/
def copiedPlace : Char → Option Nat
  | 'u' => some 64
  | 'g' => some 8
  | 'o' => some 1
  | _ => none

/-- The parts of a clause, behind those it is about. -/
def partsOf (affected : Nat) : Nat → Text → Option (List ModeChange)
  | 0, _ => none
  | _ + 1, [] => some []
  | fuel + 1, sign :: rest =>
    if ¬ "+-=".toList.contains sign then none
    else
      let digits := rest.takeWhile isOctalDigit
      let copied := (rest.head?).bind copiedPlace
      if ¬ digits.isEmpty then
        (partsOf affected fuel (rest.drop digits.length)).map
          (⟨if affected = 0 then 0o7777 else affected, sign, ⟨octalValue digits, none, false⟩⟩ :: ·)
      else if copied.isSome then
        (partsOf affected fuel (rest.drop 1)).map (⟨affected, sign, ⟨0, copied, false⟩⟩ :: ·)
      else
        let letters := rest.takeWhile fun c => (letterBits c).isSome
        (partsOf affected fuel (rest.drop letters.length)).map
          (⟨affected, sign, grantOf letters⟩ :: ·)

/-- The parts of a clause. -/
def clauseOf (clause : Text) : Option (List ModeChange) :=
  let who := clause.takeWhile fun c => (affectedBits c).isSome
  let affected := (who.filterMap affectedBits).foldl (· ||| ·) 0
  match clause.drop who.length with
  | [] => none
  | signs => partsOf affected (signs.length + 1) signs

/-- The rule that a text stands for. -/
def ofText? (text : Text) : Option ModeRule :=
  if !text.isEmpty && text.all isOctalDigit then
    let n := octalValue text
    if n ≤ 0o7777 then some (.exact n) else none
  else ((text.splitOn ',').mapM clauseOf).map fun clauses => .stepwise clauses.flatten

/-- The permissions after one change.  A mask takes away from what is granted to nobody in
particular. -/
def changed (isDirectory : Bool) (mask permissions : Nat) (change : ModeChange) : Nat :=
  let grant := change.grant
  let copied := match grant.copied with
    | some place => (permissions / place % 8) * 0o111
    | none => 0
  let executed :=
    if grant.conditional && (isDirectory || permissions &&& 0o111 != 0) then 0o111 else 0
  let reach := if change.affected = 0 then 0o7777 ^^^ mask else change.affected
  let bits := (grant.bits ||| copied ||| executed) &&& reach
  match change.sign with
  | '+' => permissions ||| bits
  | '-' => permissions &&& (0o7777 ^^^ bits)
  | _ =>
    let kept := if change.affected = 0 then 0 else 0o7777 ^^^ change.affected
    (permissions &&& kept) ||| bits

/-- The permissions after a change by the rule. -/
def apply (rule : ModeRule) (isDirectory : Bool) (mask permissions : Nat) : Nat :=
  match rule with
  | .exact permissions => permissions
  | .stepwise changes => changes.foldl (changed isDirectory mask) permissions

end ModeRule

/-- Permissions as nine letters. -/
def permissionText (permissions : Nat) : Text :=
  let letters (place special : Nat) (letter : Char) : Text :=
    let bits := permissions / place % 8
    let marked := permissions &&& special != 0
    [if bits &&& 4 ≠ 0 then 'r' else '-', if bits &&& 2 ≠ 0 then 'w' else '-',
      if bits &&& 1 ≠ 0 then (if marked then letter else 'x')
      else if marked then letter.toUpper else '-']
  letters 64 0o4000 's' ++ letters 8 0o2000 's' ++ letters 1 0o1000 't'

/-- Permissions in octal digits. -/
def permissionDigits (width permissions : Nat) : Text :=
  (Layout.mk ['0'] width none).unsigned 'o' permissions

/-- The letter for a kind of file. -/
def kindLetter : FileKind → Char
  | .directory => 'd'
  | .regular => '-'
  | .link => 'l'
  | .fifo => 'p'
  | .device => 'c'

end TaskRunner.Program
