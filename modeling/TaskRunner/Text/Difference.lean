import Std.Data.HashMap
import TaskRunner.Text.Octet

/-! Differences between two lists of lines: the lines that have to be removed and added, as few as
possible.  The search goes from both ends at once, and splits the lists where the two meet. -/

namespace TaskRunner.Difference

/-- A stretch of lines that differ: the lines from `start` on in each list, and how many they are.
-/
structure Hunk where
  first : Nat
  removed : Nat
  second : Nat
  added : Nat
deriving DecidableEq, Repr

/-- Lines as numbers that are the same for equal lines, and the numbers that were given so far. -/
def numbered (lines : List String) (known : Std.HashMap String Nat) :
    Array Nat × Std.HashMap String Nat :=
  lines.foldl (fun (found : Array Nat × Std.HashMap String Nat) line =>
    match found.2[line]? with
    | some n => (found.1.push n, found.2)
    | none => (found.1.push found.2.size, found.2.insert line found.2.size)) (#[], known)

/-- A part of two lists: the places from where to where in each. -/
structure Window where
  left : Int
  right : Int
  low : Int
  high : Int
deriving DecidableEq, Repr

/-- The member at a place, or a number that stands for none. -/
def itemAt (items : Array Nat) (place : Int) : Nat :=
  items.getD place.toNat items.size

/-- Two lists that are compared. -/
structure Pair where
  xs : Array Nat
  ys : Array Nat

namespace Pair

/-- The members at two places are equal. -/
def same (pair : Pair) (x y : Int) : Bool :=
  itemAt pair.xs x == itemAt pair.ys y

/-- The place where equal members end, from a place on.  The first argument bounds how many there
are. -/
def slideUp (pair : Pair) (window : Window) : Nat → Int → Int → Int
  | 0, x, _ => x
  | fuel + 1, x, y =>
    if x < window.right ∧ y < window.high ∧ pair.same x y then
      slideUp pair window fuel (x + 1) (y + 1)
    else x

/-- The place where equal members begin, up to a place.  The first argument bounds how many there
are. -/
def slideDown (pair : Pair) (window : Window) : Nat → Int → Int → Int
  | 0, x, _ => x
  | fuel + 1, x, y =>
    if window.left < x ∧ window.low < y ∧ pair.same (x - 1) (y - 1) then
      slideDown pair window fuel (x - 1) (y - 1)
    else x

/-- How many steps a slide can have. -/
def bound (pair : Pair) : Nat := pair.xs.size + pair.ys.size + 1

end Pair

/-- How far a search has come: the furthest place on each diagonal, and the diagonals that have been
reached. -/
structure Front where
  reach : Std.HashMap Int Int
  least : Int
  most : Int

namespace Front

/-- The front that begins on a diagonal. -/
def start (diagonal place : Int) : Front := ⟨(∅ : Std.HashMap Int Int).insert diagonal place,
  diagonal, diagonal⟩

/-- The place that is reached on a diagonal. -/
def at_ (front : Front) (diagonal : Int) : Int :=
  front.reach.getD diagonal 0

/-- The front with a place on a diagonal. -/
def put (front : Front) (diagonal place : Int) : Front :=
  { front with reach := front.reach.insert diagonal place }

/-- The diagonal has been reached. -/
def covers (front : Front) (diagonal : Int) : Bool :=
  front.least ≤ diagonal && diagonal ≤ front.most

/-- The front with a diagonal more on each side, as far as the window allows; `edge` is what is
reached beyond the sides. -/
def widened (front : Front) (window : Window) (edge : Int) : Front :=
  let dmin := window.left - window.high
  let dmax := window.right - window.low
  let front :=
    if dmin < front.least then
      { front with least := front.least - 1 }.put (front.least - 2) edge
    else { front with least := front.least + 1 }
  if front.most < dmax then { front with most := front.most + 1 }.put (front.most + 2) edge
  else { front with most := front.most - 1 }

end Front

/-- Where a search goes from a diagonal: the front after some diagonals, or the place where it meets
the other front. -/
inductive Advance where
  | front (front : Front)
  | meets (x y : Int)

/-- A step of the search from the beginning, on all diagonals from one downwards.  The first
argument bounds how many there are. -/
def stepUp (pair : Pair) (window : Window) (other : Front) (odd : Bool) :
    Nat → Int → Front → Advance
  | 0, _, front => .front front
  | fuel + 1, d, front =>
    if d < front.least then .front front
    else
      let low := front.at_ (d - 1)
      let high := front.at_ (d + 1)
      let start := if low < high then high else low + 1
      let x := pair.slideUp window pair.bound start (start - d)
      let front := front.put d x
      if odd ∧ other.covers d ∧ other.at_ d ≤ x then .meets x (x - d)
      else stepUp pair window other odd fuel (d - 2) front

/-- A step of the search from the end, on all diagonals from one downwards.  The first argument
bounds how many there are. -/
def stepDown (pair : Pair) (window : Window) (other : Front) (odd : Bool) :
    Nat → Int → Front → Advance
  | 0, _, front => .front front
  | fuel + 1, d, front =>
    if d < front.least then .front front
    else
      let low := front.at_ (d - 1)
      let high := front.at_ (d + 1)
      let start := if low < high then low else high - 1
      let x := pair.slideDown window pair.bound start (start - d)
      let front := front.put d x
      if ¬ odd ∧ other.covers d ∧ x ≤ other.at_ d then .meets x (x - d)
      else stepDown pair window other odd fuel (d - 2) front

/-- A place that nothing reaches. -/
def farAway : Int := 1000000000000

/-- The place where the searches from both ends meet.  The first argument bounds how many steps they
take. -/
def middle (pair : Pair) (window : Window) (odd : Bool) : Nat → Front → Front → Int × Int
  | 0, _, _ => (window.left, window.low)
  | fuel + 1, up, down =>
    let up := up.widened window (-1)
    match stepUp pair window down odd pair.bound up.most up with
    | .meets x y => (x, y)
    | .front up =>
      let down := down.widened window farAway
      match stepDown pair window up odd pair.bound down.most down with
      | .meets x y => (x, y)
      | .front down => middle pair window odd fuel up down

/-- The members that differ: the places in the first list and in the second one. -/
structure Places where
  removed : List Int
  added : List Int
deriving DecidableEq, Repr

/-- The numbers from one up to another. -/
def between (start stop : Int) : List Int :=
  (List.range (stop - start).toNat).map fun (i : Nat) => start + i

/-- The places that differ in a window.  The first argument bounds how often it is split. -/
def differing (pair : Pair) : Nat → Window → Places
  | 0, _ => ⟨[], []⟩
  | fuel + 1, window =>
    let left := pair.slideUp window pair.bound window.left window.low
    let window := { window with left, low := window.low + (left - window.left) }
    let right := pair.slideDown window pair.bound window.right window.high
    let window := { window with right, high := window.high - (window.right - right) }
    if window.left = window.right then ⟨[], between window.low window.high⟩
    else if window.low = window.high then ⟨between window.left window.right, []⟩
    else
      let up := window.left - window.low
      let down := window.right - window.high
      let odd := (up - down) % 2 ≠ 0
      let (x, y) := middle pair window odd pair.bound (.start up window.left)
        (.start down window.right)
      let before := differing pair fuel { window with right := x, high := y }
      let after := differing pair fuel { window with left := x, low := y }
      ⟨before.removed ++ after.removed, before.added ++ after.added⟩

/-- Members with their places, without those that the other list lacks. -/
def shared (items others : Array Nat) : Array (Nat × Nat) :=
  let known : Std.HashMap Nat Unit := others.foldl (fun known n => known.insert n ()) ∅
  (items.zipIdx).filter fun entry => known.contains entry.1

/-- Which members of a list differ: those that the other list lacks, and those at some places among
the others. -/
def marked (size : Nat) (kept : Array (Nat × Nat)) (places : List Int) : Array Bool :=
  let all := kept.foldl (fun marks entry => marks.set! entry.2 false) (Array.replicate size true)
  places.foldl (fun marks place =>
    match kept[place.toNat]? with
    | some entry => marks.set! entry.2 true
    | none => marks) all

/-! ### Moving stretches -/

/-- A stretch of marked members that is being moved: from `start` up to `stop`, and the place in the
other list that corresponds to its end. -/
structure Moving where
  marks : Array Bool
  start : Nat
  stop : Nat
  other : Nat

/-- The member is marked. -/
def isMarked (marks : Array Bool) (place : Nat) : Bool := marks.getD place false

/-- The first place from one on that is not marked.  The first argument bounds how far it is. -/
def skipMarked (marks : Array Bool) : Nat → Nat → Nat
  | 0, place => place
  | fuel + 1, place => if isMarked marks place then skipMarked marks fuel (place + 1) else place

/-- The last place before one such that the place itself is not marked. -/
def skipMarkedBack (marks : Array Bool) : Nat → Nat
  | 0 => 0
  | place + 1 => if isMarked marks place then skipMarkedBack marks place else place

/-- The first place of the marked stretch that ends before a place. -/
def stretchStart (marks : Array Bool) : Nat → Nat
  | 0 => 0
  | place + 1 => if isMarked marks place then stretchStart marks place else place + 1

/-- Moves a stretch towards the beginning as far as it goes.  The first argument bounds how far that
is. -/
def moveBack (items : Array Nat) (others : Array Bool) : Nat → Moving → Moving
  | 0, moving => moving
  | fuel + 1, moving =>
    if 0 < moving.start ∧ items[moving.start - 1]? = items[moving.stop - 1]? then
      let marks := (moving.marks.set! (moving.start - 1) true).set! (moving.stop - 1) false
      moveBack items others fuel
        { marks
          start := stretchStart marks (moving.start - 1)
          stop := moving.stop - 1
          other := skipMarkedBack others moving.other }
    else moving

/-- Moves a stretch towards the end as far as it goes, and says at what end it last corresponded to
a marked stretch of the other list.  The first argument bounds how far that is. -/
def moveOn (items : Array Nat) (others : Array Bool) : Nat → Moving → Option Nat →
    Moving × Option Nat
  | 0, moving, corresponding => (moving, corresponding)
  | fuel + 1, moving, corresponding =>
    if moving.stop < items.size ∧ items[moving.start]? = items[moving.stop]? then
      let marks := (moving.marks.set! moving.start false).set! moving.stop true
      let stop := skipMarked marks (items.size + 1) (moving.stop + 1)
      let other := skipMarked others (others.size + 1) (moving.other + 1)
      let corresponding := if moving.other + 1 < other then some stop else corresponding
      moveOn items others fuel ⟨marks, moving.start + 1, stop, other⟩ corresponding
    else (moving, corresponding)

/-- Moves a stretch back and forth until it grows no more.  The first argument bounds how often it
grows. -/
def settle (items : Array Nat) (others : Array Bool) : Nat → Moving → Moving × Option Nat
  | 0, moving => (moving, none)
  | fuel + 1, moving =>
    let size := moving.stop - moving.start
    let moving := moveBack items others (items.size + 1) moving
    let corresponding :=
      if 0 < moving.other ∧ isMarked others (moving.other - 1) then some moving.stop else none
    let (moving, corresponding) := moveOn items others (items.size + 1) moving corresponding
    if size = moving.stop - moving.start then (moving, corresponding)
    else settle items others fuel moving

/-- Moves a stretch back to where it corresponded to one of the other list.  The first argument
bounds how far that is. -/
def moveTo (others : Array Bool) (corresponding : Nat) : Nat → Moving → Moving
  | 0, moving => moving
  | fuel + 1, moving =>
    if corresponding < moving.stop then
      let marks := (moving.marks.set! (moving.start - 1) true).set! (moving.stop - 1) false
      moveTo others corresponding fuel
        ⟨marks, moving.start - 1, moving.stop - 1, skipMarkedBack others moving.other⟩
    else moving

/-- Moves all stretches of a list towards the end, or to where they correspond to stretches of the
other list.  `place` and `other` are places that correspond to each other; the first argument bounds
how many places there are. -/
def shifted (items : Array Nat) (others : Array Bool) : Nat → Nat → Nat → Array Bool → Array Bool
  | 0, _, _, marks => marks
  | fuel + 1, place, other, marks =>
    if items.size ≤ place then marks
    else if ¬ isMarked marks place then
      shifted items others fuel (place + 1)
        (skipMarked others (others.size + 1) other + 1) marks
    else
      let stop := skipMarked marks (items.size + 1) place
      let other := skipMarked others (others.size + 1) other
      let (moving, corresponding) :=
        settle items others (items.size + 1) ⟨marks, place, stop, other⟩
      let moving := match corresponding with
        | some corresponding => moveTo others corresponding (items.size + 1) moving
        | none => moving
      shifted items others fuel moving.stop moving.other moving.marks

/-! ### Hunks -/

/-- The stretches that two lists of marks tell of, from two places that correspond to each other on.
The first argument bounds how many there are. -/
def hunksOf (first second : Array Bool) : Nat → Nat → Nat → List Hunk
  | 0, _, _ => []
  | fuel + 1, i, j =>
    if isMarked first i ∨ isMarked second j then
      let i' := skipMarked first (first.size + 1) i
      let j' := skipMarked second (second.size + 1) j
      ⟨i, i' - i, j, j' - j⟩ :: hunksOf first second fuel i' j'
    else if i < first.size ∨ j < second.size then hunksOf first second fuel (i + 1) (j + 1)
    else []

/-- How many members two lists have in common at their beginning. -/
def commonFront : List Nat → List Nat → Nat
  | a :: xs, b :: ys => if a = b then commonFront xs ys + 1 else 0
  | _, _ => 0

/-- The stretches in which two lists of lines differ. -/
def hunks (first second : List String) : List Hunk :=
  let (xs, known) := numbered first ∅
  let (ys, _) := numbered second known
  let front := commonFront xs.toList ys.toList
  let xs := xs.extract front xs.size
  let ys := ys.extract front ys.size
  let back := commonFront xs.toList.reverse ys.toList.reverse
  let xs := xs.extract 0 (xs.size - back)
  let ys := ys.extract 0 (ys.size - back)
  let keptXs := shared xs ys
  let keptYs := shared ys xs
  let pair : Pair := ⟨keptXs.map Prod.fst, keptYs.map Prod.fst⟩
  let places := differing pair pair.bound ⟨0, keptXs.size, 0, keptYs.size⟩
  let removed := marked xs.size keptXs places.removed
  let added := marked ys.size keptYs places.added
  let bound := xs.size + ys.size + 1
  let removed := shifted xs added bound 0 0 removed
  let added := shifted ys removed bound 0 0 added
  (hunksOf removed added bound 0 0).map fun hunk =>
    { hunk with first := hunk.first + front, second := hunk.second + front }

end TaskRunner.Difference
