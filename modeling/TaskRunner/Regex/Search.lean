import TaskRunner.Regex

/-! Searching with regular expressions.  Of the places where an expression fits, the first one
counts, and there the longest.  An expression is turned into instructions; several threads carry
them out side by side, one character at a time, and so no time is lost on going back. -/

namespace TaskRunner

/-! ### Edges -/

/-- The character of a word stands at a place. -/
def isWordAt (subject : Array Char) (place : Nat) : Bool :=
  (subject[place]?).any isNameChar

/-- The character of a word stands before a place. -/
def isWordBefore (subject : Array Char) (place : Nat) : Bool :=
  0 < place && isWordAt subject (place - 1)

/-- A place is an edge of some kind. -/
def Edge.isAt (edge : Edge) (manyLines : Bool) (subject : Array Char) (place : Nat) : Bool :=
  let before := isWordBefore subject place
  let after := isWordAt subject place
  match edge with
  | .textStart => place == 0
  | .textEnd => place == subject.size
  | .lineStart => place == 0 || manyLines && subject[place - 1]? == some '\n'
  | .lineEnd => place == subject.size || manyLines && subject[place]? == some '\n'
  | .wordStart => !before && after
  | .wordEnd => before && !after
  | .wordEdge => before != after
  | .noWordEdge => before == after
  | .noWordBefore => !before
  | .noWordAfter => !after

namespace Regex

/-! ### Instructions -/

/-- An instruction: what has to hold, and where to go on. -/
inductive Instruction where
  | one (holds : Char → Bool) (next : Nat)
  | split (first second : Nat)
  | mark (slot next : Nat)
  | edge (kind : Edge) (next : Nat)
  | back (n next : Nat)
  | accept

/-- An expression made ready for searching.  In text of many lines the edges of lines lie at line
feeds, too. -/
structure Matcher where
  code : Array Instruction
  entry : Nat
  groups : Nat
  refers : Bool
  folds : Bool
  manyLines : Bool

/-- Something done to a place in the code some number of times. -/
def copies (emit : Nat → Array Instruction → Nat × Array Instruction) :
    Nat → Nat → Array Instruction → Nat × Array Instruction
  | 0, next, code => (next, code)
  | n + 1, next, code =>
    let (entry, code) := emit next code
    copies emit n entry code

/-- The code of an expression in front of what follows it, and where it begins. -/
def emit : Regex → Nat → Array Instruction → Nat × Array Instruction
  | .nothing, next, code => (next, code)
  | .one holds, next, code => (code.size, code.push (.one holds next))
  | .edge kind, next, code => (code.size, code.push (.edge kind next))
  | .back n, next, code => (code.size, code.push (.back n next))
  | .both first second, next, code =>
    let (entry, code) := second.emit next code
    first.emit entry code
  | .either first second, next, code =>
    let (a, code) := first.emit next code
    let (b, code) := second.emit next code
    (code.size, code.push (.split a b))
  | .group n body, next, code =>
    let (entry, code) := body.emit code.size (code.push (.mark (2 * n + 1) next))
    (code.size, code.push (.mark (2 * n) entry))
  | .repeated least most body, next, code =>
    let (entry, code) := match most with
      | none =>
        let loop := code.size
        let (entry, code) := body.emit loop (code.push (.split next next))
        (loop, code.set! loop (.split entry next))
      | some most =>
        copies (fun after code =>
          let (entry, code) := body.emit after code
          (code.size, code.push (.split entry next))) (most - least) next code
    copies (fun after code => body.emit after code) least entry code

/-- The expression made ready for searching. -/
def matcher (regex : Regex) (folds manyLines : Bool) : Matcher :=
  let regex := if folds then regex.folded else regex
  let (entry, code) := regex.emit 0 #[.accept]
  ⟨code, entry, regex.groups, regex.refers, folds, manyLines⟩

/-- A place where an expression fits.  The slots of group `n` are `2 * n` and `2 * n + 1`. -/
structure Hit where
  start : Nat
  stop : Nat
  slots : List (Nat × Nat)
deriving DecidableEq, Repr

namespace Hit

/-- Where the text of a group begins and ends.  Group zero is the whole. -/
def group? (hit : Hit) (n : Nat) : Option (Nat × Nat) :=
  if n = 0 then some (hit.start, hit.stop)
  else
    match hit.slots.lookup (2 * n), hit.slots.lookup (2 * n + 1) with
    | some start, some stop => if start ≤ stop then some (start, stop) else none
    | _, _ => none

/-- The text of a group. -/
def text (hit : Hit) (subject : Array Char) (n : Nat) : Text :=
  match hit.group? n with
  | some (start, stop) => (subject.extract start stop).toList
  | none => []

end Hit

/-! ### Threads side by side -/

/-- A thread: the instruction it has come to, and where it began. -/
structure Thread where
  place : Nat
  start : Nat

namespace Matcher

/-- The threads that have come to a character or to the end, from some that have just been moved.
Where two meet, only the one that comes first goes on. -/
def spread (matcher : Matcher) (subject : Array Char) (position : Nat) :
    Nat → List Thread → Array Bool → Array Thread → Array Thread
  | 0, _, _, found => found
  | _ + 1, [], _, found => found
  | fuel + 1, thread :: rest, seen, found =>
    if seen.getD thread.place true then matcher.spread subject position fuel rest seen found
    else
      let seen := seen.set! thread.place true
      let moved (next : Nat) : Thread := { thread with place := next }
      match matcher.code[thread.place]? with
      | some (.split first second) =>
        matcher.spread subject position fuel (moved first :: moved second :: rest) seen found
      | some (.mark _ next) =>
        matcher.spread subject position fuel (moved next :: rest) seen found
      | some (.edge kind next) =>
        let rest :=
          if kind.isAt matcher.manyLines subject position then moved next :: rest else rest
        matcher.spread subject position fuel rest seen found
      | _ => matcher.spread subject position fuel rest seen (found.push thread)

/-- A thread has come to its end. -/
def isDone (matcher : Matcher) (thread : Thread) : Bool :=
  match matcher.code[thread.place]? with
  | some .accept => true
  | _ => false

/-- The better one of what was found before and what some threads have found at a position. -/
def better (matcher : Matcher) (position : Nat) (best : Option (Nat × Nat))
    (threads : Array Thread) : Option (Nat × Nat) :=
  match threads.toList.find? matcher.isDone with
  | none => best
  | some thread =>
    match best with
    | some (start, _) => if thread.start ≤ start then some (thread.start, position) else best
    | none => some (thread.start, position)

/-- The threads after a character, the ones that begin later left out if something was found. -/
def stepped (matcher : Matcher) (best : Option (Nat × Nat)) (c : Char) (threads : Array Thread) :
    List Thread :=
  threads.toList.filterMap fun thread =>
    if best.any (fun found => found.1 < thread.start) then none
    else
      match (matcher.code[thread.place]? : Option Instruction) with
      | some (.one holds next) => if holds c then some { thread with place := next } else none
      | _ => none

/-- The first of the longest places where the expression fits, from a position on. -/
def scan (matcher : Matcher) (subject : Array Char) :
    Nat → Nat → Option (Nat × Nat) → List Thread → Option (Nat × Nat)
  | 0, _, best, _ => best
  | fuel + 1, position, best, threads =>
    let threads := if best.isNone then threads ++ [⟨matcher.entry, position⟩] else threads
    if threads.isEmpty then best
    else
      let size := matcher.code.size
      let found := matcher.spread subject position (3 * size + threads.length + 1) threads
        (Array.replicate size false) #[]
      let best := matcher.better position best found
      match subject[position]? with
      | none => best
      | some c => matcher.scan subject fuel (position + 1) best (matcher.stepped best c found)

/-! ### One thread after the other -/

/-- A thread with what it has marked, the last mark first. -/
structure Trail where
  place : Nat
  position : Nat
  slots : List (Nat × Nat)

/-- What a group stands for on a trail. -/
def trailText (subject : Array Char) (trail : Trail) (n : Nat) : Array Char :=
  match trail.slots.lookup (2 * n), trail.slots.lookup (2 * n + 1) with
  | some start, some stop => subject.extract start stop
  | _, _ => #[]

/-- A text stands at a position. -/
def standsAt (folds : Bool) (subject text : Array Char) (position : Nat) : Bool :=
  let same (a b : Char) : Bool := if folds then a.toLower == b.toLower else a == b
  (List.range text.size).all fun i =>
    match subject[position + i]?, text[i]? with
    | some a, some b => same a b
    | _, _ => false

/-- The trails on which a thread goes on from where it is, the better one first. -/
def next (matcher : Matcher) (subject : Array Char) (trail : Trail) : List Trail :=
  match matcher.code[trail.place]? with
  | some (.one holds next) =>
    match subject[trail.position]? with
    | some c =>
      if holds c then [{ trail with place := next, position := trail.position + 1 }] else []
    | none => []
  | some (.split first second) => [{ trail with place := first }, { trail with place := second }]
  | some (.mark slot next) =>
    [{ trail with place := next, slots := (slot, trail.position) :: trail.slots }]
  | some (.edge kind next) =>
    if kind.isAt matcher.manyLines subject trail.position then [{ trail with place := next }]
    else []
  | some (.back n next) =>
    let text := trailText subject trail n
    if standsAt matcher.folds subject text trail.position then
      [{ trail with place := next, position := trail.position + text.size }]
    else []
  | _ => []

/-- The marks of the best trail that ends at a position.  No instruction need be tried twice at the
same place. -/
def trace (matcher : Matcher) (subject : Array Char) (start stop : Nat) :
    Nat → List Trail → Array Bool → List (Nat × Nat)
  | 0, _, _ => []
  | _ + 1, [], _ => []
  | fuel + 1, trail :: rest, seen =>
    let key := (trail.position - start) * matcher.code.size + trail.place
    if seen.getD key true then matcher.trace subject start stop fuel rest seen
    else
      let seen := seen.set! key true
      match matcher.code[trail.place]? with
      | some .accept =>
        if trail.position = stop then trail.slots
        else matcher.trace subject start stop fuel rest seen
      | _ => matcher.trace subject start stop fuel (matcher.next subject trail ++ rest) seen

/-- The longest trail from a position, for expressions that refer to their groups. -/
def explore (matcher : Matcher) (subject : Array Char) :
    Nat → List Trail → Option Trail → Option Trail
  | 0, _, best => best
  | _ + 1, [], best => best
  | fuel + 1, trail :: rest, best =>
    match matcher.code[trail.place]? with
    | some .accept =>
      let best := match best with
        | some found => if found.position < trail.position then some trail else best
        | none => some trail
      matcher.explore subject fuel rest best
    | _ => matcher.explore subject fuel (matcher.next subject trail ++ rest) best

/-- How many steps are made from one position for an expression that refers to its groups. -/
def exploreLimit : Nat := 200000

/-- The first place where an expression that refers to its groups fits, from a position on. -/
def exploreFrom (matcher : Matcher) (subject : Array Char) : Nat → Nat → Option Hit
  | 0, _ => none
  | fuel + 1, position =>
    match matcher.explore subject exploreLimit [⟨matcher.entry, position, []⟩] none with
    | some trail => some ⟨position, trail.position, trail.slots⟩
    | none => matcher.exploreFrom subject fuel (position + 1)

/-- The first place where the expression fits, from a position on. -/
def find? (matcher : Matcher) (subject : Array Char) (position : Nat) : Option Hit :=
  if subject.size < position then none
  else if matcher.refers then
    matcher.exploreFrom subject (subject.size + 1 - position) position
  else
    match matcher.scan subject (subject.size + 1 - position) position none [] with
    | none => none
    | some (start, stop) =>
      if matcher.groups = 0 then some ⟨start, stop, []⟩
      else
        let places := (stop + 1 - start) * matcher.code.size
        some ⟨start, stop, matcher.trace subject start stop (3 * places + 1)
          [⟨matcher.entry, start, []⟩] (Array.replicate places false)⟩

/-- The expression fits somewhere in a text. -/
def fits (matcher : Matcher) (subject : Array Char) : Bool :=
  (matcher.find? subject 0).isSome

/-- The places where the expression fits, one after the other.  Right behind a place the empty text
is no place. -/
def findAll (matcher : Matcher) (subject : Array Char) : Nat → Nat → Option Nat → List Hit
  | 0, _, _ => []
  | fuel + 1, position, last =>
    match matcher.find? subject position with
    | none => []
    | some hit =>
      if hit.start < hit.stop then
        hit :: matcher.findAll subject fuel hit.stop (some hit.stop)
      else if last = some hit.start then matcher.findAll subject fuel (position + 1) none
      else hit :: matcher.findAll subject fuel (hit.stop + 1) none

end Matcher

end Regex

end TaskRunner
