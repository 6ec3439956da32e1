import TaskRunner.Program.Join

/-! Programs that choose the order of lines: `tsort` puts names after those that must come before
them, and `shuf` picks lines at will. -/

namespace TaskRunner.Program

open Tool

/-! ### `tsort` -/

/-- A name that is put in order: how many names it still waits for, and those that wait for it. -/
structure Waiting where
  count : Nat
  followers : List String

/-- The names with one more demand: the first is to come before the second. -/
def withDemand (names : List (String × Waiting)) (first second : String) :
    List (String × Waiting) :=
  let known (names : List (String × Waiting)) (name : String) : List (String × Waiting) :=
    if (names.lookup name).isSome then names else (name, ⟨0, []⟩) :: names
  let names := known (known names first) second
  if first = second then names
  else
    names.map fun (name, waiting) =>
      if name = first then (name, { waiting with followers := second :: waiting.followers })
      else if name = second then (name, { waiting with count := waiting.count + 1 })
      else (name, waiting)

/-- The names after one of them has come: those that waited for it wait for one less; and those of
them that wait for nothing any more. -/
def afterName (names : List (String × Waiting)) :
    List String → List (String × Waiting) × List String
  | [] => (names, [])
  | follower :: followers =>
    let names := names.map fun (name, waiting) =>
      if name = follower then (name, { waiting with count := waiting.count - 1 })
      else (name, waiting)
    let (rest, ready) := afterName names followers
    if (names.lookup follower).any (·.count == 0) then (rest, follower :: ready)
    else (rest, ready)

/-- A circle of names in which each waits for the next, found by going from a name to one that it
waits for. -/
def circleFrom (names : List (String × Waiting)) : Nat → List String → List String
  | 0, path => path
  | fuel + 1, path =>
    match path with
    | [] => []
    | name :: _ =>
      let before := names.find? fun entry => entry.2.followers.contains name
      match before with
      | none => path
      | some (other, _) =>
        if path.contains other then
          other :: (path.takeWhile (· != other))
        else circleFrom names fuel (other :: path)

/-- Puts names in order, those that are ready first.  A circle is told of and then broken. -/
def putInOrder (path : Text) : Nat → List (String × Waiting) → List String → Tool Unit
  | 0, _, _ => return
  | fuel + 1, names, name :: ready => do
    sayLine name.toList
    let followers := match names.lookup name with
      | some waiting => waiting.followers
      | none => []
    let names := names.filter fun entry => entry.1 != name
    let (names, more) := afterName names followers
    putInOrder path fuel names (ready ++ more)
  | fuel + 1, names, [] => do
    match names with
    | [] => return
    | (name, _) :: _ => do
      complain 1 (shownName path ++ ": input contains a loop:")
      let circle := circleFrom names names.length [name]
      each (fun name => warn name.toList) circle
      match circle.head?, circle.getLast? with
      | some first, some last =>
        let names := names.map fun (name, waiting) =>
          if name = last then (name, { waiting with followers := waiting.followers.erase first })
          else if name = first then (name, { waiting with count := waiting.count - 1 })
          else (name, waiting)
        let ready := names.filterMap fun entry =>
          if entry.2.count = 0 then some entry.1 else none
        putInOrder path fuel names ready
      | _, _ => return

/-- The pairs of neighbours in a list. -/
def inPairs {α : Type} : List α → List (α × α)
  | a :: b :: rest => (a, b) :: inPairs rest
  | _ => []

/-- The program `tsort`. -/
def tsort (call : Call) : Task :=
  withOptions 1 1 (.letters "" "") call fun options => do
    let path ← match options.operands with
      | [] => pure standardInput
      | [path] => pure path
      | _ :: extra :: _ => misuse 1 ("extra operand " ++ quoted extra)
    let descriptor ← if path = standardInput then pure 0 else
      match ← openInput path with
      | .ok descriptor => pure descriptor
      | .error refusal => fail 1 (about path refusal)
    let (text, outcome) ← act (Act.readAll descriptor)
    match outcome with
    | .error refusal => fail 1 (shownName path ++ ": read error: " ++ refusal.message)
    | .ok () => pure ()
    let words := ((splitOn isSpaceChar text).filter fun word => !word.isEmpty).map String.ofList
    if words.length % 2 = 1 then
      fail 1 (shownName path ++ ": input contains an odd number of tokens")
    let names := (inPairs words).foldl (fun names pair => withDemand names pair.1 pair.2) []
    let names := names.mergeSort fun a b => !decide (b.1 < a.1)
    let ready := names.filterMap fun entry => if entry.2.count = 0 then some entry.1 else none
    putInOrder path (2 * words.length + 1) names ready

/-! ### `shuf` -/

/-- The numbers of a range. -/
def numberRange (text : Text) : Tool (List Text) := do
  let refuse : Tool (List Text) := fail 1 ("invalid input range: " ++ quoted text)
  let low := text.takeWhile (· != '-')
  match wholeNumber? low, wholeNumber? (text.drop (low.length + 1)) with
  | some low, some high =>
    if high + 1 < low then refuse
    else return (List.range (high + 1 - low)).map fun n => decimal (low + n)
  | _, _ => refuse

/-- Says lines over and over, as often as is wanted or as long as they are taken. -/
def sayAgain (mark : Char) (lines : List Text) (count : Option Nat) : Tool Unit :=
  loop (fun left : Option Nat => do
    if left = some 0 ∨ lines.isEmpty ∨ (← get).refused.isSome then return .inr ()
    let part := match left with
      | some n => lines.take n
      | none => lines
    each (fun line => say (line ++ [mark])) part
    return .inl (left.map (· - part.length)))
    (fun _ => pure ()) count

/-- The program `shuf`.  Every order is as good as any other one, so lines stay as they are. -/
def shuf (call : Call) : Task :=
  let switches : Switches :=
    ⟨"erz", "ion", "",
      [("echo", .nothing, "e"), ("input-range", .value, "i"), ("head-count", .value, "n"),
        ("output", .value, "o"), ("random-source", .value, "random-source"),
        ("repeat", .nothing, "r"), ("zero-terminated", .nothing, "z")], false⟩
  withOptions 1 1 switches call fun options => do
    let mark := if options.has "z" then '\x00' else '\n'
    let count ← match options.value? "n" with
      | none => pure none
      | some text =>
        match wholeNumber? text with
        | some n => pure (some n)
        | none => fail 1 ("invalid line count: " ++ quoted text)
    if 1 < (options.values "i").length then fail 1 "multiple -i options specified"
    let extra (operands : List Text) : Tool Unit := do
      match operands with
      | [] => return
      | operand :: _ => misuse 1 ("extra operand " ++ quoted operand)
    let lines ←
      if options.has "e" then pure options.operands
      else
        match options.value? "i" with
        | some range => do
          let lines ← numberRange range
          extra options.operands
          pure lines
        | none => do
          extra options.operands.tail
          let input ← joinLines mark (options.operands.headD standardInput)
          pure input.rest
    match options.value? "o" with
    | none => pure ()
    | some path =>
      match ← ask (.openFile path .output 438) with
      | .ok descriptor => do
        let _ ← ask (.copy descriptor 1)
      | .error refusal => fail 1 (about path refusal)
    if options.has "r" then
      if lines.isEmpty ∧ count ≠ some 0 then fail 1 "no lines to repeat"
      sayAgain mark lines count
    else sayAgain mark lines (some (min lines.length (count.getD lines.length)))

end TaskRunner.Program
