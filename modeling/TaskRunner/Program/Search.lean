import TaskRunner.Program.Column
import TaskRunner.Program.Walk
import TaskRunner.Regex.Parse
import TaskRunner.Regex.Search
import TaskRunner.Shell.Pattern

/-! The program `grep`, which shows the lines that an expression fits. -/

namespace TaskRunner.Program

open Tool

/-- The switches of `grep`. -/
def grepSwitches : Switches :=
  ⟨"EFGPHILRTUVZabchilnoqrsuvwxyz0123456789", "ABCDXdefm", "",
    [("basic-regexp", .nothing, "G"), ("extended-regexp", .nothing, "E"),
      ("fixed-regexp", .nothing, "F"), ("fixed-strings", .nothing, "F"),
      ("perl-regexp", .nothing, "P"), ("after-context", .value, "A"),
      ("before-context", .value, "B"), ("binary-files", .value, "binary-files"),
      ("byte-offset", .nothing, "b"), ("context", .value, "C"), ("color", .maybe, "color"),
      ("colour", .maybe, "color"), ("count", .nothing, "c"), ("directories", .value, "d"),
      ("exclude", .value, "exclude"), ("exclude-dir", .value, "exclude-dir"),
      ("file", .value, "f"), ("files-with-matches", .nothing, "l"),
      ("files-without-match", .nothing, "L"), ("ignore-case", .nothing, "i"),
      ("no-ignore-case", .nothing, "no-ignore-case"), ("include", .value, "include"),
      ("initial-tab", .nothing, "T"), ("invert-match", .nothing, "v"), ("label", .value, "label"),
      ("line-buffered", .nothing, "line-buffered"), ("line-number", .nothing, "n"),
      ("line-regexp", .nothing, "x"), ("max-count", .value, "m"), ("no-filename", .nothing, "h"),
      ("no-messages", .nothing, "s"), ("null", .nothing, "Z"), ("null-data", .nothing, "z"),
      ("only-matching", .nothing, "o"), ("quiet", .nothing, "q"), ("recursive", .nothing, "r"),
      ("dereference-recursive", .nothing, "R"), ("regexp", .value, "e"),
      ("silent", .nothing, "q"), ("text", .nothing, "a"), ("with-filename", .nothing, "H"),
      ("word-regexp", .nothing, "w")], false⟩

/-- What is searched for, and what is shown of what is found. -/
structure Search where
  matchers : List Regex.Matcher
  inverted : Bool
  parts : Bool
  counts : Bool
  lists : Option Bool
  quiet : Bool
  numbers : Bool
  offsets : Bool
  nulls : Bool
  text : Bool
  silent : Bool
  most : Option Nat
  before : Nat
  after : Nat
  contexts : Bool
  mark : Char

/-- The first and longest of the places where one of the expressions fits. -/
def Search.find? (search : Search) (line : Array Char) (position : Nat) :
    Option (Nat × Nat) :=
  search.matchers.foldl (fun best matcher =>
    match best, matcher.find? line position with
    | none, some hit => some (hit.start, hit.stop)
    | some (start, stop), some hit =>
      if hit.start < start ∨ (hit.start = start ∧ stop < hit.stop) then some (hit.start, hit.stop)
      else best
    | best, none => best) none

/-- The places in a line where the expressions fit, without the empty ones. -/
def Search.places (search : Search) (line : Array Char) : Nat → Nat → List (Nat × Nat)
  | 0, _ => []
  | fuel + 1, position =>
    match search.find? line position with
    | none => []
    | some (start, stop) =>
      if start < stop then (start, stop) :: search.places line fuel stop
      else search.places line fuel (start + 1)

/-- How far the search in a file has come: the number of lines and bytes so far, how many lines were
selected, the lines that may have to be shown as context, how many more lines are to be shown, and
the last line that was. -/
structure SearchState where
  number : Nat
  offset : Nat
  selected : Nat
  held : List (Nat × Nat × Text)
  owed : Nat
  shown : Nat
  separated : Bool
  binary : Bool

/-- Shows a line under its labels. -/
def showLine (search : Search) (label : Text) (separator : Char) (number offset : Nat)
    (text : Text) : Tool Unit :=
  let name : Text :=
    if label.isEmpty then [] else label ++ [if search.nulls then '\x00' else separator]
  let numberPart : Text := if search.numbers then decimal number ++ [separator] else []
  let offsetPart : Text := if search.offsets then decimal offset ++ [separator] else []
  say (name ++ numberPart ++ offsetPart ++ text ++ [search.mark])

/-- Shows a mark between groups of lines where some are left out. -/
def showGap (search : Search) (state : SearchState) (number : Nat) : Tool SearchState := do
  if search.contexts ∧ state.separated ∧ number ≠ state.shown + 1 then sayLine ['-', '-']
  return { state with separated := true, shown := number }

/-- What is done with a line that is not selected. -/
def passLine (search : Search) (label : Text) (state : SearchState) (line : Text) :
    Tool SearchState := do
  if 0 < state.owed then
    let state ← showGap search state state.number
    if ¬ search.parts then showLine search label '-' state.number state.offset line
    return { state with owed := state.owed - 1 }
  else
    let held := ((state.number, state.offset, line) :: state.held).take search.before
    return { state with held }

/-- What is done with a line that is selected. -/
def selectLine (search : Search) (label : Text) (state : SearchState) (line : Text)
    (subject : Array Char) : Tool SearchState := do
  let state := { state with selected := state.selected + 1 }
  if search.quiet || search.counts || search.lists.isSome then return state
  else
    let state ← fold (fun state (held : Nat × Nat × Text) => do
      let state ← showGap search state held.1
      if ¬ search.parts then showLine search label '-' held.1 held.2.1 held.2.2
      return state) state state.held.reverse
    let state := { state with held := [] }
    let state ← showGap search state state.number
    if search.parts then
      if ¬ search.inverted then
        each (fun (place : Nat × Nat) =>
          showLine search label ':' state.number (state.offset + place.1)
            (subject.extract place.1 place.2).toList)
          (search.places subject (subject.size + 2) 0)
    else showLine search label ':' state.number state.offset line
    return { state with owed := search.after }

/-- Searches the lines of a source.  Yields whether the search came to its end, and the source. -/
def searchLines (search : Search) (label name : Text) (source : Source) (state : SearchState) :
    Tool (Except Refusal Unit × SearchState) := do
  loop (fun (found : Source × SearchState) => do
    let (source, state) := found
    let full := search.most.any (· ≤ state.selected)
    if full ∧ state.owed = 0 then do
      if ¬ search.quiet ∧ search.lists.isNone then act source.giveBack
      return .inr (.ok (), state)
    else
      match ← act (source.line search.mark 32768) with
      | (.error refusal, _) => return .inr (.error refusal, state)
      | (.ok none, _) => return .inr (.ok (), state)
      | (.ok (some line), source) => do
        let subject := line.text.toArray
        let hit := (search.find? subject 0).isSome != search.inverted
        let state := { state with number := state.number + 1 }
        let binary := state.binary || (!search.text && line.text.contains '\x00')
        let state := { state with binary }
        let length := line.text.length + if line.ended then 1 else 0
        if full ∧ hit then do
          act source.giveBack
          return .inr (.ok (), state)
        else if hit ∧ ¬ full then
          if binary ∧ ¬ (search.quiet || search.counts || search.lists.isSome) then do
            warn (name ++ ": binary file matches")
            return .inr (.ok (), { state with selected := state.selected + 1 })
          else do
            let state ← selectLine search label state line.text subject
            return .inl (source, { state with offset := state.offset + length })
        else do
          let state ← passLine search label state line.text
          return .inl (source, { state with offset := state.offset + length }))
    (fun found => pure (.ok (), found.2)) (source, state)

/-- The text of a file of patterns. -/
def patternFile (path : Text) : Tool Text := do
  let opened ← if path = standardInput then pure (.ok 0) else openInput path
  match opened with
  | .error refusal => fail 2 (about path refusal)
  | .ok descriptor => do
    let (text, outcome) ← act (Act.readAll descriptor)
    match outcome with
    | .error refusal => fail 2 (about path refusal)
    | .ok () => return text

/-- Complains about the arguments of `grep`. -/
def grepUsage : Tool Unit := do
  let name := (← get).name
  Tool.writeError ("Usage: " ++ name ++ " [OPTION]... PATTERNS [FILE]...\nTry '" ++ name ++
    " --help' for more information.\n")
  setStatus 2
  finish 2

/-- A bracket with a class in it that stands by itself. -/
def isBareClass (pattern : Text) : Bool :=
  match pattern with
  | '[' :: ':' :: rest =>
    match rest.reverse with
    | ']' :: ':' :: _ => true
    | _ => false
  | _ => false

/-- The expression that a pattern stands for. -/
def patternRegex (options : Options) (pattern : Text) : Except Text Regex := do
  let style : Regex.Style := ⟨options.has "E" || options.has "P", false⟩
  let kind := options.lastOf ["E", "F", "G", "P"]
  if kind ≠ some "F" ∧ isBareClass pattern then
    wrong "character class syntax is [[:space:]], not [:space:]"
  let regex ←
    if kind = some "F" then pure (Regex.literal pattern)
    else
      match Regex.ofText style pattern with
      | .ok regex => pure regex
      | .error fault => wrong (fault.message : String)
  if options.has "x" then return .both (.edge .lineStart) (.both regex (.edge .lineEnd))
  else if options.has "w" then
    return .both (.edge .noWordBefore) (.both regex (.edge .noWordAfter))
  else return regex

/-- The expressions of some patterns made ready for searching. -/
def patternMatchers (options : Options) (patterns : List Text) :
    Except Text (List Regex.Matcher) := do
  let regexes ← patterns.mapM (patternRegex options)
  let folds := options.lastOf ["i", "y", "no-ignore-case"]
  let folds := folds == some "i" || folds == some "y"
  if regexes.any Regex.refers then return regexes.map fun regex => regex.matcher folds false
  else
    match regexes.map Regex.ungrouped with
    | [] => return []
    | first :: rest => return [(rest.foldl .either first).matcher folds false]

/-- A count of context lines, which may also be given by digits alone. -/
def contextCount (options : Options) (key : String) : Tool (Option Nat) := do
  let digits := options.given.filterMap fun entry =>
    if entry.1.all Char.isDigit then entry.1.toList.head? else none
  let both : Option Text := if digits.isEmpty then options.value? "C" else some digits
  match (options.value? key).or both with
  | none => return none
  | some text =>
    match wholeNumber? text with
    | some n => return some n
    | none => fail 2 (text ++ ": invalid context length argument")

/-- The search that switches ask for. -/
def searchOf (options : Options) (patterns : List Text) : Tool Search := do
  let matchers ← match patternMatchers options patterns with
    | .ok matchers => pure matchers
    | .error message => fail 2 message
  let most ← match options.value? "m" with
    | none => pure none
    | some text =>
      match wholeNumber? text with
      | some n => pure (some n)
      | none => if text.head? = some '-' then pure none else fail 2 "invalid max count"
  let before ← contextCount options "B"
  let after ← contextCount options "A"
  let lists := (options.lastOf ["l", "L"]).map (· == "l")
  let quiet := options.has "q"
  return {
    matchers
    inverted := options.has "v"
    parts := options.has "o"
    counts := options.has "c"
    lists
    quiet
    numbers := options.has "n"
    offsets := options.has "b"
    nulls := options.has "Z"
    text := options.has "a" || options.value? "binary-files" == some (ofString "text")
    silent := options.has "s"
    most := if quiet || lists.isSome then some (min 1 (most.getD 1)) else most
    before := before.getD 0
    after := after.getD 0
    contexts := (before.isSome || after.isSome)
    mark := lineMark options }

/-- What is known while files are searched: whether anything was found, whether lines were shown. -/
structure SearchTotals where
  found : Bool
  separated : Bool

/-- Searches an open file. -/
def searchFile (search : Search) (named : Bool) (totals : SearchTotals) (name : Text)
    (descriptor : Nat) : Tool SearchTotals := do
  let label := if named then name else []
  let (outcome, state) ← searchLines search label name (.ofDescriptor descriptor)
    ⟨0, 0, 0, [], 0, 0, totals.separated, false⟩
  match outcome with
  | .error refusal => if search.silent then setStatus 2 else complain 2 (about name refusal)
  | .ok () => pure ()
  if ¬ search.quiet then
    if search.counts then
      let name : Text :=
        if named then name ++ [if search.nulls then '\x00' else ':'] else []
      sayLine (name ++ decimal state.selected)
    match search.lists with
    | some wanted =>
      if (0 < state.selected) = wanted then say (name ++ [if search.nulls then '\x00' else '\n'])
    | none => pure ()
  else if 0 < state.selected then
    setStatus 0
    finish 2
  return ⟨totals.found || 0 < state.selected, state.separated⟩

/-- Which files and directories below a directory are searched. -/
structure Scope where
  recursive : Bool
  implied : Bool
  named : Bool
  label : Text
  included : List Shell.Pattern
  excluded : List Shell.Pattern
  excludedDirectories : List Shell.Pattern

namespace Scope

/-- A file with a name is searched. -/
def admits (scope : Scope) (name : Text) : Bool :=
  (scope.included.isEmpty || scope.included.any fun pattern => pattern.fits name) &&
    !scope.excluded.any fun pattern => pattern.fits name

/-- A directory with a name is searched. -/
def entersDirectory (scope : Scope) (name : Text) : Bool :=
  !scope.excludedDirectories.any fun pattern => pattern.fits name

end Scope

/-- Searches a path, and all that is below it if it is a directory. -/
def searchPath (search : Search) (scope : Scope) :
    Nat → SearchTotals → Bool → Text → Tool SearchTotals
  | 0, totals, _, _ => pure totals
  | depth + 1, totals, top, path => do
    let trouble (refusal : Refusal) : Tool Unit :=
      if search.silent then setStatus 2 else complain 2 (about path refusal)
    if path = standardInput then searchFile search scope.named totals scope.label 0
    else
      match ← ask (.inspect path true) with
      | .error refusal => do
        trouble refusal
        return totals
      | .ok info =>
        if info.kind = .directory ∧ scope.recursive then
          if ¬ top ∧ ¬ scope.entersDirectory (lastName path) then return totals
          else
            match ← ask (.list path) with
            | .error refusal => do
              trouble refusal
              return totals
            | .ok names =>
              fold (fun totals name =>
                searchPath search scope depth totals false
                  (if top ∧ scope.implied then name else below path name))
                totals (inOrder names)
        else if ¬ scope.admits (lastName path) then return totals
        else
          match ← openInput path with
          | .error refusal => do
            trouble refusal
            return totals
          | .ok descriptor => do
            let same ← isOutput descriptor
            let totals ←
              if same ∧ ¬ search.quiet ∧ ¬ search.counts ∧ search.lists.isNone then do
                complain 2 (shownName path ++ ": input file is also the output")
                pure totals
              else searchFile search scope.named totals path descriptor
            let _ ← ask (.close descriptor)
            return totals

/-- The program `grep`, with a way of writing patterns that its name stands for. -/
def grepAs (kind : List String) (call : Call) : Task :=
  task 2 call do
    let options ← match grepSwitches.read call.arguments with
      | .ok options => pure { options with given := kind.map (·, none) ++ options.given }
      | .error message => do
        warn message
        grepUsage
        finish 2
    let listed := options.given.filter fun entry => entry.1 == "e" || entry.1 == "f"
    let (texts, operands) ← match listed, options.operands with
      | [], [] => do
        grepUsage
        finish 2
      | [], pattern :: operands => pure ([pattern], operands)
      | listed, operands => do
        let texts ← fold (fun texts (entry : String × Option Text) => do
          let value := entry.2.getD []
          if entry.1 = "e" then return texts ++ [value]
          else
            let text ← patternFile value
            let lines := (linesOf '\n' (text.length + 1) text).map Line.text
            return texts ++ lines) ([] : List Text) listed
        pure (texts, operands)
    let patterns := texts.flatMap fun text => splitOn (· == '\n') text
    let search ← searchOf options patterns
    let recursive := options.has "r" || options.has "R" ||
      options.value? "d" == some (ofString "recurse")
    let inputs :=
      if operands.isEmpty then [if recursive then ['.'] else standardInput] else operands
    let named := match options.lastOf ["H", "h"] with
      | some key => key == "H"
      | none => recursive || 1 < inputs.length
    let patternsOf (key : String) : List Shell.Pattern :=
      (options.values key).map (Shell.Pattern.ofText .rich)
    let scope : Scope := {
      recursive
      implied := operands.isEmpty
      named
      label := (options.value? "label").getD (ofString "(standard input)")
      included := patternsOf "include"
      excluded := patternsOf "exclude"
      excludedDirectories := patternsOf "exclude-dir" }
    let totals ← fold (fun totals path => searchPath search scope walkDepth totals true path)
      (⟨false, false⟩ : SearchTotals) inputs
    if (← get).status = 0 then setStatus (if totals.found then 0 else 1)

/-- The program `grep`. -/
def grep : Call → Task := grepAs []

end TaskRunner.Program
