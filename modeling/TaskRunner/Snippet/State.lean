import TaskRunner.Program.Launch
import TaskRunner.Program.Steps
import TaskRunner.Snippet.Format
import TaskRunner.Snippet.Parse

/-! A snippet under way: its names, its objects, and what it reads and writes. -/

namespace TaskRunner.Snippet

open Tool Steps

/-- Names with their values.  What is looked up and not found here is looked up in the parent;
`outside` are the names that are set outside. -/
structure Scope where
  names : List (String × Value)
  parent : Option Nat
  outside : List String

/-- A place in a snippet: the file, the line, and the function. -/
structure Spot where
  file : String
  line : Nat
  function : String
deriving DecidableEq, Repr

/-- Where a snippet is: the functions that are being carried out, the innermost first. -/
abbrev Trace := List Spot

/-- A failure, where it showed, and the failures that were being dealt with at that time. -/
structure Raised where
  value : Value
  trace : Trace
  before : List (Value × Trace)

/-- A snippet under way.  `handled` is the failure that is being dealt with. -/
structure State where
  environment : List Text
  heap : Heap
  scopes : Array Scope
  scope : Nat
  trace : Trace
  arguments : List Text
  input : Source
  handled : Option Raised

/-- Why a statement is left before its end. -/
inductive Leave where
  | raised (raised : Raised)
  | loop
  | turn
  | function (value : Value)

/-- A step of a snippet. -/
abbrev Running := Steps State Leave

/-! ### Failures -/

/-- Raises a failure. -/
def raise {α : Type} (value : Value) : Running α := do
  let state ← get
  let before := match state.handled with
    | some handled => handled.before ++ [(handled.value, handled.trace)]
    | none => []
  throw (.raised ⟨value, state.trace, before⟩)

/-- Raises a failure of a kind, with a text. -/
def fail {α : Type} (kind message : String) : Running α :=
  raise (.failure kind [.text message])

/-- Finds that a value is of the wrong type. -/
def wrongType {α : Type} (message : String) : Running α := fail "TypeError" message

/-- The kind and the number of the failure that a refusal is. -/
def refusalKind : Refusal → String × Int
  | .notPermitted => ("PermissionError", 1)
  | .noEntry => ("FileNotFoundError", 2)
  | .denied => ("PermissionError", 13)
  | .alreadyThere => ("FileExistsError", 17)
  | .notDirectory => ("NotADirectoryError", 20)
  | .isDirectory => ("IsADirectoryError", 21)
  | .notEmpty => ("OSError", 39)
  | .brokenPipe => ("BrokenPipeError", 32)
  | .linksTooDeep => ("OSError", 40)
  | .invalid => ("OSError", 22)
  | .noProcess => ("ProcessLookupError", 3)
  | _ => ("OSError", 5)

/-- Raises the failure that a refusal is. -/
def refused {α : Type} (refusal : Refusal) (file : Option String) : Running α := do
  let (kind, number) := refusalKind refusal
  let arguments := [.int number, .text refusal.message] ++ (file.map Value.text).toList
  raise (.failure kind arguments)

/-- What the kernel granted, or the failure that the refusal is. -/
def granted {α : Type} (file : Option String) (found : Except Refusal α) : Running α := do
  match found with
  | .ok value => return value
  | .error refusal => refused refusal file

/-! ### Objects -/

/-- Puts an object into the heap. -/
def create (object : Object) : Running Value := do
  let state ← get
  set { state with heap := state.heap.push object }
  return .object state.heap.size

/-- A list of values. -/
def newList (members : List Value) : Running Value :=
  create (.list members.toArray)

/-- Changes an object. -/
def store (n : Nat) (object : Object) : Running Unit :=
  modify fun state => { state with heap := state.heap.set! n object }

/-- The object that a value refers to. -/
def objectOf? (value : Value) : Running (Option Object) := do
  return value.object? (← get).heap

/-- The name of the type of a value. -/
def typeOf (value : Value) : Running String := do
  return value.typeName (← get).heap

/-- The text that a value is written as. -/
def plainOf (value : Value) : Running String := do
  return value.plain (← get).heap

/-- The text that a value would be written as in a snippet. -/
def representedOf (value : Value) : Running String := do
  return value.represented (← get).heap

/-- Two values are equal. -/
def areEqual (a b : Value) : Running Bool := do
  return a.equal (← get).heap maxShown b

/-- The entry under a key. -/
def entryOf? (heap : Heap) (entries : List (Value × Value)) (key : Value) : Option Value :=
  (entries.find? fun entry => entry.1.equal heap maxShown key).map Prod.snd

/-- Entries with a value under a key. -/
def withEntry (heap : Heap) (entries : List (Value × Value)) (key value : Value) :
    List (Value × Value) :=
  if entries.any fun entry => entry.1.equal heap maxShown key then
    entries.map fun entry => if entry.1.equal heap maxShown key then (entry.1, value) else entry
  else entries ++ [(key, value)]

/-- A member is among others. -/
def isAmong (heap : Heap) (members : List Value) (member : Value) : Bool :=
  members.any fun other => other.equal heap maxShown member

/-- Members without those that are equal to others before. -/
def distinct (heap : Heap) (members : List Value) : List Value :=
  members.foldl (fun found member =>
    if isAmong heap found member then found else found ++ [member]) []

/-- The value can be a key. -/
def checkKey (value : Value) : Running Unit := do
  match ← objectOf? value with
  | some (.list _) => wrongType "unhashable type: 'list'"
  | some (.dict _) => wrongType "unhashable type: 'dict'"
  | some (.set _) => wrongType "unhashable type: 'set'"
  | _ => return

/-! ### Names -/

/-- The functions that every snippet can call. -/
def builtins : List String :=
  ["abs", "all", "any", "bin", "callable", "chr", "divmod", "enumerate", "exit", "filter", "format",
    "hasattr", "hex", "input", "isinstance", "iter", "len", "map", "max", "min", "next", "oct",
    "open", "ord", "pow", "print", "quit", "repr", "reversed", "round", "sorted", "sum", "zip"]

/-- The types that every snippet can name. -/
def types : List String :=
  ["int", "float", "str", "bool", "list", "tuple", "dict", "set", "range", "type", "object"]

/-- The value of a name that every snippet knows. -/
def builtin? (name : String) : Option Value :=
  if builtins.contains name then some (.builtin name)
  else if types.contains name then some (.kind name)
  else if (failureKinds.lookup name).isSome then some (.kind name)
  else if name = "IOError" ∨ name = "EnvironmentError" then some (.kind "OSError")
  else if name = "__name__" then some (.text "__main__")
  else none

/-- The value of a name, looked up from a scope on.  The first argument bounds how many scopes there
are. -/
def lookup? (scopes : Array Scope) (name : String) : Nat → Nat → Option Value
  | 0, _ => none
  | fuel + 1, n =>
    match scopes[n]? with
    | none => none
    | some scope =>
      match scope.names.lookup name with
      | some value => some value
      | none => scope.parent.bind (lookup? scopes name fuel)

/-- The cost of turning one character into another one. -/
def swapCost (a b : Char) : Nat :=
  if a = b then 0 else if a.toLower = b.toLower then 1 else 2

/-- How far apart two words are: the least cost of turning one into the other. -/
def distance (a b : List Char) : Nat :=
  let step (row : List Nat) (c : Char) : List Nat :=
    let first := row.headD 0 + 2
    let (cells, _) := (b.zip (row.zip row.tail)).foldl
      (fun (found : List Nat × Nat) (entry : Char × Nat × Nat) =>
        let (d, diagonal, above) := entry
        let cell := min (diagonal + swapCost c d) (min (above + 2) (found.2 + 2))
        (cell :: found.1, cell)) ([first], first)
    cells.reverse
  (a.foldl step ((List.range (b.length + 1)).map (2 * ·))).getLastD 0

/-- The word that may have been meant by another one. -/
def suggestion? (word : String) (known : List String) : Option String :=
  let limit (other : String) : Nat := (word.length + other.length + 3) * 2 / 6
  let found := known.foldl (fun (best : Option (Nat × String)) other =>
    let d := distance word.toList other.toList
    let bound := match best with
      | some (n, _) => min (limit other) (n - 1)
      | none => limit other
    if other ≠ word ∧ d ≤ bound then some (d, other) else best) none
  found.map Prod.snd

/-- The names that every snippet of this kind knows, of which one may have been meant. -/
def commonNames : List String :=
  ["abs", "all", "any", "ascii", "bin", "breakpoint", "callable", "chr", "compile", "delattr",
    "dir", "divmod", "eval", "exec", "format", "getattr", "globals", "hasattr", "hash", "hex",
    "id", "input", "isinstance", "issubclass", "iter", "aiter", "len", "locals", "max", "min",
    "next", "anext", "oct", "ord", "pow", "print", "repr", "round", "setattr", "sorted", "sum",
    "vars", "None", "Ellipsis", "NotImplemented", "False", "True", "bool", "memoryview",
    "bytearray", "bytes", "classmethod", "complex", "dict", "enumerate", "filter", "float",
    "frozenset", "property", "int", "list", "map", "object", "range", "reversed", "set", "slice",
    "staticmethod", "str", "super", "tuple", "type", "zip", "BaseException", "Exception",
    "GeneratorExit", "KeyboardInterrupt", "SystemExit", "ArithmeticError", "AssertionError",
    "AttributeError", "BufferError", "EOFError", "ImportError", "LookupError", "MemoryError",
    "NameError", "OSError", "RuntimeError", "StopIteration", "SyntaxError", "SystemError",
    "TypeError", "ValueError", "Warning", "OverflowError", "ZeroDivisionError", "FileExistsError",
    "FileNotFoundError", "PermissionError", "TimeoutError", "IndexError", "KeyError",
    "RecursionError", "open", "quit", "exit", "copyright", "credits", "license", "help"]

/-- The names that can be seen from a scope, those of each scope on their own.  The first argument
bounds how many scopes there are. -/
def visibleNames (scopes : Array Scope) : Nat → Nat → List (List String)
  | 0, _ => []
  | fuel + 1, n =>
    match scopes[n]? with
    | none => []
    | some scope =>
      scope.names.map Prod.fst :: (scope.parent.map (visibleNames scopes fuel)).getD []

/-- The value of a name. -/
def valueOf (name : String) : Running Value := do
  let state ← get
  let bound := state.scopes.size + 1
  match lookup? state.scopes name bound state.scope with
  | some value => return value
  | none =>
    match builtin? name with
    | some value => return value
    | none =>
      let known := visibleNames state.scopes bound state.scope ++ [commonNames]
      let hint := match known.findSome? (suggestion? name) with
        | some other => ". Did you mean: '" ++ other ++ "'?"
        | none => ""
      fail "NameError" ("name '" ++ name ++ "' is not defined" ++ hint)

/-- Names with a value set. -/
def setName (name : String) (value : Value) (names : List (String × Value)) :
    List (String × Value) :=
  if (names.lookup name).isSome then
    names.map fun entry => if entry.1 == name then (name, value) else entry
  else names ++ [(name, value)]

/-- The scope that a name outside is set in.  The first argument bounds how many scopes there are.
-/
def outsideScope (scopes : Array Scope) (name : String) : Nat → Nat → Nat
  | 0, _ => 0
  | fuel + 1, n =>
    match scopes[n]? with
    | none => 0
    | some scope =>
      match scope.parent with
      | none => n
      | some parent =>
        if (((scopes[parent]?).map Scope.names).getD []).lookup name |>.isSome then parent
        else outsideScope scopes name fuel parent

/-- Sets a name. -/
def setVariable (name : String) (value : Value) : Running Unit :=
  modify fun state =>
    let isOutside := ((state.scopes[state.scope]?).map Scope.outside).getD [] |>.contains name
    let n := if isOutside then outsideScope state.scopes name (state.scopes.size + 1) state.scope
      else state.scope
    { state with
      scopes := state.scopes.modify n fun scope =>
        { scope with names := setName name value scope.names } }

/-- Does something in a new scope with some names. -/
def inScope {α : Type} (names : List (String × Value)) (parent : Nat) (body : Running α) :
    Running α := do
  let before ← get
  set { before with
    scopes := before.scopes.push ⟨names, some parent, []⟩
    scope := before.scopes.size }
  let outcome ← outcomeOf body
  modify fun state => { state with scope := before.scope }
  match outcome with
  | .ok value => return value
  | .error leave => throw leave

/-! ### Members -/

/-- Characters as texts of their own. -/
def characters (text : String) : List Value :=
  text.toList.map fun c => .text (String.singleton c)

/-- The text of bytes. -/
def ofOctets (text : Text) : String := toOrdinary text

/-- The next line of a source, with its end. -/
def nextLine (source : Source) : Running (Option String × Source) := do
  let (found, source) ← tool (act (source.line '\n' Source.block))
  match found with
  | .ok (some line) => return (some (ofOctets (line.whole '\n')), source)
  | .ok none => return (none, source)
  | .error refusal => refused refusal none

/-- All that is left of a source. -/
def restOf (source : Source) : Running (String × Source) := do
  if source.ended then return (ofOctets source.ahead, { source with ahead := [] })
  else
    let (text, outcome) ← tool (act (Act.readAll source.descriptor))
    if let .error refusal := outcome then refused refusal none
    return (ofOctets (source.ahead ++ text), { source with ahead := [], ended := true })

/-- The lines of a text, with their ends.  `taken` is the line before, the last character first. -/
def linesOf : List Char → List Char → List String
  | taken, [] => if taken.isEmpty then [] else [String.ofList taken.reverse]
  | taken, c :: rest =>
    if c = '\n' then String.ofList (c :: taken).reverse :: linesOf [] rest
    else linesOf (c :: taken) rest

/-- The members that a value is gone through by. -/
def membersOf (value : Value) : Running (List Value) := do
  match value with
  | .tuple members => return members
  | .text content => return characters content
  | .range start stop step => return Value.rangeMembers start stop step
  | .stream 0 => do
    let (text, source) ← restOf (← get).input
    modify fun state => { state with input := source }
    return (linesOf [] text.toList).map Value.text
  | .object n =>
    match (← get).heap[n]? with
    | some (.list members) => return members.toList
    | some (.dict entries) => return entries.map Prod.fst
    | some (.set members) => return members
    | some (.iterator rest) => do
      store n (.iterator [])
      return rest
    | some (.file name source written isOpen) => do
      let (text, source) ← restOf source
      store n (.file name source written isOpen)
      return (linesOf [] text.toList).map Value.text
    | _ => wrongType ("'" ++ (← typeOf value) ++ "' object is not iterable")
  | _ => wrongType ("'" ++ (← typeOf value) ++ "' object is not iterable")

/-- How many members a value has. -/
def sizeOf (value : Value) : Running Nat := do
  match value with
  | .tuple members => return members.length
  | .text content => return content.length
  | .range start stop step => return Value.rangeSize start stop step
  | value =>
    match ← objectOf? value with
    | some (.list members) => return members.size
    | some (.dict entries) => return entries.length
    | some (.set members) => return members.length
    | _ => wrongType ("object of type '" ++ (← typeOf value) ++ "' has no len()")

/-- The place that an index means, if there is such a place. -/
def placeOf (size : Nat) (index : Int) : Option Nat :=
  let place := if index < 0 then index + size else index
  if 0 ≤ place ∧ place < size then some place.toNat else none

/-- The places of a stretch. -/
def stretch (size : Nat) (start stop step : Option Int) : List Nat :=
  let step := step.getD 1
  let bound (usual : Int) (given : Option Int) : Int :=
    match given with
    | none => usual
    | some n =>
      let n := if n < 0 then n + size else n
      if 0 < step then max 0 (min n size) else max (-1) (min n (size - 1))
  let (first, last) : Int × Int :=
    if 0 < step then (bound 0 start, bound size stop) else (bound (size - 1) start, bound (-1) stop)
  (List.range (Value.rangeSize first last step)).map fun (i : Nat) => (first + step * i).toNat

/-! ### Writing -/

/-- Writes what is to be written to a file. -/
def settleFile (n : Nat) : Running Unit := do
  match (← get).heap[n]? with
  | some (.file name source written isOpen) => do
    if ¬ written.isEmpty then
      let _ ← tool (act (Act.writeAll source.descriptor written.reverse.flatten))
      store n (.file name source [] isOpen)
  | _ => return

/-- Closes a file. -/
def closeFile (n : Nat) : Running Unit := do
  settleFile n
  match (← get).heap[n]? with
  | some (.file name source written true) => do
    let _ ← tool (ask (.close source.descriptor))
    store n (.file name source written false)
  | _ => return

/-- Writes what is to be written to all files. -/
def settleAll : Running Unit := do
  each (fun n => do
    settleFile n
    return true) (List.range (← get).heap.size)

/-- Writes a text to a stream or a file. -/
def writeTo (target : Value) (text : String) : Running Unit := do
  match target with
  | .stream 2 => tool (writeError (ofString text))
  | .object n =>
    match (← get).heap[n]? with
    | some (.file name source written true) =>
      store n (.file name source (ofString text :: written) true)
    | some (.file _ _ _ false) => fail "ValueError" "I/O operation on closed file."
    | _ => fail "AttributeError" ("'" ++ (← typeOf target) ++ "' object has no attribute 'write'")
  | _ => tool (say (ofString text))

end TaskRunner.Snippet
