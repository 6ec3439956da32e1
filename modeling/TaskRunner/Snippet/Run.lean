import TaskRunner.Snippet.Library

/-! Running snippets. -/

namespace TaskRunner.Snippet

open Tool Steps

/-- How deep functions may call one another. -/
def maxCalls : Nat := 1000

/-- A bound for how deep what is carried out stands. -/
def maxDepth : Nat := 1000000

/-- The places where an exception showed grow by a line. -/
def atLine (line : Nat) : Running Unit :=
  modify fun state =>
    match state.trace with
    | spot :: rest => { state with trace := { spot with line } :: rest }
    | [] => state

/-- What can be called on a value. -/
def methodsOf (value : Value) : Running (List String) := do
  match value, ← objectOf? value with
  | .text _, _ => return textMethods
  | .stream _, _ => return fileMethods
  | _, some (.list _) => return listMethods
  | _, some (.dict _) => return dictMethods
  | _, some (.set _) => return setMethods
  | _, some (.file _ _ _ _) => return fileMethods
  | .tuple _, _ => return ["count", "index"]
  | _, _ => return []

/-- The part of a value with a name. -/
def partOf (value : Value) (name : String) : Running Value := do
  let missing (owner : String) (known : List String) : Running Value := do
    let hint := match suggestion? name known with
      | some other => ". Did you mean: '" ++ other ++ "'?"
      | none => ""
    fail "AttributeError" (owner ++ " has no attribute '" ++ name ++ "'" ++ hint)
  match value, name with
  | .library library, name =>
    match ← libraryValue? library name with
    | some value => return value
    | none => missing ("module '" ++ library ++ "'") ((libraryFunctions.lookup library).getD [])
  | .failure _ arguments, "args" => return .tuple arguments
  | .failure "SystemExit" arguments, "code" => return arguments.headD .none
  | .failure _ (.int n :: _), "errno" => return .int n
  | .failure _ [_, .text reason], "strerror" => return .text reason
  | .failure _ [_, .text reason, _], "strerror" => return .text reason
  | .failure _ [_, _, file], "filename" => return file
  | .kind kind, "__name__" => return .text kind
  | .builtin function, "__name__" => return .text function
  | .kind kind, name => return .builtin (kind ++ "." ++ name)
  | value, name => do
    let known ← methodsOf value
    if known.contains name then return .method value name
    else
      match ← objectOf? value, name with
      | some (.function function _ _ _ _), "__name__" => return .text function
      | some (.file file _ _ _), "name" => return .text file
      | some (.file _ _ _ isOpen), "closed" => return .bool (!isOpen)
      | _, _ => missing ("'" ++ (← typeOf value) ++ "' object") known

/-! ### Calls without functions as arguments -/

/-- The whole number that a text stands for in a base, if it is one.  If no base is given, the text
itself tells it. -/
def readInt? (given : Nat) (text : List Char) : Option Int :=
  let text := text.dropWhile Char.isWhitespace
  let text := (text.reverse.dropWhile Char.isWhitespace).reverse
  let (negative, digits) := match text with
    | '-' :: rest => (true, rest)
    | '+' :: rest => (false, rest)
    | rest => (false, rest)
  let base : Nat := match given, digits with
    | 0, '0' :: 'x' :: _ => 16
    | 0, '0' :: 'o' :: _ => 8
    | 0, '0' :: 'b' :: _ => 2
    | 0, _ => 10
    | base, _ => base
  let front : List Char := match base with
    | 16 => ['0', 'x']
    | 8 => ['0', 'o']
    | 2 => ['0', 'b']
    | _ => []
  let digits := if front.isPrefixOf digits then digits.drop front.length else digits
  if digits.isEmpty ∨ ¬ digits.all fun c => (digitIn? base c).isSome || c == '_' then none
  else
    let (n, _) := digitsIn base digits
    some (if negative then -n else n)

/-- The number with a fraction that a text stands for, if it is one. -/
def readFloat? (text : List Char) : Option Float :=
  match Fraction.read? text with
  | some (x, rest) => if rest.all Char.isWhitespace then some x else none
  | none => none

/-- A number rounded to some places: to an even digit from the middle. -/
def roundTo (x : Float) (places : Int) : Float :=
  let parts := Fraction.parts x
  let n := Fraction.roundedAt parts places
  let size := if 0 ≤ places then Float.ofScientific n true places.natAbs
    else Float.ofScientific n false places.natAbs
  if parts.negative then -size else size

/-- Makes a value of a type. -/
def construct (kind : String) (given : Given) : Running Value := do
  let first : Option Value := given.plain[0]?
  match kind, first with
  | "int", none => return .int 0
  | "int", some (.text text) => do
    let base := ((← numberArgument? (given.find? 1 "base")).getD 10).toNat
    match readInt? base text.toList with
    | some n => return .int n
    | none =>
      fail "ValueError" ("invalid literal for int() with base " ++ toString base ++ ": " ++
        quoted text)
  | "int", some value =>
    match value.number? with
    | some (.inl n) => return .int n
    | some (.inr x) => do
      if x.isNaN then fail "ValueError" "cannot convert float NaN to integer"
      if x.isInf then fail "OverflowError" "cannot convert float infinity to integer"
      return .int (Fraction.truncate x)
    | none =>
      wrongType ("int() argument must be a string, a bytes-like object or a real number, not '" ++
        (← typeOf value) ++ "'")
  | "float", none => return .float 0
  | "float", some (.text text) =>
    match readFloat? text.toList with
    | some x => return .float x
    | none => fail "ValueError" ("could not convert string to float: " ++ quoted text)
  | "float", some value =>
    match value.number? with
    | some x => return .float (real x)
    | none =>
      wrongType ("float() argument must be a string or a real number, not '" ++
        (← typeOf value) ++ "'")
  | "str", none => return .text ""
  | "str", some value => return .text (← plainOf value)
  | "bool", none => return .bool false
  | "bool", some value => return .bool (value.holds (← get).heap)
  | "list", none => newList []
  | "list", some value => newList (← membersOf value)
  | "tuple", none => return .tuple []
  | "tuple", some value => return .tuple (← membersOf value)
  | "set", none => create (.set [])
  | "set", some value => do
    let members ← membersOf value
    create (.set (distinct (← get).heap members))
  | "dict", first => do
    let entries ← match first with
      | some value => entriesOf value
      | none => pure []
    let heap := (← get).heap
    let named := given.named.map fun entry => (Value.text entry.1, entry.2)
    create (.dict ((entries ++ named).foldl (fun entries entry =>
      withEntry heap entries entry.1 entry.2) []))
  | "range", _ => do
    let mut bounds : List Int := []
    for value in given.plain do
      match value.int? with
      | some n => bounds := bounds ++ [n]
      | none =>
        wrongType ("'" ++ (← typeOf value) ++ "' object cannot be interpreted as an integer")
    match bounds with
    | [stop] => return .range 0 stop 1
    | [start, stop] => return .range start stop 1
    | start :: stop :: step :: _ => do
      if step = 0 then fail "ValueError" "range() arg 3 must not be zero"
      return .range start stop step
    | [] => wrongType "range expected at least 1 argument, got 0"
  | "type", some value => return .kind (← typeOf value)
  | "type", none => wrongType "type() takes 1 or 3 arguments"
  | kind, _ =>
    if (failureKinds.lookup kind).isSome then return .failure kind given.plain
    else create (.set [])

/-- The mode that a file is opened in. -/
def openMode? (mode : String) : Option (OpenMode × Bool) :=
  match mode.toList.filter fun c => c != 't' && c != 'b' with
  | [] => some (.input, false)
  | ['r'] => some (.input, false)
  | ['w'] => some (.output, true)
  | ['a'] => some (.addition, true)
  | ['x'] => some (.fresh, true)
  | ['r', '+'] => some (.both, true)
  | ['w', '+'] => some (⟨true, true, true, true, false, false⟩, true)
  | _ => none

/-- Opens a file. -/
def openFile (given : Given) : Running Value := do
  let path ← textArgument given.plain[0]?
  let mode ← match given.find? 1 "mode" with
    | some value => textArgument (some value)
    | none => pure "r"
  match openMode? mode with
  | none => fail "ValueError" ("invalid mode: " ++ quoted mode)
  | some (how, _) => do
    if let some info ← infoOf? path true then
      if info.kind = .directory then refused .isDirectory (some path)
    let descriptor ← granted (some path) (← tool (ask (.openFile (ofString path) how 0o666)))
    create (.file path (Source.ofDescriptor descriptor) [] true)

/-- Writes values. -/
def print (given : Given) : Running Value := do
  let heap := (← get).heap
  let option (name usual : String) : String :=
    match given.named.lookup name with
    | some (.text text) => text
    | _ => usual
  let texts := given.plain.map (Value.plain heap)
  let target := match given.named.lookup "file" with
    | some .none => Value.stream 1
    | some value => value
    | none => Value.stream 1
  writeTo target (joinTexts (option "sep" " ") texts ++ option "end" "\n")
  if (given.named.lookup "flush").any (Value.holds heap) then tool flush
  return .none

/-- The digits of a whole number in a base, with letters in front. -/
def basedText (letters : String) (base : Nat) (n : Int) : Value :=
  .text ((if n < 0 then "-" else "") ++ letters ++ String.ofList (Nat.toDigits base n.natAbs))

/-- The value is of a kind, or of one of some kinds. -/
def isOfKind (value kind : Value) : Running Bool := do
  let found ← typeOf value
  let kinds ← match kind with
    | .tuple kinds => pure kinds
    | kind => pure [kind]
  return kinds.any fun kind => match kind with
    | .kind name => name == "object" || found == name || belongsTo 6 found name ||
      (name == "int" && found == "bool")
    | _ => false

/-- Calls a function that every snippet can call, and that calls no others. -/
def callPlain (name : String) (given : Given) : Running Value := do
  let first := given.plain.headD .none
  let number : Running Int := do
    match first.int? with
    | some n => return n
    | none =>
      wrongType ("'" ++ (← typeOf first) ++ "' object cannot be interpreted as an integer")
  match name with
  | "print" => print given
  | "len" => return .int (← sizeOf first)
  | "abs" =>
    match first.number? with
    | some (.inl n) => return .int n.natAbs
    | some (.inr x) => return .float x.abs
    | none => wrongType ("bad operand type for abs(): '" ++ (← typeOf first) ++ "'")
  | "repr" => return .text (← representedOf first)
  | "chr" => return .text (String.singleton (Char.ofNat (← number).toNat))
  | "ord" =>
    match first with
    | .text text =>
      match text.toList with
      | [c] => return .int c.toNat
      | other =>
        wrongType ("ord() expected a character, but string of length " ++ toString other.length ++
          " found")
    | value => wrongType ("ord() expected string of length 1, but " ++ (← typeOf value) ++ " found")
  | "hex" => return basedText "0x" 16 (← number)
  | "oct" => return basedText "0o" 8 (← number)
  | "bin" => return basedText "0b" 2 (← number)
  | "any" => do
    let heap := (← get).heap
    return .bool ((← membersOf first).any (Value.holds heap))
  | "all" => do
    let heap := (← get).heap
    return .bool ((← membersOf first).all (Value.holds heap))
  | "sum" => do
    let mut total := (given.find? 1 "start").getD (.int 0)
    for member in ← membersOf first do
      total ← operate .add total member
    return total
  | "round" =>
    match first.number?, given.find? 1 "ndigits" with
    | some (.inl n), none => return .int n
    | some (.inr x), none => do
      let n : Int := Fraction.roundedAt (Fraction.parts x) 0
      return .int (if x < 0 then -n else n)
    | some (.inl n), some _ => return .int n
    | some (.inr x), some places =>
      return .float (roundTo x (places.int?.getD 0))
    | none, _ =>
      wrongType ("type " ++ (← typeOf first) ++ " doesn't define __round__ method")
  | "divmod" => do
    let second := given.plain.getD 1 .none
    return .tuple [← operate .divideWhole first second, ← operate .remainder first second]
  | "pow" => do
    let power ← operate .power first (given.plain.getD 1 .none)
    match given.plain[2]? with
    | some modulus => operate .remainder power modulus
    | none => return power
  | "enumerate" => do
    let start := ((← numberArgument? (given.find? 1 "start")).getD 0)
    let members ← membersOf first
    create (.iterator (members.zipIdx.map fun entry =>
      .tuple [.int (start + entry.2), entry.1]))
  | "zip" => do
    let mut rows : List (List Value) := []
    for value in given.plain do
      rows := rows ++ [← membersOf value]
    let size := match rows with
      | [] => 0
      | row :: rest => rest.foldl (fun n row => min n row.length) row.length
    create (.iterator ((List.range size).map fun i =>
      .tuple (rows.map fun row => row.getD i .none)))
  | "reversed" => create (.iterator (← membersOf first).reverse)
  | "iter" => create (.iterator (← membersOf first))
  | "next" =>
    match first, ← objectOf? first with
    | .object n, some (.iterator (value :: rest)) => do
      store n (.iterator rest)
      return value
    | _, some (.iterator []) =>
      match given.plain[1]? with
      | some value => return value
      | none => raise (.failure "StopIteration" [])
    | value, _ => wrongType ("'" ++ (← typeOf value) ++ "' object is not an iterator")
  | "isinstance" => return .bool (← isOfKind first (given.plain.getD 1 .none))
  | "callable" =>
    return .bool (match first, ← objectOf? first with
      | .builtin _, _ => true
      | .method _ _, _ => true
      | .kind _, _ => true
      | _, some (.function _ _ _ _ _) => true
      | _, _ => false)
  | "hasattr" => do
    let wanted ← textArgument given.plain[1]?
    match ← outcomeOf (partOf first wanted) with
    | .ok _ => return .bool true
    | .error _ => return .bool false
  | "format" => do
    let specification ← match given.plain[1]? with
      | some value => textArgument (some value)
      | none => pure ""
    match laidOut (← get).heap first specification.toList with
    | .ok text => return .text text
    | .error message => fail "ValueError" message
  | "input" => do
    if ¬ given.plain.isEmpty then writeTo (.stream 1) (← plainOf first)
    let (line, source) ← nextLine (← get).input
    modify fun state => { state with input := source }
    match line with
    | some line =>
      let content := line.toList
      return .text (String.ofList
        (if content.getLast? = some '\n' then content.dropLast else content))
    | none => fail "EOFError" "EOF when reading a line"
  | "open" => openFile given
  | "exit" => raise (.failure "SystemExit" given.plain)
  | "quit" => raise (.failure "SystemExit" given.plain)
  | name =>
    match name.toList.reverse.dropWhile (· != '.') with
    | [] => return .none
    | '.' :: front => do
      let library := String.ofList front.reverse
      let function := String.ofList (name.toList.drop (front.length + 1))
      if types.contains library then
        match given.plain with
        | self :: rest => callMethod self function { given with plain := rest }
        | [] => wrongType ("unbound method " ++ name ++ "() needs an argument")
      else callLibrary library function given
    | _ => return .none
where
  /-- Calls something on a value. -/
  callMethod (self : Value) (name : String) (given : Given) : Running Value := do
    match self, ← objectOf? self with
    | .text text, _ => callText text name given
    | .object n, some (.list members) => callList n members name given
    | .object n, some (.dict entries) => callDict n entries name given
    | .object n, some (.set members) => callSet n members name given
    | .tuple members, _ => do
      let heap := (← get).heap
      let wanted := given.plain.headD .none
      if name = "count" then
        return .int (members.filter fun member => member.equal heap maxShown wanted).length
      else
        match placeAmong? heap wanted members with
        | some place => return .int place
        | none => fail "ValueError" "tuple.index(x): x not in tuple"
    | self, _ => callFile self name given

/-! ### Parameters -/

/-- The names that parameters have. -/
def parameterName : Parameter → String
  | .of name _ _ => name

/-- Texts in a row, as they are told to a user. -/
def listed (names : List String) : String :=
  let shown := names.map fun name => "'" ++ name ++ "'"
  match shown with
  | [] => ""
  | [a] => a
  | [a, b] => a ++ " and " ++ b
  | shown => joinTexts ", " shown.dropLast ++ ", and " ++ shown.getLastD ""

/-- What the parameters of a function stand for in a call. -/
def bindParameters (function : String) (parameters : List Parameter) (usual : List (String × Value))
    (given : Given) : Running (List (String × Value)) := do
  let plain := parameters.takeWhile fun parameter => match parameter with
    | .of _ stars _ => stars == 0
  let places := plain.map parameterName
  let rest := parameters.drop plain.length
  let spread := rest.findSome? fun parameter => match parameter with
    | .of name 1 _ => some name
    | _ => none
  let spreadNamed := rest.findSome? fun parameter => match parameter with
    | .of name 2 _ => some name
    | _ => none
  let onlyNamed := rest.filterMap fun parameter => match parameter with
    | .of name 0 _ => some name
    | _ => none
  let bound := places.zip given.plain
  let extra := given.plain.drop places.length
  if ¬ extra.isEmpty ∧ (spread.isNone ∨ spread = some "") then
    let needed := places.filter fun name => (usual.lookup name).isNone
    let count := if needed.length = places.length then toString places.length
      else "from " ++ toString needed.length ++ " to " ++ toString places.length
    let plural := if places.length = 1 then " positional argument but " else
      " positional arguments but "
    let were := if given.plain.length = 1 then " was given" else " were given"
    wrongType (function ++ "() takes " ++ count ++ plural ++ toString given.plain.length ++ were)
  let known := places ++ onlyNamed
  let mut named : List (String × Value) := []
  let mut others : List (Value × Value) := []
  for (name, value) in given.named do
    if (bound.lookup name).isSome then
      wrongType (function ++ "() got multiple values for argument '" ++ name ++ "'")
    else if known.contains name then named := named ++ [(name, value)]
    else if spreadNamed.isSome then others := others ++ [(Value.text name, value)]
    else wrongType (function ++ "() got an unexpected keyword argument '" ++ name ++ "'")
  let found := bound ++ named
  let missing := (places.filter fun name =>
    (found.lookup name).isNone && (usual.lookup name).isNone)
  if ¬ missing.isEmpty then
    let noun := if missing.length = 1 then " argument: " else " arguments: "
    wrongType (function ++ "() missing " ++ toString missing.length ++ " required positional" ++
      noun ++ listed missing)
  let absent := (onlyNamed.filter fun name =>
    (found.lookup name).isNone && (usual.lookup name).isNone)
  if ¬ absent.isEmpty then
    let noun := if absent.length = 1 then " argument: " else " arguments: "
    wrongType (function ++ "() missing " ++ toString absent.length ++ " required keyword-only" ++
      noun ++ listed absent)
  let all := known.filterMap fun name =>
    ((found.lookup name).or (usual.lookup name)).map fun value => (name, value)
  let all := match spread with
    | some name => if name = "" then all else all ++ [(name, .tuple extra)]
    | none => all
  match spreadNamed with
  | some name => return all ++ [(name, ← create (.dict others))]
  | none => return all

/-! ### Expressions and statements -/

/-- The failure that a value stands for when it is raised. -/
def failureOf (value : Value) : Running Value := do
  match value with
  | .kind kind => return .failure kind []
  | .failure kind arguments => return .failure kind arguments
  | _ => return .failure "TypeError" [.text "exceptions must derive from BaseException"]

/-- The collection of some members. -/
def collected (collection : Collection) (members : List Value) : Running Value := do
  match collection with
  | .list => newList members
  | .tuple => return .tuple members
  | .set => create (.set (distinct (← get).heap members))

/-- Loads a library under a name. -/
def load (library given : String) : Running Unit := do
  match libraryFunctions.lookup library with
  | some _ =>
    setVariable given (.library (if given = "os" then "os" else library))
  | none =>
    let first := (library.splitOn ".").headD ""
    let missing := if (libraryFunctions.lookup first).isSome then library else first
    fail "ModuleNotFoundError" ("No module named '" ++ missing ++ "'")

mutual

/-- The value of an expression. -/
def evaluate : Nat → Expr → Running Value
  | 0, _ => fail "RecursionError" "maximum recursion depth exceeded"
  | fuel + 1, e => do
    match e with
    | .literal .none => return .none
    | .literal .ellipsis => return .ellipsis
    | .literal (.bool b) => return .bool b
    | .literal (.int n) => return .int n
    | .literal (.float x) => return .float x
    | .literal (.text text) => return .text text
    | .name name => valueOf name
    | .part e name => partOf (← evaluate fuel e) name
    | .index e (.slice start stop step) => do
      let value ← evaluate fuel e
      let start ← boundOf fuel start
      let stop ← boundOf fuel stop
      let step ← boundOf fuel step
      valuesAt value start stop step
    | .index e key => do
      let value ← evaluate fuel e
      let key ← evaluate fuel key
      match value with
      | .object 0 => do
        let spot := ⟨"<frozen os>", 679, "__getitem__"⟩
        let before := (← get).trace
        modify fun state => { state with trace := spot :: before }
        let found ← valueAt value key
        modify fun state => { state with trace := before }
        return found
      | value => valueAt value key
    | .slice _ _ _ => return .none
    | .call function arguments => do
      let function ← evaluate fuel function
      let given ← argumentsOf fuel ⟨[], []⟩ arguments
      call fuel function given
    | .operate operator a b => do
      let a ← evaluate fuel a
      let b ← evaluate fuel b
      operate operator a b
    | .signed sign a => operateSign sign (← evaluate fuel a)
    | .not a => return .bool (!(← evaluate fuel a).holds (← get).heap)
    | .relate first rest => relateAll fuel (← evaluate fuel first) rest
    | .and a b => do
      let a ← evaluate fuel a
      if a.holds (← get).heap then evaluate fuel b else return a
    | .or a b => do
      let a ← evaluate fuel a
      if a.holds (← get).heap then return a else evaluate fuel b
    | .choose condition yes no => do
      if (← evaluate fuel condition).holds (← get).heap then evaluate fuel yes
      else evaluate fuel no
    | .lambda parameters body => do
      let usual ← usualOf fuel parameters
      create (.function "<lambda>" parameters usual [.of 0 (.giveBack (some body))] (← get).scope)
    | .collect collection members => do
      collected collection (← evaluateAll fuel members)
    | .dict entries => do
      create (.dict (← evaluateEntries fuel [] entries))
    | .starred e => evaluate fuel e
    | .gather collection member clauses => do
      let members ← inScope [] (← get).scope (gather fuel clauses do
        return [← evaluate fuel member])
      collected collection members
    | .gatherDict key value clauses => do
      let entries ← inScope [] (← get).scope (gather fuel clauses do
        return [.tuple [← evaluate fuel key, ← evaluate fuel value]])
      let heap := (← get).heap
      create (.dict (entries.foldl (fun entries entry => match entry with
        | .tuple [key, value] => withEntry heap entries key value
        | _ => entries) []))
    | .format pieces => return .text (← piecesText fuel pieces)
    | .assigned name e => do
      let value ← evaluate fuel e
      setVariable name value
      return value

/-- The number that bounds a stretch. -/
def boundOf : Nat → Option Expr → Running (Option Int)
  | 0, _ => return none
  | _ + 1, none => return none
  | fuel + 1, some e => do
    match ← evaluate fuel e with
    | .none => return none
    | value =>
      match value.int? with
      | some n => return some n
      | none =>
        wrongType
          "slice indices must be integers or None or have an __index__ method"

/-- The values of expressions, of which some stand for several. -/
def evaluateAll : Nat → List Expr → Running (List Value)
  | 0, _ => return []
  | _ + 1, [] => return []
  | fuel + 1, .starred e :: rest => do
    let members ← membersOf (← evaluate fuel e)
    return members ++ (← evaluateAll fuel rest)
  | fuel + 1, e :: rest => do
    let value ← evaluate fuel e
    return value :: (← evaluateAll fuel rest)

/-- The entries of a dictionary. -/
def evaluateEntries : Nat → List (Value × Value) → List Entry → Running (List (Value × Value))
  | 0, entries, _ => return entries
  | _ + 1, entries, [] => return entries
  | fuel + 1, entries, .of key e :: rest => do
    match key with
    | some key => do
      let key ← evaluate fuel key
      checkKey key
      let value ← evaluate fuel e
      evaluateEntries fuel (withEntry (← get).heap entries key value) rest
    | none => do
      let more ← entriesOf (← evaluate fuel e)
      let heap := (← get).heap
      evaluateEntries fuel (more.foldl (fun entries entry =>
        withEntry heap entries entry.1 entry.2) entries) rest

/-- A relation holds between each value and the next one. -/
def relateAll : Nat → Value → List Related → Running Value
  | 0, _, _ => return .bool true
  | _ + 1, _, [] => return .bool true
  | fuel + 1, first, .of relation e :: rest => do
    let second ← evaluate fuel e
    if ← relate relation first second then relateAll fuel second rest else return .bool false

/-- The values of arguments. -/
def argumentsOf : Nat → Given → List Argument → Running Given
  | 0, given, _ => return given
  | _ + 1, given, [] => return given
  | fuel + 1, given, .of passing e :: rest => do
    let value ← evaluate fuel e
    let given ← match passing with
      | .plain => pure { given with plain := given.plain ++ [value] }
      | .named name => pure { given with named := given.named ++ [(name, value)] }
      | .spread => do
        let members ← membersOf value
        pure { given with plain := given.plain ++ members }
      | .spreadNamed => do
        let entries ← entriesOf value
        let heap := (← get).heap
        pure { given with
          named := given.named ++ entries.map fun entry => (entry.1.plain heap, entry.2) }
    argumentsOf fuel given rest

/-- The values that parameters usually have. -/
def usualOf : Nat → List Parameter → Running (List (String × Value))
  | 0, _ => return []
  | _ + 1, [] => return []
  | fuel + 1, .of name _ (some e) :: rest => do
    let value ← evaluate fuel e
    return (name, value) :: (← usualOf fuel rest)
  | fuel + 1, _ :: rest => usualOf fuel rest

/-- What is gathered by clauses. -/
def gather : Nat → List Clause → Running (List Value) → Running (List Value)
  | 0, _, _ => return []
  | _ + 1, [], body => body
  | fuel + 1, .when condition :: rest, body => do
    if (← evaluate fuel condition).holds (← get).heap then gather fuel rest body else return []
  | fuel + 1, .each target source :: rest, body => do
    let members ← membersOf (← evaluate fuel source)
    gatherEach fuel target rest body members

/-- What is gathered for each of some values. -/
def gatherEach : Nat → Expr → List Clause → Running (List Value) → List Value →
    Running (List Value)
  | 0, _, _, _, _ => return []
  | _ + 1, _, _, _, [] => return []
  | fuel + 1, target, clauses, body, value :: values => do
    assign fuel target value
    let first ← gather fuel clauses body
    return first ++ (← gatherEach fuel target clauses body values)

/-- The text of pieces. -/
def piecesText : Nat → List Piece → Running String
  | 0, _ => return ""
  | _ + 1, [] => return ""
  | fuel + 1, .text text :: rest => do
    return text ++ (← piecesText fuel rest)
  | fuel + 1, .value e conversion specification shown :: rest => do
    let value ← evaluate fuel e
    let layout ← piecesText fuel specification
    let represents := conversion = some 'r' ∨ (¬ shown.isEmpty ∧ conversion.isNone ∧ layout.isEmpty)
    let value ←
      if represents then do
        pure (Value.text (← representedOf value))
      else if conversion = some 's' then do
        pure (Value.text (← plainOf value))
      else pure value
    match laidOut (← get).heap value layout.toList with
    | .error message => fail "ValueError" message
    | .ok text => return shown ++ text ++ (← piecesText fuel rest)

/-- Calls a value. -/
def call : Nat → Value → Given → Running Value
  | 0, _, _ => fail "RecursionError" "maximum recursion depth exceeded"
  | fuel + 1, function, given => do
    match function, ← objectOf? function with
    | .builtin name, _ => callBuiltin fuel name given
    | .kind kind, _ => construct kind given
    | .method self "sort", some _ => sortList fuel self given
    | .method self "sort", none => sortList fuel self given
    | .method self name, _ => callPlain.callMethod self name given
    | _, some (.function name parameters usual body scope) => do
      if maxCalls ≤ (← get).trace.length then
        fail "RecursionError" "maximum recursion depth exceeded"
      let names ← bindParameters name parameters usual given
      let before := (← get).trace
      let spot : Spot := ⟨(before.headD ⟨"<string>", 0, ""⟩).file, 0, name⟩
      let outcome ← outcomeOf (inScope names scope do
        modify fun state => { state with trace := spot :: before }
        let line := (before.headD spot).line
        if name = "<lambda>" then atLine line
        performAll fuel body)
      match outcome with
      | .error (.raised raised) => do
        modify fun state => { state with trace := before }
        throw (.raised raised)
      | .error (.function value) => do
        modify fun state => { state with trace := before }
        return value
      | .error leave => throw leave
      | .ok () => do
        modify fun state => { state with trace := before }
        return .none
    | function, _ => wrongType ("'" ++ (← typeOf function) ++ "' object is not callable")

/-- Sorts a list. -/
def sortList : Nat → Value → Given → Running Value
  | 0, _, _ => return .none
  | fuel + 1, self, given => do
    match self with
    | .object n => do
      let sorted ← sorted fuel (← membersOf self) given
      store n (.list sorted.toArray)
      return .none
    | _ => return .none

/-- Values in their order, by a key if one is given. -/
def sorted : Nat → List Value → Given → Running (List Value)
  | 0, members, _ => return members
  | fuel + 1, members, given => do
    let keys ← keysOf fuel (given.named.lookup "key") members
    let reverse := (given.named.lookup "reverse").any (Value.holds (← get).heap)
    sortValues (keys.zip members) reverse

/-- The keys of values. -/
def keysOf : Nat → Option Value → List Value → Running (List Value)
  | 0, _, members => return members
  | _ + 1, none, members => return members
  | _ + 1, some .none, members => return members
  | fuel + 1, some function, members => callEach fuel function (members.map fun member => [member])

/-- What a function yields for each of some rows of arguments. -/
def callEach : Nat → Value → List (List Value) → Running (List Value)
  | 0, _, _ => return []
  | _ + 1, _, [] => return []
  | fuel + 1, function, row :: rest => do
    let value ← call fuel function ⟨row, []⟩
    return value :: (← callEach fuel function rest)

/-- Calls a function that every snippet can call. -/
def callBuiltin : Nat → String → Given → Running Value
  | 0, _, _ => return .none
  | fuel + 1, name, given => do
    match name, given.plain with
    | "sorted", value :: _ => do
      newList (← sorted fuel (← membersOf value) given)
    | "map", function :: sources => do
      let mut rows : List (List Value) := []
      for source in sources do
        rows := rows ++ [← membersOf source]
      let size := match rows with
        | [] => 0
        | row :: rest => rest.foldl (fun n row => min n row.length) row.length
      let all := (List.range size).map fun i => rows.map fun row => row.getD i .none
      create (.iterator (← callEach fuel function all))
    | "filter", function :: source :: _ => do
      let members ← membersOf source
      let found ← match function with
        | .none => pure members
        | function => callEach fuel function (members.map fun member => [member])
      let heap := (← get).heap
      create (.iterator (((members.zip found).filter fun entry => entry.2.holds heap).map Prod.fst))
    | "max", values => extreme fuel true values given
    | "min", values => extreme fuel false values given
    | name, _ => callPlain name given

/-- The greatest or the least of some values. -/
def extreme : Nat → Bool → List Value → Given → Running Value
  | 0, _, _, _ => return .none
  | fuel + 1, greatest, values, given => do
    let members ← match values with
      | [value] => membersOf value
      | values => pure values
    let name := if greatest then "max" else "min"
    match members with
    | [] =>
      match given.named.lookup "default" with
      | some value => return value
      | none => fail "ValueError" (name ++ "() arg is an empty sequence")
    | members => do
      let keys ← keysOf fuel (given.named.lookup "key") members
      let mut best := (keys.headD .none, members.headD .none)
      for entry in (keys.zip members).tail do
        if ← relate (if greatest then .more else .less) entry.1 best.1 then best := entry
      return best.2

/-- Assigns a value to a target. -/
def assign : Nat → Expr → Value → Running Unit
  | 0, _, _ => return
  | fuel + 1, target, value => do
    match target with
    | .name name => setVariable name value
    | .part _ name =>
      fail "AttributeError" ("can't set attribute '" ++ name ++ "'")
    | .index e key => do
      let owner ← evaluate fuel e
      let key ← evaluate fuel key
      setAt owner key value
    | .collect _ targets => do
      let values ← match value, ← objectOf? value with
        | .int _, _ => wrongType ("cannot unpack non-iterable int object")
        | .none, _ => wrongType ("cannot unpack non-iterable NoneType object")
        | .float _, _ => wrongType ("cannot unpack non-iterable float object")
        | .bool _, _ => wrongType ("cannot unpack non-iterable bool object")
        | value, _ => membersOf value
      let stars := targets.filter fun target => match target with
        | .starred _ => true
        | _ => false
      if stars.isEmpty then
        if values.length < targets.length then
          fail "ValueError" ("not enough values to unpack (expected " ++ toString targets.length ++
            ", got " ++ toString values.length ++ ")")
        if targets.length < values.length then
          fail "ValueError" ("too many values to unpack (expected " ++ toString targets.length ++
            ")")
        assignAll fuel targets values
      else
        if values.length + 1 < targets.length then
          fail "ValueError" ("not enough values to unpack (expected at least " ++
            toString (targets.length - 1) ++ ", got " ++ toString values.length ++ ")")
        let before := targets.takeWhile fun target => match target with
          | .starred _ => false
          | _ => true
        let after := targets.drop (before.length + 1)
        let middle := (values.drop before.length).take (values.length + 1 - targets.length)
        let gathered ← newList middle
        let rest := values.drop (before.length + middle.length)
        assignAll fuel targets (values.take before.length ++ gathered :: rest.take after.length)
    | .starred target => assign fuel target value
    | _ => fail "SyntaxError" "cannot assign to expression"

/-- Assigns values to targets one by one. -/
def assignAll : Nat → List Expr → List Value → Running Unit
  | 0, _, _ => return
  | fuel + 1, target :: targets, value :: values => do
    assign fuel target value
    assignAll fuel targets values
  | _ + 1, _, _ => return

/-- Carries out statements. -/
def performAll : Nat → List Statement → Running Unit
  | 0, _ => fail "RecursionError" "maximum recursion depth exceeded"
  | _ + 1, [] => return
  | fuel + 1, .of line action :: rest => do
    if line ≠ 0 then atLine line
    perform fuel line action
    performAll fuel rest

/-- A turn of a loop, which says whether another one follows. -/
def turn : Nat → List Statement → Running Bool
  | 0, _ => return false
  | fuel + 1, body => do
    match ← outcomeOf (performAll fuel body) with
    | .ok () => return true
    | .error .turn => return true
    | .error .loop => return false
    | .error leave => throw leave

/-- Carries out the turns of a loop for some values, and says whether they all were carried out. -/
def turns : Nat → Expr → List Statement → List Value → Running Bool
  | 0, _, _, _ => return true
  | _ + 1, _, _, [] => return true
  | fuel + 1, target, body, value :: rest => do
    if fuel % 64 = 0 then
      let _ ← tool (ask .pause)
    assign fuel target value
    if ← turn fuel body then turns fuel target body rest else return false

/-- Carries out what a statement says. -/
def perform : Nat → Nat → Action → Running Unit
  | 0, _, _ => fail "RecursionError" "maximum recursion depth exceeded"
  | fuel + 1, line, action => do
    match action with
    | .evaluate e => do
      let before := (← get).heap.size
      let _ ← evaluate fuel e
      let after := (← get).heap.size
      each (fun n => do
        closeFile (before + n)
        return true) (List.range (after - before))
    | .assign targets value => do
      let value ← evaluate fuel value
      each (fun target => do
        assign fuel target value
        return true) targets
    | .change target operator value => do
      let before ← evaluate fuel target
      let value ← evaluate fuel value
      match operator, before, ← objectOf? before with
      | .add, .object n, some (.list members) => do
        let more ← membersOf value
        store n (.list (members ++ more.toArray))
      | operator, before, _ => do
        assign fuel target (← operate operator before value)
    | .branch condition yes no => do
      if (← evaluate fuel condition).holds (← get).heap then performAll fuel yes
      else performAll fuel no
    | .repeat_ condition body last => do
      let mark ← newList []
      repeatWhile (do
        atLine line
        if (← evaluate fuel condition).holds (← get).heap then
          if ← turn fuel body then return true
          else
            if let .object n := mark then store n (.list #[.none])
            return false
        else return false) Act.manyTurns
      if ¬ mark.holds (← get).heap then performAll fuel last
    | .forEach target source body last => do
      let members ← membersOf (← evaluate fuel source)
      if ← turns fuel target body members then performAll fuel last
    | .define name parameters body => do
      let usual ← usualOf fuel parameters
      setVariable name (← create (.function name parameters usual body (← get).scope))
    | .giveBack value => do
      let value ← match value with
        | some e => evaluate fuel e
        | none => pure .none
      throw (.function value)
    | .leave => throw .loop
    | .again => throw .turn
    | .pass => return
    | .load modules =>
      each (fun entry => do
        load entry.1 entry.2
        return true) modules
    | .loadFrom library names => do
      if (libraryFunctions.lookup library).isNone then
        fail "ModuleNotFoundError" ("No module named '" ++ library ++ "'")
      each (fun entry => do
        match ← libraryValue? library entry.1 with
        | some value => setVariable entry.2 value
        | none =>
          fail "ImportError" ("cannot import name '" ++ entry.1 ++ "' from '" ++ library ++
            "' (unknown location)")
        return true) names
    | .attempt body handlers otherwise last => do
      let outcome ← outcomeOf (attempt fuel body handlers otherwise)
      performAll fuel last
      match outcome with
      | .ok () => return
      | .error leave => throw leave
    | .raise none =>
      match (← get).handled with
      | some raised => throw (.raised raised)
      | none => fail "RuntimeError" "No active exception to reraise"
    | .raise (some e) => do
      let value ← evaluate fuel e
      raise (← failureOf value)
    | .within items body => within fuel items body
    | .outside names =>
      modify fun state => { state with
        scopes := state.scopes.modify state.scope fun scope =>
          { scope with outside := scope.outside ++ names } }
    | .delete targets =>
      each (fun target => do
        match target with
        | .name name =>
          let _ ← valueOf name
          modify fun state => { state with
            scopes := state.scopes.modify state.scope fun scope =>
              { scope with names := scope.names.filter fun entry => entry.1 != name } }
        | .index e key => do
          let owner ← evaluate fuel e
          removeAt owner (← evaluate fuel key)
        | _ => pure ()
        return true) targets
    | .check condition message => do
      if ¬ (← evaluate fuel condition).holds (← get).heap then
        match message with
        | some e => raise (.failure "AssertionError" [← evaluate fuel e])
        | none => raise (.failure "AssertionError" [])

/-- Carries out statements, and what is done about their failures. -/
def attempt : Nat → List Statement → List Handler → List Statement → Running Unit
  | 0, _, _, _ => return
  | fuel + 1, body, handlers, otherwise => do
    let before ← get
    match ← outcomeOf (performAll fuel body) with
    | .ok () => performAll fuel otherwise
    | .error (.raised raised) => do
      modify fun state => { state with trace := before.trace, scope := before.scope }
      handle fuel raised handlers
    | .error leave => throw leave

/-- Does something about a failure, if one of the handlers is for it. -/
def handle : Nat → Raised → List Handler → Running Unit
  | 0, raised, _ => throw (.raised raised)
  | _ + 1, raised, [] => throw (.raised raised)
  | fuel + 1, raised, .of kinds name body :: rest => do
    let isMeant ← match kinds with
      | none => pure true
      | some e => do
        isOfKind raised.value (← evaluate fuel e)
    if isMeant then
      let before := (← get).handled
      modify fun state => { state with handled := some raised }
      if let some name := name then setVariable name raised.value
      let outcome ← outcomeOf (performAll fuel body)
      modify fun state => { state with handled := before }
      match outcome with
      | .ok () => return
      | .error leave => throw leave
    else handle fuel raised rest

/-- Carries out statements while something is open. -/
def within : Nat → List Opened → List Statement → Running Unit
  | 0, _, _ => return
  | fuel + 1, [], body => performAll fuel body
  | fuel + 1, .of e target :: rest, body => do
    let value ← evaluate fuel e
    if let some target := target then assign fuel target value
    let outcome ← outcomeOf (within fuel rest body)
    if let .object n := value then closeFile n
    match outcome with
    | .ok () => return
    | .error leave => throw leave

end

/-! ### Whole snippets -/

/-- The lines that tell where a failure showed. -/
def traceText (heap : Heap) (value : Value) (trace : Trace) : String :=
  let spots := trace.reverse.map fun spot =>
    "  File \"" ++ spot.file ++ "\", line " ++ toString spot.line ++ ", in " ++ spot.function ++
      "\n"
  let kind := value.typeName heap
  let message := value.plain heap
  "Traceback (most recent call last):\n" ++ joinTexts "" spots ++ kind ++
    (if message.isEmpty then "" else ": " ++ message) ++ "\n"

/-- The text that tells of a failure that nothing was done about. -/
def Raised.text (heap : Heap) (raised : Raised) : String :=
  let between :=
    "\nDuring handling of the above exception, another exception occurred:\n\n"
  joinTexts between ((raised.before ++ [(raised.value, raised.trace)]).map fun entry =>
    traceText heap entry.1 entry.2)

/-- Runs a snippet, and yields the status that it ends with. -/
def runStatements (statements : List Statement) : Running Nat := do
  let outcome ← outcomeOf (performAll maxDepth statements)
  let status ← match outcome with
    | .error (.raised raised) =>
      match raised.value with
      | .failure "SystemExit" [] => pure 0
      | .failure "SystemExit" (.none :: _) => pure 0
      | .failure "SystemExit" (value :: _) =>
        match value.int? with
        | some n => pure (n % 256).toNat
        | none => do
          let message ← plainOf value
          tool (writeError (ofString (message ++ "\n")))
          pure 1
      | _ => do
        let heap := (← get).heap
        tool (writeError (ofString (raised.text heap)))
        pure 1
    | _ => pure 0
  settleAll
  return status

/-- The text that tells of a fault with a snippet. -/
def SyntaxFault.text (file source : String) (fault : SyntaxFault) : String :=
  let place := "  File \"" ++ file ++ "\", line " ++ toString fault.line ++ "\n"
  let line := (source.splitOn "\n" |>.getD (fault.line - 1) "").toList
  let blanks := line.takeWhile Char.isWhitespace
  let shown := line.drop blanks.length
  let showsLine := fault.width ≠ 0 ∨ fault.kind = "IndentationError"
  let quote := if showsLine then "    " ++ String.ofList shown ++ "\n" else ""
  let marks :=
    if fault.width = 0 then ""
    else
      let indent := List.replicate (fault.column - 1 - blanks.length) ' '
      "    " ++ String.ofList (indent ++ List.replicate fault.width '^') ++ "\n"
  place ++ quote ++ marks ++ fault.kind ++ ": " ++ fault.message ++ "\n"

end TaskRunner.Snippet
