import TaskRunner.Snippet.Operate

/-! What can be called on values. -/

namespace TaskRunner.Snippet

open Tool Steps

/-- The arguments of a call: those without a name, and those with one. -/
structure Given where
  plain : List Value
  named : List (String × Value)

namespace Given

/-- The argument at a place, or the one with a name. -/
def find? (given : Given) (place : Nat) (name : String) : Option Value :=
  match given.plain[place]? with
  | some value => some value
  | none => given.named.lookup name

end Given

/-! ### Texts -/

/-- What can be called on texts. -/
def textMethods : List String :=
  ["capitalize", "casefold", "center", "count", "encode", "endswith", "expandtabs", "find",
    "format", "index", "isalnum", "isalpha", "isdecimal", "isdigit", "islower", "isnumeric",
    "isspace", "istitle", "isupper", "join", "ljust", "lower", "lstrip", "partition",
    "removeprefix", "removesuffix", "replace", "rfind", "rindex", "rjust", "rpartition", "rsplit",
    "rstrip", "split", "splitlines", "startswith", "strip", "swapcase", "title", "upper", "zfill"]

/-- The first place of a text in another one. -/
def findText (sought : List Char) : Nat → List Char → Option Nat
  | n, text =>
    if sought.isPrefixOf text then some n
    else
      match text with
      | [] => none
      | _ :: rest => findText sought (n + 1) rest

/-- The parts of a text between the places of another one, of which there is at least a character.
The second argument bounds how often the text is cut. -/
def splitText (separator : List Char) : Nat → Nat → List Char → List (List Char)
  | 0, _, text => [text]
  | _ + 1, 0, text => [text]
  | fuel + 1, most + 1, text =>
    match findText separator 0 text with
    | none => [text]
    | some place =>
      text.take place :: splitText separator fuel most (text.drop (place + separator.length))

/-- The words of a text.  The second argument bounds how many words there are before the rest. -/
def wordsOf : Nat → Nat → List Char → List (List Char)
  | 0, _, _ => []
  | fuel + 1, most, text =>
    let text := text.dropWhile Char.isWhitespace
    if text.isEmpty then []
    else if most = 0 then [(text.reverse.dropWhile Char.isWhitespace).reverse]
    else
      let word := text.takeWhile fun c => !c.isWhitespace
      word :: wordsOf fuel (most - 1) (text.drop word.length)

/-- A text with another one in place of parts.  The second argument bounds how many there are. -/
def replaceText (old new : List Char) : Nat → Nat → List Char → List Char
  | 0, _, text => text
  | _ + 1, 0, text => text
  | fuel + 1, most + 1, text =>
    match old, text with
    | [], [] => new
    | [], c :: rest => new ++ c :: replaceText old new fuel most rest
    | old, text =>
      match findText old 0 text with
      | none => text
      | some place =>
        text.take place ++ new ++ replaceText old new fuel most (text.drop (place + old.length))

/-- How often a text stands in another one. -/
def countText (sought : List Char) (text : List Char) : Nat :=
  if sought.isEmpty then text.length + 1
  else (splitText sought (text.length + 1) (text.length + 1) text).length - 1

/-- A text in which every word begins with a capital. -/
def titled : Bool → List Char → List Char
  | _, [] => []
  | inside, c :: rest =>
    (if inside then c.toLower else c.toUpper) :: titled c.isAlpha rest

/-- The lines of a text without their ends. -/
def linesWithoutEnds (text : List Char) : List String :=
  (linesOf [] text).map fun line =>
    let content := line.toList
    String.ofList (if content.getLast? = some '\n' then content.dropLast else content)

/-- A text between which parts of another one stand, if there are such parts. -/
def partition? (separator text : List Char) : Option (List Char × List Char) :=
  (findText separator 0 text).map fun place =>
    (text.take place, text.drop (place + separator.length))

/-- The text that an argument is. -/
def textArgument (value : Option Value) : Running String := do
  match value with
  | some (.text content) => return content
  | some value => wrongType ("expected str instance, " ++ (← typeOf value) ++ " found")
  | none => wrongType "expected at least 1 argument, got 0"

/-- The number that an argument is, if it is given. -/
def numberArgument? (value : Option Value) : Running (Option Int) := do
  match value with
  | none => return none
  | some .none => return none
  | some value =>
    match value.int? with
    | some n => return some n
    | none =>
      wrongType ("'" ++ (← typeOf value) ++ "' object cannot be interpreted as an integer")

/-- A text in which the places between braces are replaced by arguments. -/
def fillIn (given : Given) : Nat → Nat → List Char → Running (List Char)
  | 0, _, _ => return []
  | _ + 1, _, [] => return []
  | fuel + 1, next, '\x7b' :: '\x7b' :: rest => do
    return '\x7b' :: (← fillIn given fuel next rest)
  | fuel + 1, next, '\x7d' :: '\x7d' :: rest => do
    return '\x7d' :: (← fillIn given fuel next rest)
  | fuel + 1, next, '\x7b' :: rest => do
    let field := rest.takeWhile (· != '\x7d')
    let after := rest.drop (field.length + 1)
    let name := field.takeWhile fun c => c != ':' && c != '!'
    let layout := (field.dropWhile (· != ':')).drop 1
    let found : Option Value :=
      if name.isEmpty then given.plain[next]?
      else if name.all Char.isDigit then given.plain[digitsValue name]?
      else given.named.lookup (String.ofList name)
    match found with
    | none =>
      if name.isEmpty ∨ name.all Char.isDigit then
        fail "IndexError" ("Replacement index " ++
          toString (if name.isEmpty then next else digitsValue name) ++
          " out of range for positional args tuple")
      else raise (.failure "KeyError" [.text (String.ofList name)])
    | some value => do
      let value ← if "!r".toList.isPrefixOf (field.drop name.length) then
          pure (Value.text (← representedOf value))
        else pure value
      match laidOut (← get).heap value layout with
      | .error message => fail "ValueError" message
      | .ok text =>
        let next := if name.isEmpty then next + 1 else next
        return text.toList ++ (← fillIn given fuel next after)
  | fuel + 1, next, c :: rest => do
    return c :: (← fillIn given fuel next rest)

/-- Calls something on a text. -/
def callText (text name : String) (given : Given) : Running Value := do
  let content := text.toList
  let ofList (found : List Char) : Running Value := return .text (String.ofList found)
  let all (holds : Char → Bool) : Running Value :=
    return .bool (!content.isEmpty && content.all holds)
  let first : Option Value := given.plain[0]?
  let stripping : Running (Char → Bool) := do
    match first with
    | none => return Char.isWhitespace
    | some .none => return Char.isWhitespace
    | value => do
      let letters := (← textArgument value).toList
      return letters.contains
  let front (suffix : Bool) : Running Bool := do
    let sought ← match first with
      | some (.tuple members) => pure members
      | some value => pure [value]
      | none => pure []
    let start := ((← numberArgument? given.plain[1]?).getD 0).toNat
    let subject := content.drop start
    return sought.any fun value => match value with
      | .text sought =>
        if suffix then sought.toList.reverse.isPrefixOf subject.reverse
        else sought.toList.isPrefixOf subject
      | _ => false
  let place (last : Bool) : Running (Option Nat) := do
    let sought := (← textArgument first).toList
    let start := ((← numberArgument? given.plain[1]?).getD 0).toNat
    if last then
      return (findText sought.reverse 0 content.reverse).map fun n =>
        content.length - sought.length - n
    else return findText sought start (content.drop start)
  let padded (align : Char) : Running Value := do
    let width := ((← numberArgument? first).getD 0).toNat
    let fill := ((← match given.plain[1]? with
      | some value => textArgument (some value)
      | none => pure " ").toList.headD ' ')
    let missing := width - content.length
    let left := match align with
      | '<' => 0
      | '>' => missing
      | _ => missing / 2 + (missing % 2 &&& width % 2)
    ofList (List.replicate left fill ++ content ++ List.replicate (missing - left) fill)
  match name with
  | "upper" => ofList (content.map Char.toUpper)
  | "lower" => ofList (content.map Char.toLower)
  | "casefold" => ofList (content.map Char.toLower)
  | "swapcase" => ofList (content.map fun c => if c.isUpper then c.toLower else c.toUpper)
  | "capitalize" => ofList ((content.take 1).map Char.toUpper ++ (content.drop 1).map Char.toLower)
  | "title" => ofList (titled false content)
  | "strip" => do
    let holds ← stripping
    ofList ((content.dropWhile holds).reverse.dropWhile holds).reverse
  | "lstrip" => do
    let holds ← stripping
    ofList (content.dropWhile holds)
  | "rstrip" => do
    let holds ← stripping
    ofList (content.reverse.dropWhile holds).reverse
  | "split" => do
    let most ← numberArgument? (given.find? 1 "maxsplit")
    let bound := match most with
      | some n => if n < 0 then content.length + 1 else n.toNat
      | none => content.length + 1
    let parts ← match given.find? 0 "sep" with
      | none => pure (wordsOf (content.length + 1) bound content)
      | some .none => pure (wordsOf (content.length + 1) bound content)
      | value => do
        let separator ← textArgument value
        if separator.isEmpty then fail "ValueError" "empty separator"
        pure (splitText separator.toList (content.length + 1) bound content)
    newList (parts.map fun part => .text (String.ofList part))
  | "rsplit" => do
    let most ← numberArgument? (given.find? 1 "maxsplit")
    let bound := match most with
      | some n => if n < 0 then content.length + 1 else n.toNat
      | none => content.length + 1
    let reversed ← match given.find? 0 "sep" with
      | none => pure (wordsOf (content.length + 1) bound content.reverse)
      | some .none => pure (wordsOf (content.length + 1) bound content.reverse)
      | value => do
        let separator ← textArgument value
        if separator.isEmpty then fail "ValueError" "empty separator"
        pure (splitText separator.toList.reverse (content.length + 1) bound content.reverse)
    newList (reversed.reverse.map fun part => .text (String.ofList part.reverse))
  | "splitlines" => newList ((linesWithoutEnds content).map .text)
  | "join" => do
    let members ← membersOf (first.getD .none)
    let mut parts : List String := []
    let mut index := 0
    for member in members do
      match member with
      | .text part => parts := part :: parts
      | other =>
        wrongType ("sequence item " ++ toString index ++ ": expected str instance, " ++
          (← typeOf other) ++ " found")
      index := index + 1
    return .text (joinTexts text parts.reverse)
  | "replace" => do
    let old := (← textArgument first).toList
    let new := (← textArgument given.plain[1]?).toList
    let most := (← numberArgument? given.plain[2]?).getD (-1)
    let bound := if most < 0 then content.length + 1 else most.toNat
    ofList (replaceText old new (content.length + 2) bound content)
  | "startswith" => return .bool (← front false)
  | "endswith" => return .bool (← front true)
  | "find" => return .int (((← place false).map Int.ofNat).getD (-1))
  | "rfind" => return .int (((← place true).map Int.ofNat).getD (-1))
  | "index" =>
    match ← place false with
    | some n => return .int n
    | none => fail "ValueError" "substring not found"
  | "rindex" =>
    match ← place true with
    | some n => return .int n
    | none => fail "ValueError" "substring not found"
  | "count" => return .int (countText (← textArgument first).toList content)
  | "isdigit" => all Char.isDigit
  | "isdecimal" => all Char.isDigit
  | "isnumeric" => all Char.isDigit
  | "isalpha" => all fun c => c.isAlpha || 127 < c.toNat
  | "isalnum" => all fun c => c.isAlphanum || 127 < c.toNat
  | "isspace" => all Char.isWhitespace
  | "isupper" => return .bool (content.any Char.isUpper && !content.any Char.isLower)
  | "islower" => return .bool (content.any Char.isLower && !content.any Char.isUpper)
  | "istitle" => return .bool (content.any Char.isAlpha && titled false content == content)
  | "ljust" => padded '<'
  | "rjust" => padded '>'
  | "center" => padded '^'
  | "zfill" => do
    let width := ((← numberArgument? first).getD 0).toNat
    let (sign, digits) := match content with
      | '-' :: rest => (['-'], rest)
      | '+' :: rest => (['+'], rest)
      | rest => ([], rest)
    ofList (sign ++ List.replicate (width - content.length) '0' ++ digits)
  | "partition" => do
    let separator ← textArgument first
    match partition? separator.toList content with
    | some (before, after) =>
      return .tuple [.text (String.ofList before), .text separator, .text (String.ofList after)]
    | none => return .tuple [.text text, .text "", .text ""]
  | "rpartition" => do
    let separator ← textArgument first
    match partition? separator.toList.reverse content.reverse with
    | some (after, before) =>
      return .tuple [.text (String.ofList before.reverse), .text separator,
        .text (String.ofList after.reverse)]
    | none => return .tuple [.text "", .text "", .text text]
  | "removeprefix" => do
    let front := (← textArgument first).toList
    ofList (if front.isPrefixOf content then content.drop front.length else content)
  | "removesuffix" => do
    let back := (← textArgument first).toList
    ofList (if ¬ back.isEmpty ∧ back.reverse.isPrefixOf content.reverse then
      content.take (content.length - back.length) else content)
  | "format" => do
    ofList (← fillIn given (content.length + 1) 0 content)
  | _ => return .text text

/-! ### Lists -/

/-- What can be called on lists. -/
def listMethods : List String :=
  ["append", "clear", "copy", "count", "extend", "index", "insert", "pop", "remove", "reverse",
    "sort"]

/-- The place of a member among others. -/
def placeAmong? (heap : Heap) (member : Value) (members : List Value) : Option Nat :=
  members.findIdx? fun other => other.equal heap maxShown member

/-- Calls something on a list. -/
def callList (n : Nat) (members : Array Value) (name : String) (given : Given) : Running Value := do
  let first := given.plain.headD .none
  match name with
  | "append" => do
    store n (.list (members.push first))
    return .none
  | "extend" => do
    let more ← membersOf first
    store n (.list (members ++ more.toArray))
    return .none
  | "insert" => do
    let index := (← numberArgument? (some first)).getD 0
    let size : Int := members.size
    let place := (max 0 (min (if index < 0 then index + size else index) size)).toNat
    let member := given.plain.getD 1 .none
    store n (.list ((members.toList.take place ++ member :: members.toList.drop place).toArray))
    return .none
  | "pop" => do
    if members.isEmpty then fail "IndexError" "pop from empty list"
    let index := (← numberArgument? given.plain[0]?).getD (-1)
    match placeOf members.size index with
    | none => fail "IndexError" "pop index out of range"
    | some place => do
      store n (.list (members.toList.eraseIdx place).toArray)
      return members.getD place .none
  | "remove" =>
    match placeAmong? (← get).heap first members.toList with
    | none => fail "ValueError" "list.remove(x): x not in list"
    | some place => do
      store n (.list (members.toList.eraseIdx place).toArray)
      return .none
  | "index" =>
    match placeAmong? (← get).heap first members.toList with
    | none => fail "ValueError" ((← representedOf first) ++ " is not in list")
    | some place => return .int place
  | "count" => do
    let heap := (← get).heap
    return .int (members.toList.filter fun member => member.equal heap maxShown first).length
  | "reverse" => do
    store n (.list members.reverse)
    return .none
  | "clear" => do
    store n (.list #[])
    return .none
  | _ => newList members.toList

/-! ### Dictionaries and sets -/

/-- What can be called on dictionaries. -/
def dictMethods : List String :=
  ["clear", "copy", "get", "items", "keys", "pop", "popitem", "setdefault", "update", "values"]

/-- The entries that a value stands for. -/
def entriesOf (value : Value) : Running (List (Value × Value)) := do
  match ← objectOf? value with
  | some (.dict entries) => return entries
  | _ => do
    let members ← membersOf value
    let mut entries : List (Value × Value) := []
    for member in members do
      match ← membersOf member with
      | [key, found] => entries := (key, found) :: entries
      | other =>
        fail "ValueError" ("dictionary update sequence element #" ++ toString entries.length ++
          " has length " ++ toString other.length ++ "; 2 is required")
    return entries.reverse

/-- Calls something on a dictionary. -/
def callDict (n : Nat) (entries : List (Value × Value)) (name : String) (given : Given) :
    Running Value := do
  let heap := (← get).heap
  let first := given.plain.headD .none
  let second : Option Value := given.plain[1]?
  let without : List (Value × Value) :=
    entries.filter fun entry => !entry.1.equal heap maxShown first
  match name with
  | "get" => return (entryOf? heap entries first).getD (second.getD .none)
  | "keys" => newList (entries.map Prod.fst)
  | "values" => newList (entries.map Prod.snd)
  | "items" => newList (entries.map fun entry => .tuple [entry.1, entry.2])
  | "pop" =>
    match entryOf? heap entries first, second with
    | some value, _ => do
      store n (.dict without)
      return value
    | none, some value => return value
    | none, none => raise (.failure "KeyError" [first])
  | "popitem" =>
    match entries.getLast? with
    | some (key, value) => do
      store n (.dict entries.dropLast)
      return .tuple [key, value]
    | none => raise (.failure "KeyError" [.text "popitem(): dictionary is empty"])
  | "setdefault" =>
    match entryOf? heap entries first with
    | some value => return value
    | none => do
      let value := second.getD .none
      store n (.dict (entries ++ [(first, value)]))
      return value
  | "update" => do
    let more ← match given.plain with
      | value :: _ => entriesOf value
      | [] => pure []
    let more := more ++ given.named.map fun entry => (Value.text entry.1, entry.2)
    store n (.dict (more.foldl (fun entries entry =>
      withEntry heap entries entry.1 entry.2) entries))
    return .none
  | "clear" => do
    store n (.dict [])
    return .none
  | _ => create (.dict entries)

/-- What can be called on sets. -/
def setMethods : List String :=
  ["add", "clear", "copy", "difference", "discard", "intersection", "isdisjoint", "issubset",
    "issuperset", "pop", "remove", "symmetric_difference", "union", "update"]

/-- Calls something on a set. -/
def callSet (n : Nat) (members : List Value) (name : String) (given : Given) : Running Value := do
  let heap := (← get).heap
  let first := given.plain.headD .none
  let without : List Value := members.filter fun member => !member.equal heap maxShown first
  let others : Running (List Value) := do
    return distinct heap (← membersOf first)
  let combined (operator : Operator) : Running Value := do
    create (.set ((operateSets? heap operator members (← others)).getD []))
  match name with
  | "add" => do
    checkKey first
    if ¬ isAmong heap members first then store n (.set (members ++ [first]))
    return .none
  | "discard" => do
    store n (.set without)
    return .none
  | "remove" => do
    if without.length = members.length then raise (.failure "KeyError" [first])
    store n (.set without)
    return .none
  | "pop" =>
    match members with
    | [] => raise (.failure "KeyError" [.text "pop from an empty set"])
    | member :: rest => do
      store n (.set rest)
      return member
  | "update" => do
    store n (.set ((operateSets? heap .eitherBits members (← others)).getD []))
    return .none
  | "clear" => do
    store n (.set [])
    return .none
  | "union" => combined .eitherBits
  | "intersection" => combined .bothBits
  | "difference" => combined .subtract
  | "symmetric_difference" => combined .oddBits
  | "issubset" => return .bool (members.all (isAmong heap (← others)))
  | "issuperset" => return .bool ((← others).all (isAmong heap members))
  | "isdisjoint" => do
    let other ← others
    return .bool (!members.any (isAmong heap other))
  | _ => create (.set members)

/-! ### Files and streams -/

/-- What can be called on files and streams. -/
def fileMethods : List String :=
  ["close", "fileno", "flush", "isatty", "read", "readline", "readlines", "write", "writelines"]

/-- Writes texts to a stream or a file. -/
def writeAll (target : Value) (texts : List Value) : Running Unit := do
  for text in texts do
    match text with
    | .text content => writeTo target content
    | other => wrongType ("write() argument must be str, not " ++ (← typeOf other))

/-- Calls something on a file or a stream. -/
def callFile (self : Value) (name : String) (given : Given) : Running Value := do
  let source : Running Source := do
    match self, ← objectOf? self with
    | _, some (.file _ source _ true) => return source
    | _, some (.file _ _ _ false) => fail "ValueError" "I/O operation on closed file."
    | _, _ => return (← get).input
  let keep (source : Source) : Running Unit := do
    match self, ← objectOf? self with
    | .object n, some (.file name _ written isOpen) => store n (.file name source written isOpen)
    | _, _ => modify fun state => { state with input := source }
  match name with
  | "write" => do
    writeAll self given.plain
    match given.plain with
    | .text content :: _ => return .int content.length
    | _ => return .none
  | "writelines" => do
    writeAll self (← membersOf (given.plain.headD .none))
    return .none
  | "flush" => do
    match self with
    | .object n => settleFile n
    | _ => tool flush
    return .none
  | "read" => do
    let (text, source) ← restOf (← source)
    keep source
    return .text text
  | "readline" => do
    let (line, source) ← nextLine (← source)
    keep source
    return .text (line.getD "")
  | "readlines" => do
    let (text, source) ← restOf (← source)
    keep source
    newList ((linesOf [] text.toList).map .text)
  | "fileno" =>
    match self with
    | .stream n => return .int n
    | _ => return .int (← source).descriptor
  | "isatty" => return .bool false
  | _ => do
    if let .object n := self then closeFile n
    return .none

end TaskRunner.Snippet
