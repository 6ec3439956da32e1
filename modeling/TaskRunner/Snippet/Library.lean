import TaskRunner.Snippet.Methods

/-! The libraries that snippets can load. -/

namespace TaskRunner.Snippet

open Tool Steps

/-! ### Names in libraries -/

/-- The functions in libraries. -/
def libraryFunctions : List (String × List String) :=
  [("sys", ["exit"]),
    ("os", ["_exit", "chdir", "getcwd", "getenv", "getpid", "getppid", "listdir", "makedirs",
      "mkdir", "remove", "rename", "rmdir", "system", "unlink"]),
    ("os.path", ["abspath", "basename", "dirname", "exists", "getsize", "isdir", "isfile", "islink",
      "join", "splitext"]),
    ("math", ["ceil", "cos", "exp", "fabs", "factorial", "floor", "gcd", "isinf", "isnan", "log",
      "log10", "log2", "pow", "sin", "sqrt", "tan", "trunc"]),
    ("time", ["sleep", "time"]), ("json", ["dumps"]), ("string", [])]

/-- The values in libraries that are no functions. -/
def libraryConstant? (library name : String) : Option Value :=
  match library, name with
  | "sys", "stdin" => some (.stream 0)
  | "sys", "stdout" => some (.stream 1)
  | "sys", "stderr" => some (.stream 2)
  | "sys", "platform" => some (.text "linux")
  | "sys", "version" => some (.text "3.11.10")
  | "sys", "version_info" =>
    some (.tuple [.int 3, .int 11, .int 10, .text "final", .int 0])
  | "sys", "maxsize" => some (.int 9223372036854775807)
  | "sys", "executable" => some (.text "/usr/bin/python3")
  | "os", "environ" => some (.object 0)
  | "os", "path" => some (.library "os.path")
  | "os", "sep" => some (.text "/")
  | "os", "linesep" => some (.text "\n")
  | "os", "name" => some (.text "posix")
  | "math", "pi" => some (.float 3.141592653589793)
  | "math", "e" => some (.float 2.718281828459045)
  | "math", "tau" => some (.float 6.283185307179586)
  | "math", "inf" => some (.float (1.0 / 0.0))
  | "math", "nan" => some (.float (0.0 / 0.0))
  | "string", "ascii_lowercase" => some (.text "abcdefghijklmnopqrstuvwxyz")
  | "string", "ascii_uppercase" => some (.text "ABCDEFGHIJKLMNOPQRSTUVWXYZ")
  | "string", "ascii_letters" =>
    some (.text "abcdefghijklmnopqrstuvwxyzABCDEFGHIJKLMNOPQRSTUVWXYZ")
  | "string", "digits" => some (.text "0123456789")
  | _, _ => none

/-- The value of a name in a library, if there is one. -/
def libraryValue? (library name : String) : Running (Option Value) := do
  match library, name with
  | "sys", "argv" => return some (.object 1)
  | library, name =>
    match libraryConstant? library name with
    | some value => return some value
    | none =>
      if ((libraryFunctions.lookup library).getD []).contains name then
        return some (.builtin (library ++ "." ++ name))
      else return none

/-! ### Paths -/

/-- A path from the root without the parts that lead nowhere else. -/
def normalPath (path : String) : String :=
  let parts := (path.splitOn "/").foldl (fun (found : List String) part =>
    if part = "" ∨ part = "." then found
    else if part = ".." then found.tail
    else part :: found) []
  "/" ++ joinTexts "/" parts.reverse

/-- The last part of a path. -/
def baseName (path : List Char) : List Char :=
  (path.reverse.takeWhile (· != '/')).reverse

/-- A path without its last part. -/
def directoryName (path : List Char) : List Char :=
  let front := path.take (path.length - (baseName path).length)
  if front.all (· == '/') then front else (front.reverse.dropWhile (· == '/')).reverse

/-- Paths joined to one. -/
def joinPaths (first : List Char) (rest : List (List Char)) : List Char :=
  rest.foldl (fun path next =>
    if next.head? = some '/' then next
    else if path.isEmpty ∨ path.getLast? = some '/' then path ++ next
    else path ++ '/' :: next) first

/-- A path without its ending, and the ending. -/
def splitEnding (path : List Char) : List Char × List Char :=
  let base := baseName path
  let shown := base.dropWhile (· == '.')
  if shown.contains '.' then
    let ending := '.' :: (shown.reverse.takeWhile (· != '.')).reverse
    (path.take (path.length - ending.length), ending)
  else (path, [])

/-- What is known of a file, if it is there. -/
def infoOf? (path : String) (follow : Bool) : Running (Option FileInfo) := do
  match ← tool (ask (.inspect (ofString path) follow)) with
  | .ok info => return some info
  | .error _ => return none

/-! ### Calls -/

/-- The environment for programs: what the dictionary of variables holds now. -/
def environment : Running (List Text) := do
  let state ← get
  match (Value.object 0).object? state.heap with
  | some (.dict entries) =>
    return entries.map fun entry =>
      ofString (entry.1.plain state.heap) ++ '=' :: ofString (entry.2.plain state.heap)
  | _ => return state.environment

/-- Runs a command, and yields how it ended. -/
def runCommand (command : String) : Running ExitStatus := do
  let variables_ ← environment
  tool do
    flush
    let child ← Program.launch variables_ (pure ()) (fun name refusal => name ++ refusal.message)
      "sh".toList ["-c".toList, ofString command]
    Program.awaitEnd child

/-- Makes a directory and those above it that are missing. -/
def makeAll : Nat → List Char → Running Unit
  | 0, _ => return
  | fuel + 1, path => do
    let parent := directoryName path
    if ¬ parent.isEmpty ∧ parent ≠ ['/'] then
      if (← infoOf? (String.ofList parent) true).isNone then makeAll fuel parent
    let name := String.ofList path
    granted (some name) (← tool (ask (.makeDirectory (ofString name) 0o777)))

/-- The number that an argument is. -/
def realArgument (value : Option Value) : Running Float := do
  match (value.getD .none).number? with
  | some x => return real x
  | none => wrongType ("must be real number, not " ++ (← typeOf (value.getD .none)))

/-- A function of numbers. -/
def callMath (name : String) (given : Given) : Running Value := do
  let x ← realArgument given.plain[0]?
  let whole (x : Float) : Running Value := return .int (Fraction.truncate x)
  let n : Int := ((given.plain.headD .none).int?).getD 0
  match name with
  | "floor" => whole x.floor
  | "ceil" => whole x.ceil
  | "trunc" => whole x
  | "sqrt" => do
    if x < 0 then fail "ValueError" "math domain error"
    return .float x.sqrt
  | "log" => do
    if x ≤ 0 then fail "ValueError" "math domain error"
    match given.plain[1]? with
    | some base => do
      let base ← realArgument (some base)
      return .float (x.log / base.log)
    | none => return .float x.log
  | "log2" => return .float x.log2
  | "log10" => return .float x.log10
  | "exp" => return .float x.exp
  | "sin" => return .float x.sin
  | "cos" => return .float x.cos
  | "tan" => return .float x.tan
  | "fabs" => return .float x.abs
  | "isnan" => return .bool x.isNaN
  | "isinf" => return .bool x.isInf
  | "pow" => return .float (x.pow (← realArgument given.plain[1]?))
  | "gcd" => return .int (Nat.gcd n.natAbs (((given.plain.getD 1 .none).int?).getD 0).natAbs)
  | _ => do
    if n < 0 then fail "ValueError" "factorial() not defined for negative values"
    return .int (Int.ofNat
      ((List.range n.natAbs).foldl (fun (product : Nat) (i : Nat) => product * (i + 1)) 1))

/-- A text between quotes, as data is written. -/
def dataText (text : String) : String :=
  let shown (c : Char) : List Char :=
    if c = '"' ∨ c = '\\' then ['\\', c]
    else if c = '\n' then ['\\', 'n']
    else if c = '\r' then ['\\', 'r']
    else if c = '\t' then ['\\', 't']
    else if c.toNat < 32 ∨ 126 < c.toNat then '\\' :: 'u' :: hexDigits 4 c.toNat
    else [c]
  String.ofList ('"' :: text.toList.flatMap shown ++ ['"'])

/-- A value written as data.  `indent` is given if every member stands on a line of its own. -/
def dumped (heap : Heap) (indent : Option Nat) (sorted : Bool) :
    Nat → Nat → Value → Except String String
  | 0, _, _ => .error "ValueError"
  | fuel + 1, depth, value =>
    let around (left right : String) (parts : List String) : String :=
      match indent, parts with
      | _, [] => left ++ right
      | none, parts => left ++ joinTexts ", " parts ++ right
      | some width, parts =>
        let line (n : Nat) : String := "\n" ++ String.ofList (List.replicate (n * width) ' ')
        left ++ line (depth + 1) ++ joinTexts ("," ++ line (depth + 1)) parts ++ line depth ++ right
    let members (values : List Value) : Except String String := do
      return around "[" "]" (← values.mapM (dumped heap indent sorted fuel (depth + 1)))
    match value with
    | .none => .ok "null"
    | .bool b => .ok (if b then "true" else "false")
    | .int n => .ok (toString n)
    | .float x => .ok (if x.isNaN then "NaN" else if x.isInf then "Infinity" else floatText x)
    | .text text => .ok (dataText text)
    | .tuple values => members values
    | value =>
      match value.object? heap with
      | some (.list values) => members values.toList
      | some (.dict entries) => do
        let entries := entries.map fun entry => (entry.1.plain heap, entry.2)
        let entries := if sorted then
            entries.mergeSort fun a b => !decide (b.1 < a.1)
          else entries
        let parts ← entries.mapM fun entry => do
          let text ← dumped heap indent sorted fuel (depth + 1) entry.2
          return dataText entry.1 ++ ": " ++ text
        return around "\x7b" "\x7d" parts
      | _ => .error ("Object of type " ++ value.typeName heap ++ " is not JSON serializable")

/-- Calls a function of a library. -/
def callLibrary (library name : String) (given : Given) : Running Value := do
  let first := given.plain.headD .none
  let path : Running String := textArgument (given.plain[0]?)
  let isKind (kind : FileKind) : Running Value := do
    return .bool ((← infoOf? (← path) true).any fun info => info.kind == kind)
  match library, name with
  | "sys", _ => raise (.failure "SystemExit" given.plain)
  | "math", name => callMath name given
  | "time", "sleep" => do
    let x ← realArgument given.plain[0]?
    let _ ← tool (ask (.sleep (Fraction.truncate (x * 1000000)).toNat))
    return .none
  | "time", _ => do
    match ← tool (ask .clock) with
    | .ok time => return .float (Float.ofNat time / 1000000)
    | .error _ => return .float 0
  | "json", _ => do
    let heap := (← get).heap
    let indent ← numberArgument? (given.named.lookup "indent")
    let sorted := (given.named.lookup "sort_keys").any (Value.holds heap)
    match dumped heap (indent.map Int.toNat) sorted maxNesting 0 first with
    | .ok text => return .text text
    | .error message => wrongType message
  | "os", "getcwd" =>
    return .text (ofOctets (← granted none (← tool (ask .directory))))
  | "os", "getpid" => return .int (← granted none (← tool (ask .numbers))).1
  | "os", "getppid" => return .int (← granted none (← tool (ask .numbers))).2
  | "os", "getenv" => do
    match ← objectOf? (.object 0) with
    | some (.dict entries) =>
      return (entryOf? (← get).heap entries first).getD (given.plain.getD 1 .none)
    | _ => return .none
  | "os", "listdir" => do
    let path ← match given.plain with
      | [] => pure "."
      | _ => path
    let names ← granted (some path) (← tool (ask (.list (ofString path))))
    newList ((names.filter fun name => name ≠ ['.'] ∧ name ≠ ['.', '.']).map fun name =>
      .text (ofOctets name))
  | "os", "mkdir" => do
    let path ← path
    granted (some path) (← tool (ask (.makeDirectory (ofString path) 0o777)))
    return .none
  | "os", "makedirs" => do
    let path ← path
    let accepts := (given.find? 2 "exist_ok").any (Value.holds (← get).heap)
    let isThere := (← infoOf? path true).any fun info => info.kind == .directory
    if ¬ (accepts ∧ isThere) then makeAll (path.length + 1) path.toList
    return .none
  | "os", "rmdir" => do
    let path ← path
    granted (some path) (← tool (ask (.removeDirectory (ofString path))))
    return .none
  | "os", "rename" => do
    let old ← path
    let new ← textArgument given.plain[1]?
    granted (some old) (← tool (ask (.rename (ofString old) (ofString new))))
    return .none
  | "os", "chdir" => do
    let path ← path
    granted (some path) (← tool (ask (.setDirectory (ofString path))))
    return .none
  | "os", "system" => do
    match ← runCommand (← path) with
    | .code status => return .int (status * 256)
    | .signal signal => return .int signal
  | "os", "_exit" => do
    let status := ((← numberArgument? (some first)).getD 0 % 256).toNat
    tool (act (Act.exit status))
  | "os", _ => do
    let path ← path
    granted (some path) (← tool (ask (.removeFile (ofString path))))
    return .none
  | "os.path", "exists" => return .bool (← infoOf? (← path) true).isSome
  | "os.path", "isdir" => isKind .directory
  | "os.path", "isfile" => isKind .regular
  | "os.path", "islink" =>
    return .bool ((← infoOf? (← path) false).any fun info => info.kind == .link)
  | "os.path", "getsize" => do
    let path ← path
    let info ← granted (some path) (← tool (ask (.inspect (ofString path) true)))
    return .int info.size
  | "os.path", "basename" => return .text (String.ofList (baseName (← path).toList))
  | "os.path", "dirname" => return .text (String.ofList (directoryName (← path).toList))
  | "os.path", "splitext" => do
    let (front, ending) := splitEnding (← path).toList
    return .tuple [.text (String.ofList front), .text (String.ofList ending)]
  | "os.path", "abspath" => do
    let directory := ofOctets (← granted none (← tool (ask .directory)))
    return .text (normalPath (String.ofList (joinPaths directory.toList [(← path).toList])))
  | "os.path", _ => do
    let mut parts : List (List Char) := []
    for part in given.plain do
      parts := (← textArgument (some part)).toList :: parts
    match parts.reverse with
    | [] => return .text ""
    | part :: rest => return .text (String.ofList (joinPaths part rest))
  | _, _ => return .none

end TaskRunner.Snippet
