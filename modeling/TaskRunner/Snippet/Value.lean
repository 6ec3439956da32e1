import TaskRunner.Program.Input
import TaskRunner.Snippet.Script
import TaskRunner.Text.Fraction

/-! The values of snippets.  What can be changed stands in a heap, and values refer to it. -/

namespace TaskRunner.Snippet

/-- A value. -/
inductive Value where
  | none
  | ellipsis
  | bool (b : Bool)
  | int (n : Int)
  | float (x : Float)
  | text (text : String)
  | tuple (members : List Value)
  | object (n : Nat)
  | builtin (name : String)
  | method (self : Value) (name : String)
  | library (name : String)
  | range (start stop step : Int)
  | kind (name : String)
  | failure (kind : String) (arguments : List Value)
  | stream (n : Nat)
deriving Inhabited

/-- What stands in the heap. -/
inductive Object where
  | list (members : Array Value)
  | dict (entries : List (Value × Value))
  | set (members : List Value)
  | function (name : String) (parameters : List Parameter) (usual : List (String × Value))
      (body : List Statement) (scope : Nat)
  | iterator (rest : List Value)
  | file (name : String) (source : Source) (written : List Text) (isOpen : Bool)
deriving Inhabited

/-- All objects. -/
abbrev Heap := Array Object

/-- A bound for how deep values are inside of one another. -/
def maxNesting : Nat := 1000

namespace Value

/-- The object that a value refers to. -/
def object? (heap : Heap) : Value → Option Object
  | object n => heap[n]?
  | _ => Option.none

/-- The name of the type of a value. -/
def typeName (heap : Heap) (value : Value) : String :=
  match value with
  | none => "NoneType"
  | ellipsis => "ellipsis"
  | bool _ => "bool"
  | int _ => "int"
  | float _ => "float"
  | .text _ => "str"
  | tuple _ => "tuple"
  | builtin _ => "builtin_function_or_method"
  | method _ _ => "builtin_function_or_method"
  | library _ => "module"
  | range _ _ _ => "range"
  | kind _ => "type"
  | failure name _ => name
  | stream _ => "_io.TextIOWrapper"
  | object n =>
    match heap[n]? with
    | some (.list _) => "list"
    | some (.dict _) => "dict"
    | some (.set _) => "set"
    | some (.function _ _ _ _ _) => "function"
    | some (.iterator _) => "generator"
    | some (.file _ _ _ _) => "_io.TextIOWrapper"
    | Option.none => "object"

/-- How many numbers a range has. -/
def rangeSize (start stop step : Int) : Nat :=
  if 0 < step then ((stop - start + step - 1) / step).toNat
  else if step < 0 then ((start - stop - step - 1) / -step).toNat
  else 0

/-- The numbers of a range. -/
def rangeMembers (start stop step : Int) : List Value :=
  (List.range (rangeSize start stop step)).map fun (i : Nat) => .int (start + step * i)

/-- The value holds as a condition. -/
def holds (heap : Heap) (value : Value) : Bool :=
  match value with
  | none => false
  | bool b => b
  | int n => n != 0
  | float x => x != 0
  | .text content => !content.isEmpty
  | tuple members => !members.isEmpty
  | range start stop step => rangeSize start stop step != 0
  | object n =>
    match heap[n]? with
    | some (.list members) => !members.isEmpty
    | some (.dict entries) => !entries.isEmpty
    | some (.set members) => !members.isEmpty
    | _ => true
  | _ => true

/-- The number that a value is. -/
def number? : Value → Option (Int ⊕ Float)
  | bool b => some (.inl (if b then 1 else 0))
  | int n => some (.inl n)
  | float x => some (.inr x)
  | _ => Option.none

/-- The whole number that a value is. -/
def int? : Value → Option Int
  | bool b => some (if b then 1 else 0)
  | int n => some n
  | _ => Option.none

/-- The order of two numbers, unless one of them is undefined. -/
def compareNumbers (a b : Int ⊕ Float) : Option Ordering :=
  match a, b with
  | .inl m, .inl n => some (compare m n)
  | a, b =>
    let real : Int ⊕ Float → Float
      | .inl n => Float.ofInt n
      | .inr x => x
    let (x, y) := (real a, real b)
    if x < y then some .lt else if y < x then some .gt else if x == y then some .eq
    else Option.none

mutual

/-- Two values are equal.  The first argument bounds how deep they are. -/
def equal (heap : Heap) : Nat → Value → Value → Bool
  | 0, _, _ => false
  | fuel + 1, a, b =>
    match a.number?, b.number? with
    | some x, some y => compareNumbers x y == some .eq
    | _, _ =>
      match a, b with
      | none, none => true
      | ellipsis, ellipsis => true
      | .text s, .text t => s == t
      | tuple s, tuple t => equalAll heap fuel s t
      | builtin s, builtin t => s == t
      | library s, library t => s == t
      | kind s, kind t => s == t
      | stream m, stream n => m == n
      | range a b c, range d e f =>
        equalAll heap fuel (rangeMembers a b c) (rangeMembers d e f)
      | object m, object n =>
        if m = n then true
        else
          match heap[m]?, heap[n]? with
          | some (.list s), some (.list t) => equalAll heap fuel s.toList t.toList
          | some (.set s), some (.set t) =>
            s.length == t.length && s.all fun a => t.any fun b => equal heap fuel a b
          | some (.dict s), some (.dict t) =>
            s.length == t.length && s.all fun a => t.any fun b =>
              equal heap fuel a.1 b.1 && equal heap fuel a.2 b.2
          | _, _ => false
      | _, _ => false

/-- The values of two lists are equal one by one. -/
def equalAll (heap : Heap) : Nat → List Value → List Value → Bool
  | 0, _, _ => false
  | _ + 1, [], [] => true
  | fuel + 1, a :: s, b :: t => equal heap fuel a b && equalAll heap fuel s t
  | _ + 1, _, _ => false

end

mutual

/-- The order of two values, if they have one.  The first argument bounds how deep they are. -/
def order? (heap : Heap) : Nat → Value → Value → Option Ordering
  | 0, _, _ => Option.none
  | fuel + 1, a, b =>
    match a.number?, b.number? with
    | some x, some y => compareNumbers x y
    | _, _ =>
      match a, b with
      | .text s, .text t => some (compare s t)
      | tuple s, tuple t => orderAll? heap fuel s t
      | object m, object n =>
        match heap[m]?, heap[n]? with
        | some (.list s), some (.list t) => orderAll? heap fuel s.toList t.toList
        | _, _ => Option.none
      | _, _ => Option.none

/-- The order of two lists of values, if they have one. -/
def orderAll? (heap : Heap) : Nat → List Value → List Value → Option Ordering
  | 0, _, _ => Option.none
  | _ + 1, [], [] => some .eq
  | _ + 1, [], _ :: _ => some .lt
  | _ + 1, _ :: _, [] => some .gt
  | fuel + 1, a :: s, b :: t =>
    if equal heap fuel a b then orderAll? heap fuel s t else order? heap fuel a b

end

end Value

/-! ### Numbers as text -/

/-- The fewest digits that read back as a number, with the power of ten of the first one.  The first
argument bounds how many are tried. -/
def fewestDigits (x : Float) (parts : Fraction.Parts) : Nat → Nat → Nat × Int
  | 0, places => Fraction.significant places parts
  | fuel + 1, places =>
    let (n, e) := Fraction.significant places parts
    let shift := e - places
    let read := if 0 ≤ shift then Float.ofScientific n false shift.natAbs
      else Float.ofScientific n true shift.natAbs
    if read == x then (n, e) else fewestDigits x parts fuel (places + 1)

/-- The text of a number with a fraction: the fewest digits that read back, with an exponent where
the number is very great or small. -/
def floatText (x : Float) : String :=
  if x.isNaN then "nan"
  else if x.isInf then if x < 0 then "-inf" else "inf"
  else
    let parts := Fraction.parts x
    let sign := if parts.negative then "-" else ""
    if parts.mantissa = 0 then sign ++ "0.0"
    else
      let (n, e) := fewestDigits x.abs { parts with negative := false } 17 0
      let digits := ((toString n).toList.reverse.dropWhile (· == '0')).reverse
      let text : List Char :=
        if -4 ≤ e ∧ e < 16 then
          if 0 ≤ e then
            let whole := digits ++ List.replicate (e.toNat + 1 - digits.length) '0'
            let fraction := whole.drop (e.toNat + 1)
            whole.take (e.toNat + 1) ++ '.' :: (if fraction.isEmpty then ['0'] else fraction)
          else '0' :: '.' :: (List.replicate (e.natAbs - 1) '0' ++ digits)
        else
          let fraction := digits.drop 1
          digits.take 1 ++ (if fraction.isEmpty then [] else '.' :: fraction) ++
            'e' :: Fraction.exponentText e
      sign ++ String.ofList text

/-! ### Values as text -/

/-- The hexadecimal digits of a number, filled up with zeros. -/
def hexDigits (width n : Nat) : List Char :=
  let digits := Nat.toDigits 16 n
  List.replicate (width - digits.length) '0' ++ digits

/-- A text between quotes, with escapes where they are needed. -/
def quoted (text : String) : String :=
  let content := text.toList
  let quote := if content.contains '\'' ∧ ¬ content.contains '"' then '"' else '\''
  let shown (c : Char) : List Char :=
    if c = quote ∨ c = '\\' then ['\\', c]
    else if c = '\n' then ['\\', 'n']
    else if c = '\r' then ['\\', 'r']
    else if c = '\t' then ['\\', 't']
    else if c.toNat < 32 ∨ c.toNat = 127 then '\\' :: 'x' :: hexDigits 2 c.toNat
    else if 128 ≤ c.toNat ∧ c.toNat < 161 then '\\' :: 'x' :: hexDigits 2 c.toNat
    else [c]
  String.ofList (quote :: content.flatMap shown ++ [quote])

/-- Texts with another one between neighbours. -/
def joinTexts (separator : String) (texts : List String) : String :=
  String.intercalate separator texts

mutual

/-- A value as it would be written in a snippet.  The first argument bounds how deep it is. -/
def Value.shown (heap : Heap) : Nat → Value → String
  | 0, _ => "..."
  | fuel + 1, value =>
    match value with
    | .none => "None"
    | .ellipsis => "Ellipsis"
    | .bool b => if b then "True" else "False"
    | .int n => toString n
    | .float x => floatText x
    | .text content => quoted content
    | .tuple [a] => "(" ++ a.shown heap fuel ++ ",)"
    | .tuple members => "(" ++ joinTexts ", " (Value.shownAll heap fuel members) ++ ")"
    | .builtin name => "<built-in function " ++ name ++ ">"
    | .method self name =>
      "<built-in method " ++ name ++ " of " ++ self.typeName heap ++ " object at 0x7f0000000000>"
    | .library name => "<module '" ++ name ++ "' (built-in)>"
    | .range start stop step =>
      "range(" ++ toString start ++ ", " ++ toString stop ++
        (if step = 1 then "" else ", " ++ toString step) ++ ")"
    | .kind name => "<class '" ++ name ++ "'>"
    | .failure name [] => name ++ "()"
    | .failure name [a] => name ++ "(" ++ a.shown heap fuel ++ ")"
    | .failure name arguments =>
      name ++ "(" ++ joinTexts ", " (Value.shownAll heap fuel arguments) ++ ")"
    | .stream n =>
      let names := ["stdin", "stdout", "stderr"]
      "<_io.TextIOWrapper name='<" ++ names.getD n "" ++ ">' mode='" ++
        (if n = 0 then "r" else "w") ++ "' encoding='utf-8'>"
    | .object n =>
      match heap[n]? with
      | some (.list members) =>
        "[" ++ joinTexts ", " (Value.shownAll heap fuel members.toList) ++ "]"
      | some (.set []) => "set()"
      | some (.set members) =>
        "\x7b" ++ joinTexts ", " (Value.shownAll heap fuel members) ++ "\x7d"
      | some (.dict entries) =>
        "\x7b" ++ joinTexts ", " (Value.shownEntries heap fuel entries) ++ "\x7d"
      | some (.function name _ _ _ _) => "<function " ++ name ++ " at 0x7f0000000000>"
      | some (.iterator _) => "<generator object <genexpr> at 0x7f0000000000>"
      | some (.file name _ _ _) => "<_io.TextIOWrapper name=" ++ quoted name ++ ">"
      | _ => "<object>"

/-- Values as they would be written in a snippet. -/
def Value.shownAll (heap : Heap) : Nat → List Value → List String
  | 0, _ => []
  | _ + 1, [] => []
  | fuel + 1, value :: rest => value.shown heap fuel :: Value.shownAll heap fuel rest

/-- Entries as they would be written in a snippet. -/
def Value.shownEntries (heap : Heap) : Nat → List (Value × Value) → List String
  | 0, _ => []
  | _ + 1, [] => []
  | fuel + 1, entry :: rest =>
    (entry.1.shown heap fuel ++ ": " ++ entry.2.shown heap fuel) ::
      Value.shownEntries heap fuel rest

end

/-- A bound for the size of values. -/
def maxShown : Nat := 1000000

/-- A value as it would be written in a snippet. -/
def Value.represented (heap : Heap) (value : Value) : String :=
  value.shown heap maxShown

/-! ### Kinds of failures -/

/-- The kinds of failures with the kinds that they belong to. -/
def failureKinds : List (String × String) :=
  [("BaseException", ""), ("Exception", "BaseException"), ("SystemExit", "BaseException"),
    ("KeyboardInterrupt", "BaseException"), ("ArithmeticError", "Exception"),
    ("ZeroDivisionError", "ArithmeticError"), ("OverflowError", "ArithmeticError"),
    ("AssertionError", "Exception"), ("AttributeError", "Exception"), ("EOFError", "Exception"),
    ("ImportError", "Exception"), ("ModuleNotFoundError", "ImportError"),
    ("LookupError", "Exception"), ("IndexError", "LookupError"), ("KeyError", "LookupError"),
    ("NameError", "Exception"), ("UnboundLocalError", "NameError"), ("OSError", "Exception"),
    ("FileNotFoundError", "OSError"), ("FileExistsError", "OSError"),
    ("PermissionError", "OSError"), ("IsADirectoryError", "OSError"),
    ("NotADirectoryError", "OSError"), ("BrokenPipeError", "OSError"),
    ("RuntimeError", "Exception"), ("NotImplementedError", "RuntimeError"),
    ("RecursionError", "RuntimeError"), ("StopIteration", "Exception"), ("TypeError", "Exception"),
    ("ValueError", "Exception"), ("UnicodeError", "ValueError"), ("SyntaxError", "Exception")]

/-- The kind of a failure belongs to another one.  The first argument bounds how many steps lie
between. -/
def belongsTo : Nat → String → String → Bool
  | 0, _, _ => false
  | fuel + 1, kind, wanted =>
    kind == wanted || (failureKinds.lookup kind).any fun parent => belongsTo fuel parent wanted

/-- The failure has the number and the reason of a refusal, and the name of a file. -/
def isSystemFailure (kind : String) : Bool := belongsTo 5 kind "OSError"

/-- A value as plain text. -/
def Value.plain (heap : Heap) (value : Value) : String :=
  match value with
  | .text content => content
  | .failure _ [] => ""
  | .failure "KeyError" [a] => a.represented heap
  | .failure _ [.text content] => content
  | .failure _ [a] => a.represented heap
  | .failure name [.int n, .text reason, file] =>
    if isSystemFailure name then
      "[Errno " ++ toString n ++ "] " ++ reason ++ ": " ++ file.represented heap
    else (Value.tuple [.int n, .text reason, file]).represented heap
  | .failure name [.int n, .text reason] =>
    if isSystemFailure name then "[Errno " ++ toString n ++ "] " ++ reason
    else (Value.tuple [.int n, .text reason]).represented heap
  | .failure _ arguments => (Value.tuple arguments).represented heap
  | value => value.represented heap

end TaskRunner.Snippet
