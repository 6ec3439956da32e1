import TaskRunner.Records.Value
import TaskRunner.Regex.Parse
import TaskRunner.Regex.Search

/-! Scripts that work on records: what is done with which records. -/

namespace TaskRunner.Records

/-- An operator on two numbers. -/
inductive Reckoning where
  | add
  | subtract
  | multiply
  | divide
  | remainder
  | power
deriving DecidableEq, Repr

/-- A comparison of two values. -/
inductive Comparison where
  | less
  | notMore
  | equal
  | unequal
  | more
  | notLess
deriving DecidableEq, Repr

/-- The comparison holds for values in an order. -/
def Comparison.holds : Comparison → Ordering → Bool
  | less, order => order == .lt
  | notMore, order => order != .gt
  | equal, order => order == .eq
  | unequal, order => order != .eq
  | more, order => order == .gt
  | notLess, order => order != .lt

/-- A function that every script can call. -/
inductive Builtin where
  | length
  | substr
  | index
  | split
  | sub
  | gsub
  | match_
  | sprintf
  | sin
  | cos
  | atan2
  | exp
  | log
  | sqrt
  | int
  | rand
  | srand
  | tolower
  | toupper
  | system
  | close
  | fflush
  | systime
deriving DecidableEq, Repr

/-- The functions that every script can call, by name. -/
def Builtin.all : List (String × Builtin) :=
  [("length", .length), ("substr", .substr), ("index", .index), ("split", .split), ("sub", .sub),
    ("gsub", .gsub), ("match", .match_), ("sprintf", .sprintf), ("sin", .sin), ("cos", .cos),
    ("atan2", .atan2), ("exp", .exp), ("log", .log), ("sqrt", .sqrt), ("int", .int),
    ("rand", .rand), ("srand", .srand), ("tolower", .tolower), ("toupper", .toupper),
    ("system", .system), ("close", .close), ("fflush", .fflush), ("systime", .systime)]

mutual

/-- An expression. -/
inductive Expr where
  | number (x : Float)
  | text (text : Text)
  | regex (matcher : Regex.Matcher)
  | place (place : Place)
  | assign (place : Place) (reckoning : Option Reckoning) (value : Expr)
  | step (place : Place) (by_ : Float) (before : Bool)
  | negative (a : Expr)
  | positive (a : Expr)
  | not (a : Expr)
  | reckon (reckoning : Reckoning) (a b : Expr)
  | join (a b : Expr)
  | compare (comparison : Comparison) (a b : Expr)
  | fits (negated : Bool) (a pattern : Expr)
  | member (array : String) (indices : List Expr)
  | and (a b : Expr)
  | or (a b : Expr)
  | choose (condition a b : Expr)
  | row (members : List Expr)
  | call (name : String) (arguments : List Expr)
  | builtin (builtin : Builtin) (arguments : List Expr)
  | readMain (target : Option Place)
  | readFile (target : Option Place) (file : Expr)
  | readCommand (target : Option Place) (command : Expr)

/-- What a value can be assigned to. -/
inductive Place where
  | named (name : String)
  | field (number : Expr)
  | element (array : String) (indices : List Expr)

end

instance : Inhabited Expr := ⟨.number 0⟩

/-- Where something is written to: a file that is written anew or added to, or a command. -/
inductive OutletKind where
  | file
  | addition
  | command
deriving DecidableEq, Repr

/-- A statement. -/
inductive Statement where
  | nothing
  | evaluate (e : Expr)
  | print (arguments : List Expr) (outlet : Option (OutletKind × Expr))
  | printf (arguments : List Expr) (outlet : Option (OutletKind × Expr))
  | branch (condition : Expr) (yes no : Statement)
  | repeat_ (bodyFirst : Bool) (condition : Option Expr) (step body : Statement)
  | forKeys (name : Place) (array : String) (body : Statement)
  | block (statements : List Statement)
  | nextRecord
  | nextFile
  | leave
  | again
  | exit (status : Option Expr)
  | giveBack (value : Option Expr)
  | delete (array : String) (indices : Option (List Expr))

instance : Inhabited Statement := ⟨.nothing⟩

/-- The records that a rule is about. -/
inductive Condition where
  | always
  | when (e : Expr)
  | range (first last : Expr)

/-- What is done with some records. -/
structure Rule where
  condition : Condition
  body : Statement

/-- A function of a script.  `arrays` says which parameters are arrays. -/
structure Function where
  parameters : List String
  arrays : List String
  body : Statement

/-- A script. -/
structure Script where
  begins : List Statement
  rules : List Rule
  ends : List Statement
  functions : List (String × Function)

namespace Script

/-- The script in which nothing is done. -/
def empty : Script := ⟨[], [], [], []⟩

/-- The script needs records. -/
def reads (script : Script) : Bool :=
  !script.rules.isEmpty || !script.ends.isEmpty

end Script

end TaskRunner.Records
