/-! Snippets: short programs of statements that are set off by their indentation. -/

namespace TaskRunner.Snippet

/-- An operator on two values. -/
inductive Operator where
  | add
  | subtract
  | multiply
  | divide
  | divideWhole
  | remainder
  | power
  | bothBits
  | eitherBits
  | oddBits
  | shiftUp
  | shiftDown
deriving DecidableEq, Repr

/-- The sign of an operator. -/
def Operator.symbol : Operator → String
  | add => "+"
  | subtract => "-"
  | multiply => "*"
  | divide => "/"
  | divideWhole => "//"
  | remainder => "%"
  | power => "** or pow()"
  | bothBits => "&"
  | eitherBits => "|"
  | oddBits => "^"
  | shiftUp => "<<"
  | shiftDown => ">>"

/-- A relation between two values. -/
inductive Relation where
  | less
  | notMore
  | equal
  | unequal
  | more
  | notLess
  | within
  | notWithin
  | same
  | notSame
deriving DecidableEq, Repr

/-- The sign of a relation. -/
def Relation.symbol : Relation → String
  | less => "<"
  | notMore => "<="
  | equal => "=="
  | unequal => "!="
  | more => ">"
  | notLess => ">="
  | within => "in"
  | notWithin => "not in"
  | same => "is"
  | notSame => "is not"

/-- A sign in front of a value. -/
inductive Sign where
  | negative
  | positive
  | inverted
deriving DecidableEq, Repr

/-- A value that stands in a snippet. -/
inductive Literal where
  | none
  | ellipsis
  | bool (b : Bool)
  | int (n : Int)
  | float (x : Float)
  | text (text : String)

/-- How an argument is passed. -/
inductive Passing where
  | plain
  | named (name : String)
  | spread
  | spreadNamed
deriving DecidableEq, Repr

/-- What a collection of members is. -/
inductive Collection where
  | list
  | tuple
  | set
deriving DecidableEq, Repr

mutual

/-- An expression. -/
inductive Expr where
  | literal (literal : Literal)
  | name (name : String)
  | part (e : Expr) (name : String)
  | index (e key : Expr)
  | slice (start stop step : Option Expr)
  | call (function : Expr) (arguments : List Argument)
  | operate (operator : Operator) (a b : Expr)
  | signed (sign : Sign) (a : Expr)
  | not (a : Expr)
  | relate (first : Expr) (rest : List Related)
  | and (a b : Expr)
  | or (a b : Expr)
  | choose (condition yes no : Expr)
  | lambda (parameters : List Parameter) (body : Expr)
  | collect (collection : Collection) (members : List Expr)
  | dict (entries : List Entry)
  | starred (e : Expr)
  | gather (collection : Collection) (member : Expr) (clauses : List Clause)
  | gatherDict (key value : Expr) (clauses : List Clause)
  | format (pieces : List Piece)
  | assigned (name : String) (e : Expr)

/-- An argument of a call. -/
inductive Argument where
  | of (passing : Passing) (e : Expr)

/-- What the value before is compared with. -/
inductive Related where
  | of (relation : Relation) (e : Expr)

/-- An entry of a dictionary.  Without a key it is a whole dictionary. -/
inductive Entry where
  | of (key : Option Expr) (value : Expr)

/-- A parameter of a function: one that takes all arguments that are left has one star or two. -/
inductive Parameter where
  | of (name : String) (stars : Nat) (usual : Option Expr)

/-- A clause of a collection that is gathered. -/
inductive Clause where
  | each (target source : Expr)
  | when (condition : Expr)

/-- A piece of a text with values in it. -/
inductive Piece where
  | text (text : String)
  | value (e : Expr) (conversion : Option Char) (specification : List Piece) (shown : String)

end

instance : Inhabited Expr := ⟨.literal .none⟩

mutual

/-- A statement and its line. -/
inductive Statement where
  | of (line : Nat) (action : Action)

/-- What a statement does. -/
inductive Action where
  | evaluate (e : Expr)
  | assign (targets : List Expr) (value : Expr)
  | change (target : Expr) (operator : Operator) (value : Expr)
  | branch (condition : Expr) (yes no : List Statement)
  | repeat_ (condition : Expr) (body last : List Statement)
  | forEach (target source : Expr) (body last : List Statement)
  | define (name : String) (parameters : List Parameter) (body : List Statement)
  | giveBack (value : Option Expr)
  | leave
  | again
  | pass
  | load (files : List (String × String))
  | loadFrom (file : String) (names : List (String × String))
  | attempt (body : List Statement) (handlers : List Handler) (otherwise last : List Statement)
  | raise (value : Option Expr)
  | within (items : List Opened) (body : List Statement)
  | outside (names : List String)
  | delete (targets : List Expr)
  | check (condition : Expr) (message : Option Expr)

/-- What is done about a failure. -/
inductive Handler where
  | of (kinds : Option Expr) (name : Option String) (body : List Statement)

/-- What is opened for some statements. -/
inductive Opened where
  | of (e : Expr) (target : Option Expr)

end

end TaskRunner.Snippet
