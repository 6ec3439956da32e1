import TaskRunner.Snippet.State

/-! What operators make of values, and what values have under keys. -/

namespace TaskRunner.Snippet

open Tool Steps

/-! ### Numbers -/

/-- A number with a fraction. -/
def real : Int ⊕ Float → Float
  | .inl n => Float.ofInt n
  | .inr x => x

/-- A power of whole numbers. -/
def wholePower (a : Int) (n : Nat) : Int := Int.pow a n

/-- What an operator makes of two whole numbers. -/
def operateInts (operator : Operator) (a b : Int) : Running Value := do
  match operator with
  | .add => return .int (a + b)
  | .subtract => return .int (a - b)
  | .multiply => return .int (a * b)
  | .divide =>
    if b = 0 then fail "ZeroDivisionError" "division by zero"
    return .float (Float.ofInt a / Float.ofInt b)
  | .divideWhole =>
    if b = 0 then fail "ZeroDivisionError" "integer division or modulo by zero"
    return .int (Int.fdiv a b)
  | .remainder =>
    if b = 0 then fail "ZeroDivisionError" "integer modulo by zero"
    return .int (Int.fmod a b)
  | .power =>
    if 0 ≤ b then return .int (wholePower a b.toNat)
    else if a = 0 then
      fail "ZeroDivisionError" "0.0 cannot be raised to a negative power"
    else return .float ((Float.ofInt a).pow (Float.ofInt b))
  | .shiftUp =>
    if b < 0 then fail "ValueError" "negative shift count"
    return .int (a * wholePower 2 b.toNat)
  | .shiftDown =>
    if b < 0 then fail "ValueError" "negative shift count"
    return .int (Int.fdiv a (wholePower 2 b.toNat))
  | .bothBits => return .int (bits Nat.land a b)
  | .eitherBits => return .int (bits Nat.lor a b)
  | .oddBits => return .int (bits Nat.xor a b)
where
  /-- An operation on the bits of two numbers, of which negative ones have no first bit. -/
  bits (operation : Nat → Nat → Nat) (a b : Int) : Int :=
    let width := max a.natAbs.log2 b.natAbs.log2 + 2
    let size := Nat.pow 2 width
    let found := operation (a % size).toNat (b % size).toNat % size
    if found < size / 2 then found else found - size

/-- What an operator makes of two numbers of which one has a fraction, if it makes anything. -/
def operateFloats? (operator : Operator) (x y : Float) : Option (Running Value) :=
  match operator with
  | .add => some (pure (.float (x + y)))
  | .subtract => some (pure (.float (x - y)))
  | .multiply => some (pure (.float (x * y)))
  | .divide =>
    if y == 0 then some (fail "ZeroDivisionError" "float division by zero")
    else some (pure (.float (x / y)))
  | .divideWhole =>
    if y == 0 then some (fail "ZeroDivisionError" "float floor division by zero")
    else some (pure (.float ((x - floorRemainder x y) / y)))
  | .remainder =>
    if y == 0 then some (fail "ZeroDivisionError" "float modulo")
    else some (pure (.float (floorRemainder x y)))
  | .power =>
    if x == 0 ∧ y < 0 then
      some (fail "ZeroDivisionError" "0.0 cannot be raised to a negative power")
    else some (pure (.float (x.pow y)))
  | _ => none
where
  /-- The remainder with the sign of the divisor. -/
  floorRemainder (x y : Float) : Float :=
    let rest := Fraction.remainder x y
    if rest != 0 ∧ (rest < 0) != (y < 0) then rest + y else rest

/-- What an operator makes of two numbers, if it makes anything. -/
def operateNumbers? (operator : Operator) (a b : Int ⊕ Float) : Option (Running Value) :=
  match a, b with
  | .inl m, .inl n => some (operateInts operator m n)
  | a, b => operateFloats? operator (real a) (real b)

/-! ### Operators -/

/-- A text repeated. -/
def repeatedText (text : String) (n : Int) : String :=
  String.ofList (List.replicate n.toNat text.toList).flatten

/-- What an operator makes of two sets, if it makes anything. -/
def operateSets? (heap : Heap) (operator : Operator) (a b : List Value) : Option (List Value) :=
  match operator with
  | .eitherBits => some (a ++ b.filter fun member => !isAmong heap a member)
  | .bothBits => some (a.filter (isAmong heap b))
  | .subtract => some (a.filter fun member => !isAmong heap b member)
  | .oddBits =>
    some ((a.filter fun member => !isAmong heap b member) ++
      b.filter fun member => !isAmong heap a member)
  | _ => none

/-- Finds that an operator makes nothing of two values. -/
def unsupported (operator : Operator) (a b : Value) : Running Value := do
  let (s, t) := (← typeOf a, ← typeOf b)
  match operator, a with
  | .add, .text _ => wrongType ("can only concatenate str (not \"" ++ t ++ "\") to str")
  | .add, .tuple _ => wrongType ("can only concatenate tuple (not \"" ++ t ++ "\") to tuple")
  | operator, _ =>
    if operator = .add ∧ s = "list" then
      wrongType ("can only concatenate list (not \"" ++ t ++ "\") to list")
    else if operator = .multiply ∧ (["str", "list", "tuple"].contains s) then
      wrongType ("can't multiply sequence by non-int of type '" ++ t ++ "'")
    else if operator = .multiply ∧ (["str", "list", "tuple"].contains t) then
      wrongType ("can't multiply sequence by non-int of type '" ++ s ++ "'")
    else
      wrongType ("unsupported operand type(s) for " ++ operator.symbol ++ ": '" ++ s ++ "' and '" ++
        t ++ "'")

/-- A text with values in place of its conversions. -/
def conversions (text : String) (value : Value) : Running Value := do
  let heap := (← get).heap
  let (values, entries) : List Value × List (Value × Value) := match value with
    | .tuple members => (members, [])
    | value => match value.object? heap with
      | some (.dict entries) => ([value], entries)
      | _ => ([value], [])
  match withValues heap entries (text.length + 1) text.toList values with
  | .error (kind, message) => fail kind message
  | .ok (found, rest) =>
    if rest.isEmpty ∨ ¬ entries.isEmpty then return .text (String.ofList found)
    else wrongType "not all arguments converted during string formatting"

/-- What an operator makes of two values. -/
def operate (operator : Operator) (a b : Value) : Running Value := do
  let numbers := match a.number?, b.number? with
    | some x, some y => operateNumbers? operator x y
    | _, _ => none
  match numbers with
  | some found => found
  | none => do
    let heap := (← get).heap
    match operator, a, b with
    | .add, .text s, .text t => return .text (s ++ t)
    | .remainder, .text s, value => conversions s value
    | .multiply, .text s, b =>
      match b.int? with
      | some n => return .text (repeatedText s n)
      | none => unsupported operator a b
    | .multiply, a, .text s =>
      match a.int? with
      | some n => return .text (repeatedText s n)
      | none => unsupported operator a b
    | .add, .tuple s, .tuple t => return .tuple (s ++ t)
    | .multiply, .tuple s, b =>
      match b.int? with
      | some n => return .tuple (List.replicate n.toNat s).flatten
      | none => unsupported operator a b
    | operator, a, b =>
      match operator, a.object? heap, b.object? heap with
      | .add, some (.list s), some (.list t) => newList (s.toList ++ t.toList)
      | .multiply, some (.list s), _ =>
        match b.int? with
        | some n => newList (List.replicate n.toNat s.toList).flatten
        | none => unsupported operator a b
      | .multiply, _, some (.list s) =>
        match a.int? with
        | some n => newList (List.replicate n.toNat s.toList).flatten
        | none => unsupported operator a b
      | .eitherBits, some (.dict s), some (.dict t) =>
        create (.dict (t.foldl (fun entries entry => withEntry heap entries entry.1 entry.2) s))
      | operator, some (.set s), some (.set t) =>
        match operateSets? heap operator s t with
        | some members => create (.set members)
        | none => unsupported operator a b
      | operator, _, _ => unsupported operator a b

/-- What a sign makes of a value. -/
def operateSign (sign : Sign) (value : Value) : Running Value := do
  match sign, value.number? with
  | .negative, some (.inl n) => return .int (-n)
  | .negative, some (.inr x) => return .float (-x)
  | .positive, some (.inl n) => return .int n
  | .positive, some (.inr x) => return .float x
  | .inverted, some (.inl n) => return .int (-n - 1)
  | sign, _ =>
    let symbol := match sign with
      | .negative => "-"
      | .positive => "+"
      | .inverted => "~"
    wrongType ("bad operand type for unary " ++ symbol ++ ": '" ++ (← typeOf value) ++ "'")

/-! ### Relations -/

/-- A text stands in another one. -/
def isInside (sought : List Char) : List Char → Bool
  | [] => sought.isEmpty
  | c :: rest => sought.isPrefixOf (c :: rest) || isInside sought rest

/-- A value is among the members of another one. -/
def isWithin (member collection : Value) : Running Bool := do
  match collection, member with
  | .text whole, .text sought => return isInside sought.toList whole.toList
  | .text _, member =>
    wrongType ("'in <string>' requires string as left operand, not " ++ (← typeOf member))
  | collection, member =>
    match collection, ← objectOf? collection with
    | .tuple _, _ => return isAmong (← get).heap (← membersOf collection) member
    | .range _ _ _, _ => return isAmong (← get).heap (← membersOf collection) member
    | .stream _, _ => return isAmong (← get).heap (← membersOf collection) member
    | _, some (.function _ _ _ _ _) =>
      wrongType ("argument of type '" ++ (← typeOf collection) ++ "' is not iterable")
    | _, some _ => return isAmong (← get).heap (← membersOf collection) member
    | _, none => wrongType ("argument of type '" ++ (← typeOf collection) ++ "' is not iterable")

/-- Two values are the same one. -/
def areSame (a b : Value) : Running Bool := do
  match a, b with
  | .object m, .object n => return m == n
  | .object _, _ => return false
  | _, .object _ => return false
  | a, b => do
    if (← typeOf a) = (← typeOf b) then areEqual a b else return false

/-- A relation holds between two values. -/
def relate (relation : Relation) (a b : Value) : Running Bool := do
  let ordered (holds : Ordering → Bool) : Running Bool := do
    match a.order? (← get).heap maxShown b with
    | some order => return holds order
    | none =>
      match a.number?, b.number? with
      | some _, some _ => return false
      | _, _ =>
        match ← objectOf? a, ← objectOf? b with
        | some (.set s), some (.set t) =>
          let heap := (← get).heap
          let below := s.all (isAmong heap t)
          let above := t.all (isAmong heap s)
          return match relation with
            | .less => below && !above
            | .notMore => below
            | .more => above && !below
            | _ => above
        | _, _ =>
          wrongType ("'" ++ relation.symbol ++ "' not supported between instances of '" ++
            (← typeOf a) ++ "' and '" ++ (← typeOf b) ++ "'")
  match relation with
  | .less => ordered (· == .lt)
  | .notMore => ordered (· != .gt)
  | .more => ordered (· == .gt)
  | .notLess => ordered (· != .lt)
  | .equal => areEqual a b
  | .unequal => return !(← areEqual a b)
  | .within => isWithin a b
  | .notWithin => return !(← isWithin a b)
  | .same => areSame a b
  | .notSame => return !(← areSame a b)

/-! ### Keys -/

/-- The member at a place, or the failure that there is none. -/
def memberAt (members : List Value) (kind : String) (key : Value) : Running Value := do
  match key.int? with
  | some index =>
    match placeOf members.length index with
    | some place => return members.getD place .none
    | none =>
      fail "IndexError" ((if kind = "str" then "string" else kind) ++ " index out of range")
  | none =>
    let what := if kind = "str" then "string indices must be integers, not "
      else kind ++ " indices must be integers or slices, not "
    let found ← typeOf key
    wrongType (what ++ (if kind = "str" then "'" ++ found ++ "'" else found))

/-- What a value has under a key. -/
def valueAt (value key : Value) : Running Value := do
  match value with
  | .tuple members => memberAt members "tuple" key
  | .text content => memberAt (characters content) "str" key
  | .range start stop step => memberAt (Value.rangeMembers start stop step) "range object" key
  | value =>
    match ← objectOf? value with
    | some (.list members) => memberAt members.toList "list" key
    | some (.dict entries) => do
      checkKey key
      match entryOf? (← get).heap entries key with
      | some found => return found
      | none => raise (.failure "KeyError" [key])
    | _ => wrongType ("'" ++ (← typeOf value) ++ "' object is not subscriptable")

/-- The members of a value at some places. -/
def valuesAt (value : Value) (start stop step : Option Int) : Running Value := do
  if step = some 0 then fail "ValueError" "slice step cannot be zero"
  let pick (members : List Value) : List Value :=
    let all := members.toArray
    (stretch all.size start stop step).map fun place => all.getD place .none
  match value with
  | .tuple members => return .tuple (pick members)
  | .text content =>
    let all := content.toList.toArray
    return .text (String.ofList
      ((stretch all.size start stop step).map fun place => all.getD place ' '))
  | value =>
    match ← objectOf? value with
    | some (.list members) => newList (pick members.toList)
    | _ => wrongType ("'" ++ (← typeOf value) ++ "' object is not subscriptable")

/-- Sets what a value has under a key. -/
def setAt (value key found : Value) : Running Unit := do
  match value, ← objectOf? value with
  | .object n, some (.list members) =>
    match key.int? with
    | some index =>
      match placeOf members.size index with
      | some place => store n (.list (members.set! place found))
      | none => fail "IndexError" "list assignment index out of range"
    | none =>
      wrongType ("list indices must be integers or slices, not " ++ (← typeOf key))
  | .object n, some (.dict entries) => do
    checkKey key
    store n (.dict (withEntry (← get).heap entries key found))
  | value, _ =>
    wrongType ("'" ++ (← typeOf value) ++ "' object does not support item assignment")

/-- Removes what a value has under a key. -/
def removeAt (value key : Value) : Running Unit := do
  match value, ← objectOf? value with
  | .object n, some (.list members) =>
    match key.int?.bind (placeOf members.size) with
    | some place => store n (.list (members.toList.eraseIdx place).toArray)
    | none => fail "IndexError" "list assignment index out of range"
  | .object n, some (.dict entries) => do
    let heap := (← get).heap
    match entryOf? heap entries key with
    | some _ =>
      store n (.dict (entries.filter fun entry => !entry.1.equal heap maxShown key))
    | none => raise (.failure "KeyError" [key])
  | value, _ => wrongType ("'" ++ (← typeOf value) ++ "' object doesn't support item deletion")

/-- The values in their order. -/
def sortValues (values : List (Value × Value)) (reverse : Bool) : Running (List Value) := do
  let heap := (← get).heap
  let pairs := values.zip values.tail
  match pairs.find? fun pair => (pair.2.1.order? heap maxShown pair.1.1).isNone with
  | some (first, second) =>
    wrongType ("'<' not supported between instances of '" ++ second.1.typeName heap ++ "' and '" ++
      first.1.typeName heap ++ "'")
  | none =>
    let before (a b : Value × Value) : Bool :=
      if reverse then a.1.order? heap maxShown b.1 != some .lt
      else b.1.order? heap maxShown a.1 != some .lt
    return (values.mergeSort before).map Prod.snd

end TaskRunner.Snippet
