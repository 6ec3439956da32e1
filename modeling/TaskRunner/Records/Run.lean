import TaskRunner.Records.Format
import TaskRunner.Records.State

/-! Running scripts for records. -/

namespace TaskRunner.Records

open Tool Steps

/-! ### Numbers and texts -/

/-- What comes of reckoning with two numbers. -/
def Reckoning.apply (reckoning : Reckoning) (x y : Float) : Float :=
  match reckoning with
  | add => x + y
  | subtract => x - y
  | multiply => x * y
  | divide => x / y
  | power => x.pow y
  | remainder => Fraction.remainder x y

/-- Two numbers close to a place in a text: where a part begins, and where it ends. -/
def partBounds (start : Float) (length : Option Float) : Nat × Option Nat :=
  let cut (x : Float) : Int :=
    if x.isNaN then 0 else Fraction.truncate (max (-1000000000000.0) (min x 1000000000000.0))
  let start := cut start
  let length := length.map fun length =>
    let length := cut length
    if start < 0 then length - start else length
  ((max start 1).toNat - 1, length.map Int.toNat)

/-- A part of a text. -/
def partOf (text : Text) (start : Float) (length : Option Float) : Text :=
  match partBounds start length with
  | (start, some length) => (text.drop start).take length
  | (start, none) => text.drop start

/-- The first place of a text in another one, counted from one on. -/
def placeOf (sought : Text) : Nat → Text → Nat
  | n, text =>
    if sought.isPrefixOf text then n + 1
    else
      match text with
      | [] => 0
      | _ :: rest => placeOf sought (n + 1) rest

/-- What takes the place of something found: a mark stands for it, and a backslash takes the meaning
from the mark. -/
def replacement (found : Text) : Text → Text
  | '\\' :: '\\' :: '&' :: rest => '\\' :: found ++ replacement found rest
  | '\\' :: '&' :: rest => '&' :: replacement found rest
  | '&' :: rest => found ++ replacement found rest
  | c :: rest => c :: replacement found rest
  | [] => []

/-- A text with something in place of what was found. -/
def replaced (subject : Array Char) (pattern : Text) : Nat → List Regex.Hit → List Text
  | start, [] => [(subject.extract start subject.size).toList]
  | start, hit :: hits =>
    (subject.extract start hit.start).toList :: replacement (hit.text subject 0) pattern ::
      replaced subject pattern hit.stop hits

/-! ### Expressions -/

/-- A place that has been found: the variable, the field or the member. -/
inductive Spot where
  | variable_ (name : String)
  | field (n : Int)
  | member (array : Nat) (key : Key)

/-- The value at a place. -/
def Spot.value : Spot → Running Value
  | .variable_ name => valueOf name
  | .field n => fieldValue n
  | .member array key => do
    changeArray array (·.touch true key)
    return ((← get).arrays.getD array .empty).value key

/-- Sets the value at a place. -/
def Spot.set : Spot → Value → Running Unit
  | .variable_ name, value => setVariable name value
  | .field n, value => setField n value
  | .member array key, value => changeArray array (·.put key value)

/-- The number of a field. -/
def fieldIndex (value : Value) : Int :=
  wholeNumber value.toNumber

/-- The key that values stand for. -/
def keyOf (state : State) (values : List Value) : Key :=
  match values with
  | [value] => .ofValue state.format value
  | values =>
    .ofText (List.intercalate (state.textOf "SUBSEP") (values.map (·.toText state.format)))

/-- How deep functions may call one another. -/
def maxDepth : Nat := 100000

/-- What a line is read into: a variable, or the record. -/
def readInto (spot : Option Spot) (text : Text) : Running Unit :=
  match spot with
  | some spot => spot.set (.input text)
  | none => modify fun state => { state with record := .ofText text }

/-- Reads a line of a file or a command. -/
def readOther (command : Bool) (name : Text) (spot : Option Spot) : Running Value := do
  match ← nextOf command name with
  | none => return .number (-1)
  | some none => return .number 0
  | some (some text) => do
    readInto spot text
    return .number 1

/-- The seconds on the clock. -/
def seconds : Running Value := do
  match ← tool (ask .clock) with
  | .ok time => return .ofNat (time / 1000000)
  | .error _ => return .number 0

/-- The next random number, between zero and one. -/
def random : Running Value := do
  let state ← get
  let seed := (state.seed * 6364136223846793005 + 1442695040888963407) % 18446744073709551616
  set { state with seed }
  return .number (Float.ofNat (seed / 2048) / 9007199254740992.0)

/-- The functions of one number. -/
def Builtin.ofNumber? : Builtin → Option (Float → Float)
  | sin => some Float.sin
  | cos => some Float.cos
  | exp => some Float.exp
  | log => some Float.log
  | sqrt => some Float.sqrt
  | int => some fun x => if x < 0 then x.ceil else x.floor
  | _ => none

/-- What a function that every script can call yields for values. -/
def Builtin.apply (builtin : Builtin) (values : List Value) : Running Value := do
  let state ← get
  let text (n : Nat) : Text := (values.getD n .missing).toText state.format
  let number (n : Nat) : Float := (values.getD n .missing).toNumber
  match builtin with
  | .length =>
    return .ofNat (if values.isEmpty then state.record.text else text 0).length
  | .substr =>
    return .text (partOf (text 0) (number 1) (values[2]?.map Value.toNumber))
  | .index => return .ofNat (placeOf (text 1) 0 (text 0))
  | .sprintf =>
    match formatted state.format (text 0) values.tail with
    | (result, none) => return .text result
    | (_, some found) => fault (found.message "sprintf" (text 0))
  | .atan2 => return .number (Float.atan2 (number 0) (number 1))
  | .rand => random
  | .srand =>
    let seed ← if values.isEmpty then seconds else pure (values.getD 0 .missing)
    set { state with seed := (Fraction.truncate seed.toNumber).toNat, lastSeed := seed }
    return state.lastSeed
  | .tolower => return .text ((text 0).map Char.toLower)
  | .toupper => return .text ((text 0).map Char.toUpper)
  | .system => runCommand (text 0)
  | .close => closeNamed (text 0)
  | .fflush =>
    flushAll
    let isKnown := values.isEmpty || state.outlets.any fun outlet => outlet.name == text 0
    return .number (if isKnown then 0 else -1)
  | .systime => seconds
  | builtin =>
    match builtin.ofNumber? with
    | some function => return .number (function (number 0))
    | none => return .missing

mutual

/-- The value of an expression. -/
def evaluate : Nat → Expr → Running Value
  | 0, _ => fault "function call nesting too deep for evaluation".toList
  | fuel + 1, e => do
    match e with
    | .number x => return .number x
    | .text text => return .text text
    | .regex matcher => return .ofBool (matcher.fits (← get).record.text.toArray)
    | .place place => do
      let spot ← spotOf fuel place
      spot.value
    | .assign place reckoning value => do
      let spot ← spotOf fuel place
      let value ← evaluate fuel value
      match reckoning with
      | none => do
        spot.set value
        return value
      | some reckoning => do
        let before ← spot.value
        let value : Value := .number (reckoning.apply before.toNumber value.toNumber)
        spot.set value
        return value
    | .step place by_ before => do
      let spot ← spotOf fuel place
      let x := (← spot.value).toNumber
      spot.set (.number (x + by_))
      return .number (if before then x + by_ else x)
    | .negative a => return .number (-(← evaluate fuel a).toNumber)
    | .positive a => return .number (← evaluate fuel a).toNumber
    | .not a => return .ofBool (!(← evaluate fuel a).holds)
    | .reckon reckoning a b => do
      let a ← evaluate fuel a
      let b ← evaluate fuel b
      return .number (reckoning.apply a.toNumber b.toNumber)
    | .join a b => do
      let a ← evaluate fuel a
      let b ← evaluate fuel b
      let format := (← get).format
      return .text (a.toText format ++ b.toText format)
    | .compare comparison a b => do
      let a ← evaluate fuel a
      let b ← evaluate fuel b
      return .ofBool (comparison.holds (a.compare (← get).format b))
    | .fits negated a pattern => do
      let text := (← evaluate fuel a).toText (← get).format
      let matcher ← matcherOfExpr fuel pattern
      return .ofBool (matcher.fits text.toArray != negated)
    | .member array indices => do
      let values ← evaluateAll fuel indices
      let n ← arrayNumber array
      let key := keyOf (← get) values
      changeArray n (·.touch false key)
      return .ofBool (((← get).arrays.getD n .empty).has key)
    | .and a b => do
      if (← evaluate fuel a).holds then return .ofBool (← evaluate fuel b).holds
      else return .ofBool false
    | .or a b => do
      if (← evaluate fuel a).holds then return .ofBool true
      else return .ofBool (← evaluate fuel b).holds
    | .choose condition a b => do
      if (← evaluate fuel condition).holds then evaluate fuel a else evaluate fuel b
    | .row members => do
      let values ← evaluateAll fuel members
      return values.getLastD .missing
    | .call name arguments => callFunction fuel name arguments
    | .builtin builtin arguments => callBuiltin fuel builtin arguments
    | .readMain target => do
      let spot ← targetOf fuel target
      match ← nextRecord with
      | none => return .number 0
      | some text => do
        readInto spot text
        return .number 1
    | .readFile target file => do
      let spot ← targetOf fuel target
      let name := (← evaluate fuel file).toText (← get).format
      readOther false name spot
    | .readCommand target command => do
      let name := (← evaluate fuel command).toText (← get).format
      let spot ← targetOf fuel target
      readOther true name spot

/-- The values of expressions. -/
def evaluateAll : Nat → List Expr → Running (List Value)
  | 0, _ => return []
  | _ + 1, [] => return []
  | fuel + 1, e :: rest => do
    let value ← evaluate fuel e
    return value :: (← evaluateAll fuel rest)

/-- Finds a place. -/
def spotOf : Nat → Place → Running Spot
  | 0, _ => fault "function call nesting too deep for evaluation".toList
  | fuel + 1, place => do
    match place with
    | .named name => return .variable_ name
    | .field number => return .field (fieldIndex (← evaluate fuel number))
    | .element array indices => do
      let values ← evaluateAll fuel indices
      let n ← arrayNumber array
      return .member n (keyOf (← get) values)

/-- Finds the place that a line is read into, if there is one. -/
def targetOf : Nat → Option Place → Running (Option Spot)
  | 0, _ => return none
  | _ + 1, none => return none
  | fuel + 1, some place => return some (← spotOf fuel place)

/-- The expression that something is compared with. -/
def matcherOfExpr : Nat → Expr → Running Regex.Matcher
  | 0, _ => fault "function call nesting too deep for evaluation".toList
  | fuel + 1, pattern => do
    match pattern with
    | .regex matcher => return matcher
    | pattern =>
      let text := (← evaluate fuel pattern).toText (← get).format
      matcherFor text

/-- Calls a function of the script. -/
def callFunction : Nat → String → List Expr → Running Value
  | 0, _, _ => fault "function call nesting too deep for evaluation".toList
  | fuel + 1, name, arguments => do
    match (← get).script.functions.lookup name with
    | none => return .missing
    | some function => do
      let cells ← cellsOf fuel function function.parameters arguments
      let before := (← get).locals
      modify fun state => { state with locals := cells }
      let outcome ← outcomeOf (perform fuel function.body)
      modify fun state => { state with locals := before }
      match outcome with
      | .ok () => return .missing
      | .error (.function value) => return value
      | .error leave => throw leave

/-- What the parameters of a function stand for. -/
def cellsOf : Nat → Function → List String → List Expr → Running (List (String × Cell))
  | 0, _, _, _ => return []
  | _ + 1, _, [], _ => return []
  | fuel + 1, function, parameter :: parameters, arguments => do
    let cell ←
      if function.arrays.contains parameter then
        match arguments.head? with
        | some (.place (.named name)) => do
          pure (Cell.array (← arrayNumber name))
        | _ => pure (Cell.array (← newArray))
      else
        match arguments.head? with
        | some e => do
          pure (Cell.value (← evaluate fuel e))
        | none => pure (Cell.value .missing)
    return (parameter, cell) :: (← cellsOf fuel function parameters arguments.tail)

/-- Calls a function that every script can call. -/
def callBuiltin : Nat → Builtin → List Expr → Running Value
  | 0, _, _ => fault "function call nesting too deep for evaluation".toList
  | fuel + 1, builtin, arguments => do
    match builtin, arguments with
    | .length, [.place (.named name)] => do
      let state ← get
      let array := match state.locals.lookup name with
        | some (.array n) => some n
        | some (.value _) => none
        | none => if state.globals.contains name then none else state.names[name]?
      match array with
      | some n => return .ofNat (state.arrays.getD n .empty).size
      | none => do
        let value ← valueOf name
        Builtin.length.apply [value]
    | .split, text :: .place (.named name) :: rest => do
      let text := (← evaluate fuel text).toText (← get).format
      let splitter ← match rest with
        | [] => pure (← get).splitter
        | .regex matcher :: _ => pure (Splitter.regex matcher)
        | e :: _ => do
          let separator := (← evaluate fuel e).toText (← get).format
          sound separator (Splitter.ofText separator)
      let parts := splitter.split text
      let n ← arrayNumber name
      changeArray n fun _ => .ofParts (parts.map .input)
      return .ofNat parts.length
    | .match_, text :: pattern :: _ => do
      let text := (← evaluate fuel text).toText (← get).format
      let matcher ← matcherOfExpr fuel pattern
      let (start, length) : Int × Int := match matcher.find? text.toArray 0 with
        | some hit => (hit.start + 1, hit.stop - hit.start)
        | none => (0, -1)
      setVariable "RSTART" (.number (Float.ofInt start))
      setVariable "RLENGTH" (.number (Float.ofInt length))
      return .number (Float.ofInt start)
    | .sub, pattern :: arguments => substitute fuel false pattern arguments
    | .gsub, pattern :: arguments => substitute fuel true pattern arguments
    | builtin, arguments => do
      let values ← evaluateAll fuel arguments
      builtin.apply values

/-- Replaces what an expression fits. -/
def substitute : Nat → Bool → Expr → List Expr → Running Value
  | 0, _, _, _ => return .missing
  | fuel + 1, everywhere, pattern, arguments => do
    let matcher ← matcherOfExpr fuel pattern
    let pattern := (← evaluate fuel (arguments.headD (.text []))).toText (← get).format
    let target : Option Expr := arguments[1]?
    let spot ← match target with
      | none => pure (some (Spot.field 0))
      | some (.place place) => do
        pure (some (← spotOf fuel place))
      | some _ => pure none
    let value ← match spot, target with
      | some spot, _ => spot.value
      | none, some e => evaluate fuel e
      | none, none => pure .missing
    let subject := (value.toText (← get).format).toArray
    let hits :=
      if everywhere then matcher.findAll subject (2 * subject.size + 2) 0 none
      else (matcher.find? subject 0).toList
    if hits.isEmpty then return .number 0
    else
      if let some spot := spot then
        spot.set (.text (replaced subject pattern 0 hits).flatten)
      return .ofNat hits.length

/-- Carries out a statement. -/
def perform : Nat → Statement → Running Unit
  | 0, _ => fault "function call nesting too deep for evaluation".toList
  | fuel + 1, statement => do
    match statement with
    | .nothing => return
    | .evaluate e => do
      let _ ← evaluate fuel e
    | .print arguments outlet => do
      let values ← evaluateAll fuel arguments
      let state ← get
      let format := match state.global "OFMT" with
        | .text format => format
        | value => value.toText "%.6g".toList
      let text :=
        if arguments.isEmpty then state.record.text
        else List.intercalate (state.textOf "OFS") (values.map (·.toText format))
      write fuel outlet (text ++ state.textOf "ORS")
    | .printf arguments outlet => do
      let values ← evaluateAll fuel arguments
      let state ← get
      let format := (values.headD .missing).toText state.format
      let (text, found) := formatted state.format format values.tail
      if ¬ text.isEmpty ∨ found.isNone then write fuel outlet text
      if let some found := found then fault (found.message "printf" format)
    | .branch condition yes no => do
      if (← evaluate fuel condition).holds then perform fuel yes else perform fuel no
    | .repeat_ bodyFirst condition step body => do
      let turn : Running Bool := do
        match ← outcomeOf (perform fuel body) with
        | .error .loop => return false
        | .error .turn => pure ()
        | .error leave => throw leave
        | .ok () => pure ()
        perform fuel step
        match condition with
        | some condition => return (← evaluate fuel condition).holds
        | none => return true
      let begins ← match bodyFirst, condition with
        | false, some condition => do
          pure (← evaluate fuel condition).holds
        | _, _ => pure true
      if begins then repeatWhile turn Act.manyTurns
    | .forKeys place array body => do
      let n ← arrayNumber array
      let (keys, found) := ((← get).arrays.getD n .empty).keys
      changeArray n fun _ => found
      let spot ← spotOf fuel place
      each (fun key => do
        spot.set (.input key.toList)
        match ← outcomeOf (perform fuel body) with
        | .error .loop => return false
        | .error .turn => return true
        | .error leave => throw leave
        | .ok () => return true) keys
    | .block statements => performAll fuel statements
    | .nextRecord => throw .record
    | .nextFile => throw .file
    | .leave => throw .loop
    | .again => throw .turn
    | .exit status => do
      if let some e := status then
        let value ← evaluate fuel e
        tool (setStatus (wholeNumber value.toNumber % 256).toNat)
      throw .script
    | .giveBack value => do
      let value ← match value with
        | some e => evaluate fuel e
        | none => pure .missing
      throw (.function value)
    | .delete array indices => do
      let n ← arrayNumber array
      match indices with
      | none => changeArray n fun _ => .empty
      | some indices => do
        let values ← evaluateAll fuel indices
        let key := keyOf (← get) values
        changeArray n (·.remove key)

/-- Carries out statements. -/
def performAll : Nat → List Statement → Running Unit
  | 0, _ => fault "function call nesting too deep for evaluation".toList
  | _ + 1, [] => return
  | fuel + 1, statement :: rest => do
    perform fuel statement
    performAll fuel rest

/-- Writes a text. -/
def write : Nat → Option (OutletKind × Expr) → Text → Running Unit
  | 0, _, _ => return
  | _ + 1, none, text => tool (say text)
  | fuel + 1, some (kind, e), text => do
    let name := (← evaluate fuel e).toText (← get).format
    writeTo kind name text

end

/-! ### Scripts -/

/-- The record meets a condition. -/
def meets (index : Nat) (condition : Condition) : Running Bool := do
  match condition with
  | .always => return true
  | .when e => return (← evaluate maxDepth e).holds
  | .range first last => do
    let isOpen := (← get).ranges.getD index false
    let begins ← if isOpen then pure true else pure (← evaluate maxDepth first).holds
    if ¬ begins then return false
    else
      let ends := (← evaluate maxDepth last).holds
      modify fun state => { state with ranges := state.ranges.set! index (!ends) }
      return true

/-- Applies the rules to the record. -/
def applyRules : List (Rule × Nat) → Running Unit
  | [] => return
  | (rule, index) :: rest => do
    if ← meets index rule.condition then perform maxDepth rule.body
    applyRules rest

/-- Deals with the records of the main input. -/
def applyAll (rules : List (Rule × Nat)) : Running Unit :=
  repeatWhile (do
    match ← nextRecord with
    | none => return false
    | some text => do
      modify fun state => { state with record := .ofText text }
      match ← outcomeOf (applyRules rules) with
      | .ok () => return true
      | .error .record => return true
      | .error .file => do
        closeMain
        return true
      | .error leave => throw leave) Act.manyTurns

/-- Runs a script from its beginning up to its end. -/
def runScript : Running Unit := do
  let script := (← get).script
  let before ← outcomeOf do
    performAll maxDepth script.begins
    if script.reads then applyAll script.rules.zipIdx
  match before with
  | .error (.function _) => pure ()
  | _ => do
    let _ ← outcomeOf (performAll maxDepth script.ends)
  settleAll

end TaskRunner.Records
