import TaskRunner.Program.Launch
import TaskRunner.Program.Steps
import TaskRunner.Records.Associations
import TaskRunner.Records.Fields
import TaskRunner.Records.Parse

/-! A script for records under way: its variables, the record that it is about, and what it reads
and writes. -/

namespace TaskRunner.Records

open Tool

/-- What a name stands for inside of a function. -/
inductive Cell where
  | value (value : Value)
  | array (n : Nat)

/-- Something that is written to, with what was gathered for it, the last part first. -/
structure Outlet where
  command : Bool
  name : Text
  descriptor : Nat
  child : Option Nat
  parts : List Text

/-- Something that is read beside the main input. -/
structure Inlet where
  command : Bool
  name : Text
  source : Source
  child : Option Nat

/-- A script under way.  `operand` is the number of the next file to read; `named` says that there
was one.  `total` and `inFile` count the records. -/
structure State where
  script : Script
  environment : List Text
  globals : Std.HashMap String Value
  names : Std.HashMap String Nat
  arrays : Array Associations
  locals : List (String × Cell)
  record : Record
  splitter : Splitter
  divider : Divider
  total : Float
  inFile : Float
  ranges : Array Bool
  matchers : Std.HashMap String Regex.Matcher
  outlets : List Outlet
  inlets : List Inlet
  source : Option Source
  operand : Nat
  named : Bool
  ended : Bool
  seed : Nat
  lastSeed : Value

/-- Why a statement is left before its end. -/
inductive Leave where
  | loop
  | turn
  | record
  | file
  | script
  | function (value : Value)

/-- A step of a script. -/
abbrev Running := Steps State Leave

open Steps

/-! ### Variables -/

namespace State

/-- The value of a variable that no other part of the state stands for. -/
def global (state : State) (name : String) : Value :=
  state.globals.getD name .missing

/-- The format for numbers in texts. -/
def format (state : State) : Text :=
  match state.global "CONVFMT" with
  | .text format => format
  | value => value.toText "%.6g".toList

/-- The text that a variable stands for. -/
def textOf (state : State) (name : String) : Text :=
  (state.global name).toText state.format

/-- The fields of the record. -/
def fields (state : State) : Array Value :=
  state.record.fieldsBy state.splitter

/-- The state in which the record has been cut into fields. -/
def withFields (state : State) : State :=
  { state with record := { state.record with fields := some state.fields } }

end State

/-- Ends the program at once. -/
def stop {α : Type} (status : Nat) : Running α :=
  tool do
    setStatus status
    finish status

/-- A complaint that ends the program. -/
def abort {α : Type} (message : Text) : Running α := do
  tool do
    let name := (← get).name
    writeError (name ++ ": ".toList ++ message ++ ['\n'])
  stop 2

/-- A complaint about what a script does, that ends the program. -/
def fault {α : Type} (message : Text) : Running α := do
  let state ← get
  let place : Text := "\tFILENAME=\"" ++ state.textOf "FILENAME" ++ "\" FNR=" ++
    numberText "%.6g".toList state.inFile ++ " NR=" ++ numberText "%.6g".toList state.total
  abort (("run time error: " : String) ++ message ++ '\n' :: place)

/-- The expression that a text stands for. -/
def matcherFor (text : Text) : Running Regex.Matcher := do
  let state ← get
  match state.matchers[String.ofList text]? with
  | some matcher => return matcher
  | none =>
    match matcherOf text with
    | .ok matcher => do
      set { state with matchers := state.matchers.insert (String.ofList text) matcher }
      return matcher
    | .error found =>
      fault (("regular expression compile failed (" ++ found.message ++ ")\n" : String) ++ text)

/-- What comes of a text that may be no expression. -/
def sound {α : Type} (text : Text) (found : Except RegexFault α) : Running α := do
  match found with
  | .ok value => return value
  | .error found =>
    fault (("regular expression compile failed (" ++ found.message ++ ")\n" : String) ++ text)

/-- Sets the record from fields. -/
def joinFields (fields : Array Value) : Running Unit := do
  modify fun state =>
    let format := state.format
    let text := List.intercalate (state.textOf "OFS") (fields.toList.map (·.toText format))
    { state with record := ⟨text, some fields⟩ }

/-- The value of a variable. -/
def valueOf (name : String) : Running Value := do
  let state ← get
  match state.locals.lookup name with
  | some (.value value) => return value
  | some (.array _) => fault (("type error in reference to " ++ name : String))
  | none =>
    match name with
    | "NF" => do
      let state := state.withFields
      set state
      return .ofNat state.fields.size
    | "NR" => return .number state.total
    | "FNR" => return .number state.inFile
    | name => return state.global name

/-- Sets a variable. -/
def setVariable (name : String) (value : Value) : Running Unit := do
  let state ← get
  if (state.locals.lookup name).isSome then
    let change (entry : String × Cell) : String × Cell :=
      if entry.1 == name then (name, .value value) else entry
    set { state with locals := state.locals.map change }
  else
    match name with
    | "NF" => do
      let size := (Fraction.truncate value.toNumber).toNat
      let fields := state.fields
      let missing := Array.replicate (size - fields.size) (Value.text [])
      joinFields (fields.extract 0 size ++ missing)
    | "NR" => set { state with total := value.toNumber }
    | "FNR" => set { state with inFile := value.toNumber }
    | name => do
      let state := if name = "FS" then state.withFields else state
      set { state with globals := state.globals.insert name value }
      let text := value.toText state.format
      if name = "FS" then
        let splitter ← sound text (Splitter.ofText text)
        modify fun state => { state with splitter }
      else if name = "RS" then
        let divider ← sound text (Divider.ofText text)
        modify fun state => { state with divider }

/-- The value of a field. -/
def fieldValue (n : Int) : Running Value := do
  if n < 0 then fault (("negative field index $" ++ toString n : String))
  let state ← get
  if n = 0 then return .input state.record.text
  else
    let state := state.withFields
    set state
    return state.fields.getD (n.toNat - 1) .missing

/-- Sets a field. -/
def setField (n : Int) (value : Value) : Running Unit := do
  if n < 0 then fault (("negative field index $" ++ toString n : String))
  let state ← get
  if n = 0 then set { state with record := .ofText (value.toText state.format) }
  else
    let fields := state.fields
    let fields := fields ++ Array.replicate (n.toNat - fields.size) (Value.text [])
    joinFields (fields.set! (n.toNat - 1) value)

/-- The number of an array. -/
def arrayNumber (name : String) : Running Nat := do
  let state ← get
  match state.locals.lookup name with
  | some (.array n) => return n
  | some (.value _) => fault (("type error in reference to " ++ name : String))
  | none =>
    match state.names[name]? with
    | some n => return n
    | none =>
      let n := state.arrays.size
      set { state with arrays := state.arrays.push .empty, names := state.names.insert name n }
      return n

/-- A new array. -/
def newArray : Running Nat := do
  let state ← get
  set { state with arrays := state.arrays.push .empty }
  return state.arrays.size

/-- Changes an array. -/
def changeArray (n : Nat) (change : Associations → Associations) : Running Unit :=
  modify fun state => { state with arrays := state.arrays.modify n change }

/-! ### Writing -/

/-- Writes what was gathered for an outlet. -/
def flushOutlet (outlet : Outlet) : Tool Outlet := do
  if ¬ outlet.parts.isEmpty then
    let _ ← act (Act.writeAll outlet.descriptor outlet.parts.reverse.flatten)
  return { outlet with parts := [] }

/-- Writes what was gathered for all outlets. -/
def flushOutlets : List Outlet → Tool (List Outlet)
  | [] => return []
  | outlet :: rest => do
    let outlet ← flushOutlet outlet
    return outlet :: (← flushOutlets rest)

/-- Writes all that was gathered. -/
def flushAll : Running Unit := do
  let state ← get
  let outlets ← tool do
    flush
    flushOutlets state.outlets
  set { state with outlets }

/-- Starts a command whose standard input or output is an end of a pipe, and yields the other end.
-/
def startCommand (environment : List Text) (reads : Bool) (others : List Nat) (command : Text) :
    Tool (Option (Nat × Nat)) := do
  match ← ask .pipe with
  | .error _ => return none
  | .ok (input, output) => do
    let ready : Tool Unit := do
      let _ ← ask (if reads then .copy output 1 else .copy input 0)
      Tool.each (fun descriptor => do
        let _ ← ask (.close descriptor)) (input :: output :: others)
    let desk ← get
    let child : Tool Unit := do
      ready
      let shell := "/bin/sh".toList
      let refusal ← Program.becomeOneOf environment [shell, "-c".toList, command] .noEntry [shell]
      complain (Program.startFailure refusal) (shell ++ ": ".toList ++ refusal.message)
      finish 1
    let number ← act (Act.fork (child { desk with output := [], size := 0 } fun _ _ => .exit 0))
    let _ ← ask (.close (if reads then output else input))
    return some (if reads then input else output, number)

/-- The descriptors of the commands that are written to. -/
def State.pipes (state : State) : List Nat :=
  (state.outlets.filter (·.command)).map (·.descriptor)

/-- Opens an outlet. -/
def openOutlet (kind : OutletKind) (name : Text) : Running Outlet := do
  let state ← get
  match kind with
  | .command =>
    flushAll
    match ← tool (startCommand state.environment false state.pipes name) with
    | some (descriptor, child) => return ⟨true, name, descriptor, some child, []⟩
    | none => abort (("cannot open pipe \"" : String) ++ name ++ "\" for output")
  | kind =>
    let mode : OpenMode := if kind = .file then .output else .addition
    match ← tool (ask (.openFile name mode 0o666)) with
    | .ok descriptor => return ⟨false, name, descriptor, none, []⟩
    | .error refusal =>
      abort (("cannot open \"" : String) ++ name ++ "\" for output (" ++ refusal.message ++ ")")

/-- How much is gathered for an outlet. -/
def outletBlock : Nat := 4096

/-- Writes to an outlet. -/
def writeTo (kind : OutletKind) (name : Text) (text : Text) : Running Unit := do
  let isFile := kind != .command
  if isFile ∧ (name = "/dev/stdout".toList ∨ name = ['-']) then tool (say text)
  else if isFile ∧ name = "/dev/stderr".toList then tool (writeError text)
  else
    let isMeant (outlet : Outlet) : Bool := outlet.command != isFile && outlet.name == name
    let outlet ← match (← get).outlets.find? isMeant with
      | some outlet => pure outlet
      | none => openOutlet kind name
    let outlet := { outlet with parts := text :: outlet.parts }
    let size := outlet.parts.foldl (fun n part => n + part.length) 0
    let outlet ← if outletBlock ≤ size then tool (flushOutlet outlet) else pure outlet
    modify fun state =>
      { state with outlets := outlet :: state.outlets.filter fun other => !isMeant other }

/-- The status that `close` and `system` yield. -/
def statusValue : ExitStatus → Value
  | .code status => .ofNat status
  | .signal signal => .ofNat (256 + signal)

/-- Closes an outlet, and yields the status of its command. -/
def closeOutlet (outlet : Outlet) : Tool Value := do
  let outlet ← flushOutlet outlet
  let _ ← ask (.close outlet.descriptor)
  match outlet.child with
  | some child => return statusValue (← Program.awaitEnd child)
  | none => return .number 0

/-- Closes an inlet, and yields the status of its command. -/
def closeInlet (inlet : Inlet) : Tool Value := do
  let _ ← ask (.close inlet.source.descriptor)
  match inlet.child with
  | some child => return statusValue (← Program.awaitEnd child)
  | none => return .number 0

/-- Closes what has a name. -/
def closeNamed (name : Text) : Running Value := do
  let state ← get
  let outlets := state.outlets.filter fun outlet => outlet.name == name
  let inlets := state.inlets.filter fun inlet => inlet.name == name
  set { state with
    outlets := state.outlets.filter fun outlet => outlet.name != name
    inlets := state.inlets.filter fun inlet => inlet.name != name }
  tool do
    let value ← Tool.fold (fun _ outlet => closeOutlet outlet) (.number (-1)) outlets
    Tool.fold (fun _ inlet => closeInlet inlet) value inlets

/-- Runs a command, and yields its status. -/
def runCommand (command : Text) : Running Value := do
  flushAll
  let state ← get
  tool do
    let desk ← get
    let child : Tool Unit := do
      Tool.each (fun descriptor => do
        let _ ← ask (.close descriptor)) state.pipes
      let shell := "/bin/sh".toList
      let refusal ←
        Program.becomeOneOf state.environment [shell, "-c".toList, command] .noEntry [shell]
      complain (Program.startFailure refusal) (shell ++ ": ".toList ++ refusal.message)
      finish 1
    let number ← act (Act.fork (child { desk with output := [], size := 0 } fun _ _ => .exit 0))
    return statusValue (← Program.awaitEnd number)

/-! ### Reading -/

/-- The arguments of the script: a member of the array of them. -/
def argument (n : Nat) : Running (Option Text) := do
  let number ← arrayNumber "ARGV"
  let state ← get
  let array := state.arrays.getD number .empty
  if array.has (.number n) then return some ((array.value (.number n)).toText state.format)
  else return none

/-- Sets a variable as an argument says. -/
def assignArgument (argument : Text) : Running Unit := do
  let name := argument.takeWhile (· != '=')
  setVariable (String.ofList name) (.input (unescaped (argument.drop (name.length + 1))))

/-- The argument sets a variable. -/
def isAssignment (argument : Text) : Bool :=
  let name := argument.takeWhile (· != '=')
  name.length < argument.length && isName name

/-- Opens a file of the main input. -/
def openMain (name : Text) : Running Unit := do
  setVariable "FILENAME" (.text name)
  let source ←
    if name = standardInput ∨ name = "/dev/stdin".toList then pure (Source.ofDescriptor 0)
    else
      match ← tool (openInput name) with
      | .ok descriptor => pure (Source.ofDescriptor descriptor)
      | .error refusal =>
        abort (("cannot open \"" : String) ++ name ++ "\" (" ++ refusal.message ++ ")")
  modify fun state => { state with source := some source, inFile := 0, named := true }

/-- Opens the next file of the main input, if there is one.  The second argument bounds how many
arguments are looked at. -/
def openNext : Nat → Running Bool
  | 0 => return false
  | fuel + 1 => do
    let state ← get
    let count := (Fraction.truncate (state.global "ARGC").toNumber).toNat
    if count ≤ state.operand then
      if state.named then
        set { state with ended := true }
        return false
      else
        openMain standardInput
        return true
    else
      set { state with operand := state.operand + 1 }
      match ← argument state.operand with
      | none => openNext fuel
      | some [] => openNext fuel
      | some argument =>
        if isAssignment argument then
          assignArgument argument
          openNext fuel
        else
          openMain argument
          return true

/-- Closes the present file of the main input. -/
def closeMain : Running Unit := do
  let state ← get
  match state.source with
  | none => return
  | some source =>
    if source.descriptor ≠ 0 then
      let _ ← tool (ask (.close source.descriptor))
    set { state with source := none }

/-- The next record of the main input, if there is one.  The argument bounds how many files are
looked at. -/
def nextMain : Nat → Running (Option Text)
  | 0 => return none
  | fuel + 1 => do
    let state ← get
    if state.ended then return none
    match state.source with
    | none =>
      let bound := (Fraction.truncate (state.global "ARGC").toNumber).toNat + 2
      if ← openNext bound then nextMain fuel else return none
    | some source => do
      let (found, source) ← tool (act (state.divider.next source))
      set { state with source := some source }
      match found with
      | some text => do
        modify fun state =>
          { state with total := state.total + 1, inFile := state.inFile + 1 }
        return some text
      | none => do
        closeMain
        nextMain fuel

/-- The next record of the main input, if there is one. -/
def nextRecord : Running (Option Text) := do
  nextMain (2 * (Fraction.truncate ((← get).global "ARGC").toNumber).toNat + 4)

/-- What is read under a name, if that can be opened. -/
def inletFor (command : Bool) (name : Text) : Running (Option Inlet) := do
  let state ← get
  match state.inlets.find? fun inlet => inlet.command == command && inlet.name == name with
  | some inlet => return some inlet
  | none =>
    if command then
      flushAll
      match ← tool (startCommand state.environment true state.pipes name) with
      | some (descriptor, child) =>
        return some ⟨true, name, Source.ofDescriptor descriptor, some child⟩
      | none => return none
    else if name = standardInput ∨ name = "/dev/stdin".toList then
      return some ⟨false, name, Source.ofDescriptor 0, none⟩
    else
      match ← tool (openInput name) with
      | .ok descriptor => return some ⟨false, name, Source.ofDescriptor descriptor, none⟩
      | .error _ => return none

/-- The next record of a file or a command: none at the end, and nothing at all if it cannot be
opened. -/
def nextOf (command : Bool) (name : Text) : Running (Option (Option Text)) := do
  match ← inletFor command name with
  | none => return none
  | some inlet => do
    let (found, source) ← tool (act ((← get).divider.next inlet.source))
    modify fun state =>
      let others := state.inlets.filter fun other =>
        other.command != command || other.name != name
      { state with inlets := { inlet with source } :: others }
    return some found

/-! ### The end -/

/-- Ends what was begun: the commands that are written to are waited for. -/
def settleAll : Running Unit := do
  let state ← get
  set { state with outlets := [] }
  tool (Tool.each (fun outlet => do
    let _ ← closeOutlet outlet) state.outlets)

end TaskRunner.Records
