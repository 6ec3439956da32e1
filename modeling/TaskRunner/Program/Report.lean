import TaskRunner.Records.Run

/-! The program `awk`, which works on records as a script says. -/

namespace TaskRunner.Program

open Tool Records

/-- What the arguments of `awk` ask for: the texts of the script, the settings of variables, the
separator of fields, and the operands. -/
structure ReportCall where
  files : List Text
  settings : List Text
  separator : Option Text
  operands : List Text
deriving DecidableEq, Repr

/-- Why the arguments of `awk` cannot be followed. -/
inductive ReportFault where
  | unknown (option : Text)
  | incomplete (letter : Char)
deriving DecidableEq, Repr

/-- The text shown to a user. -/
def ReportFault.message : ReportFault → Text
  | unknown option => "not an option: " ++ option
  | incomplete letter => "option requires an argument -- ".toList ++ [letter]

/-- Reads the arguments of `awk`.  The first one bounds how many there are. -/
def reportCall : Nat → ReportCall → List Text → Except ReportFault ReportCall
  | 0, call, _ => .ok call
  | _ + 1, call, [] => .ok call
  | fuel + 1, call, argument :: rest =>
    match argument with
    | ['-', '-'] => .ok { call with operands := rest }
    | '-' :: '-' :: _ => .error (.unknown argument)
    | '-' :: letter :: value =>
      if ['f', 'v', 'F', 'W'].contains letter then
        let given : Option (Text × List Text) :=
          if value.isEmpty then rest.head?.map fun next => (next, rest.tail)
          else some (value, rest)
        match given with
        | none => .error (.incomplete letter)
        | some (value, rest) =>
          match letter with
          | 'f' => reportCall fuel { call with files := call.files ++ [value] } rest
          | 'v' => reportCall fuel { call with settings := call.settings ++ [value] } rest
          | 'F' => reportCall fuel { call with separator := some value } rest
          | _ => reportCall fuel call rest
      else .error (.unknown argument)
    | argument => .ok { call with operands := argument :: rest }

/-- The text of the script that files hold. -/
def scriptText : List Text → Tool Text
  | [] => return []
  | name :: rest => do
    match ← (if name = standardInput then pure (.ok 0) else openInput name) with
    | .error refusal => fail 2 ("cannot open \"" ++ name ++ "\" (" ++ refusal.message ++ ")")
    | .ok descriptor => do
      let (text, _) ← act (Act.readAll descriptor)
      return text ++ '\n' :: (← scriptText rest)

/-- The array of some texts under numbers from zero on. -/
def numberedTexts (texts : List Text) : Associations :=
  texts.zipIdx.foldl (fun array entry => array.put (.number entry.2) (.input entry.1)) .empty

/-- The array of the variables of an environment. -/
def environmentArray (environment : List Text) : Associations :=
  environment.foldl (fun array entry =>
    let name := entry.takeWhile (· != '=')
    if name.length < entry.length then
      array.put (.ofText name) (.input (entry.drop (name.length + 1)))
    else array) .empty

/-- The state in which a script begins. -/
def reportState (environment : List Text) (script : Script) (arguments : List Text) :
    Records.State :=
  let texts : List (String × String) :=
    [("FS", " "), ("OFS", " "), ("ORS", "\n"), ("RS", "\n"), ("SUBSEP", "\x1c"),
      ("CONVFMT", "%.6g"), ("OFMT", "%.6g"), ("FILENAME", "")]
  let globals : Std.HashMap String Value :=
    texts.foldl (fun globals entry => globals.insert entry.1 (.text entry.2.toList)) ∅
  { script
    environment
    globals :=
      ((globals.insert "ARGC" (.ofNat arguments.length)).insert "RSTART" (.number 0)).insert
        "RLENGTH" (.number (-1))
    names := ((∅ : Std.HashMap String Nat).insert "ARGV" 0).insert "ENVIRON" 1
    arrays := #[numberedTexts arguments, environmentArray environment]
    locals := []
    record := .ofText []
    splitter := .blanks
    divider := .char '\n'
    total := 0
    inFile := 0
    ranges := Array.replicate script.rules.length false
    matchers := ∅
    outlets := []
    inlets := []
    source := none
    operand := 1
    named := false
    ended := false
    seed := 0
    lastSeed := .number 0 }

/-- Sets the variables that the call asks for. -/
def applySettings (separator : Option Text) : List Text → Running Unit
  | [] => do
    if let some separator := separator then
      setVariable "FS" (.text (unescaped separator))
  | setting :: rest => do
    if ¬ isAssignment setting then
      abort (("improper assignment: -v " : String) ++ setting)
    assignArgument setting
    applySettings separator rest

/-- The first line of what the program says about its use. -/
def awkUsage : String := "Usage: mawk [Options] [Program] [file ...]\n"

/-- The program `awk`. -/
def awk (call : Call) : Task :=
  task 2 call do
    match reportCall (call.arguments.length + 1) ⟨[], [], none, []⟩ call.arguments with
    | .error fault => fail 2 fault.message
    | .ok found => do
      let (text, operands) : Text × List Text ← match found.files, found.operands with
        | [], [] => do
          say awkUsage
          finish 2
        | [], text :: operands => pure (text, operands)
        | files, operands => do
          pure (← scriptText files, operands)
      match Script.ofText text with
      | .error fault => do
        Tool.each warn fault.messages
        setStatus 2
        finish 2
      | .ok script => do
        let state := reportState call.environment script (call.name :: operands)
        let step : Running Unit := do
          applySettings found.separator found.settings
          runScript
        let _ ← step.run state

end TaskRunner.Program
