import TaskRunner.Editor.Read
import TaskRunner.Editor.Run

/-! The program `sed`, which changes lines as a script says. -/

namespace TaskRunner.Program

open Tool Editor

/-- The switches of `sed`. -/
def sedSwitches : Switches :=
  ⟨"bnrEsuz", "efl", "i",
    [("quiet", .nothing, "n"), ("silent", .nothing, "n"), ("debug", .nothing, "debug"),
      ("expression", .value, "e"), ("file", .value, "f"),
      ("follow-symlinks", .nothing, "follow-symlinks"), ("in-place", .maybe, "i"),
      ("line-length", .value, "l"), ("posix", .nothing, "posix"), ("binary", .nothing, "b"),
      ("regexp-extended", .nothing, "E"), ("separate", .nothing, "s"),
      ("sandbox", .nothing, "sandbox"), ("unbuffered", .nothing, "u"),
      ("null-data", .nothing, "z"), ("help", .nothing, "help"),
      ("version", .nothing, "version")], false⟩

/-- The first line of what the program says about its use. -/
def sedUsage : String :=
  "Usage: sed [OPTION]... \x7bscript-only-if-no-other-script\x7d [input-file]...\n\n"

/-- A text without a line feed at its end. -/
def withoutLastFeed (text : Text) : Text :=
  if text.getLast? = some '\n' then text.dropLast else text

/-- The parts of a script that are given by switches. -/
def scriptParts : List (String × Option Text) → Tool (List Part)
  | [] => return []
  | (key, value) :: given => do
    match key, value with
    | "e", some text => return .argument text :: (← scriptParts given)
    | "f", some name => do
      match ← (if name = standardInput then pure (.ok 0) else openInput name) with
      | .error refusal => fail 4 ("couldn't open file " ++ name ++ ": " ++ refusal.message)
      | .ok descriptor => do
        let (text, _) ← act (Act.readAll descriptor)
        return .file name (withoutLastFeed text) :: (← scriptParts given)
    | _, _ => scriptParts given

/-- Opens the files that a script writes to. -/
def openOutFiles : List Outlet → Tool (List OutFile)
  | [] => return []
  | .file name :: outlets => do
    match ← ask (.openFile name .output Disk.plainPermissions) with
    | .error refusal => fail 4 ("couldn't open file " ++ name ++ ": " ++ refusal.message)
    | .ok descriptor => return ⟨.file name, descriptor, false⟩ :: (← openOutFiles outlets)
  | _ :: outlets => openOutFiles outlets

/-- The length of lines that are listed. -/
def listingWidth (text : Option Text) : Nat :=
  match text with
  | some text => (String.ofList text).toNat?.getD 70
  | none => 70

/-- Runs a script over files. -/
def editFiles (environment : List Text) (options : Options) (script : Script)
    (files : List Text) : Tool Unit := do
  let suffix := if options.has "i" then some ((options.value? "i").getD []) else none
  let settings : Settings :=
    { quiet := options.has "n" || script.quiet
      separate := options.has "s" || suffix.isSome
      suffix
      mark := if options.has "z" then '\x00' else '\n'
      width := listingWidth (options.value? "l")
      eager := options.has "u"
      environment }
  if suffix.isSome ∧ files.isEmpty then fail 4 "no input files".toList
  let channels ← openOutFiles script.outlets
  let state : Editor.State :=
    { settings
      script
      files := if files.isEmpty then [standardInput] else files
      source := none
      name := standardInput
      ahead := none
      count := 0
      space := ⟨[], true⟩
      held := ⟨[], true⟩
      replaced := false
      additions := []
      courses := script.courses
      used := none
      owes := false
      channels
      sources := []
      changed := none
      faulty := false }
  let (status, state) ← Editor.work state
  let (status, _) ← (Editor.close status).run state
  setStatus status

/-- The program `sed`. -/
def sed (call : Call) : Task :=
  task 4 call do
    match sedSwitches.read call.arguments with
    | .error message => do
      warn message
      writeError sedUsage
      setStatus 1
    | .ok options => do
      if options.has "help" then
        say sedUsage
        finish 4
      if options.has "version" then
        say "sed (GNU sed) 4.9\n".toList
        finish 4
      let parts ← scriptParts options.given
      let manner : Manner := ⟨options.has "E" || options.has "r", options.has "sandbox"⟩
      let (parts, files) : List Part × List Text ← match parts, options.operands with
        | [], [] => do
          writeError sedUsage
          setStatus 1
          finish 4
        | [], script :: files => pure ([.argument script], files)
        | parts, files => pure (parts, files)
      match Script.ofParts manner parts with
      | .error complaint => fail complaint.status complaint.message
      | .ok script => editFiles call.environment options script files

end TaskRunner.Program
