import TaskRunner.Session
import TaskRunner.Statement.Select
import TaskRunner.Token.Listing

/-! The command line: its arguments, and what the program does with them. -/

namespace TaskRunner.CommandLine

/-- What is to be done with the file. -/
inductive Mode where
  | run
  | tokens
  | format
  | check
deriving DecidableEq, Repr

/-- What the arguments ask for. -/
structure Settings where
  target : Option String
  file : String
  mode : Mode
  debug : Bool
deriving DecidableEq, Repr

/-- The arguments met so far. -/
structure Arguments where
  target : Option String
  file : Option String
  tokens : Bool
  format : Bool
  check : Bool
  debug : Bool
deriving DecidableEq, Repr

/-- What a list of arguments amounts to. -/
inductive Request where
  | settings (settings : Settings)
  | help
  | version
  | rejected
deriving DecidableEq, Repr

/-- The file that is read when none is named. -/
def defaultFile : String := "runny.rny"

/-- The extension that a file must have. -/
def fileExtension : String := "rny"

/-- No arguments at all. -/
def Arguments.none : Arguments := ⟨.none, .none, false, false, false, false⟩

/-- The settings that the arguments amount to.  At most one mode may be asked for. -/
def Arguments.settings (arguments : Arguments) (debug : Bool) : Request :=
  let settings (mode : Mode) : Request :=
    .settings ⟨arguments.target, arguments.file.getD defaultFile, mode, arguments.debug || debug⟩
  match arguments.tokens, arguments.format, arguments.check with
  | false, false, false => settings .run
  | true, false, false => settings .tokens
  | false, true, false => settings .format
  | false, false, true => settings .check
  | _, _, _ => .rejected

/-- The arguments with a target, of which there is only one. -/
def Arguments.addTarget (arguments : Arguments) (target : String) : Option Arguments :=
  if arguments.target.isSome then .none else some { arguments with target }

/-- The arguments with a file, which is named once and not by the empty text. -/
def Arguments.addFile (arguments : Arguments) (file : String) : Option Arguments :=
  if arguments.file.isSome ∨ file = "" then .none else some { arguments with file }

/-- The arguments with an option that has no value, which is given once. -/
def Arguments.addFlag (arguments : Arguments) (flag : String) : Option Arguments :=
  match flag with
  | "--tokens" => if arguments.tokens then .none else some { arguments with tokens := true }
  | "--fmt" => if arguments.format then .none else some { arguments with format := true }
  | "--check" => if arguments.check then .none else some { arguments with check := true }
  | "--debug" => if arguments.debug then .none else some { arguments with debug := true }
  | _ => .none

/-- An argument is an option if a dash begins it and more follows. -/
def isOption (argument : String) : Bool :=
  argument.toList.head? == some '-' && argument != "-"

/-- The value that follows an equals sign, or the whole text. -/
def afterEquals (text : List Char) : String :=
  String.ofList (if text.head? = some '=' then text.tail else text)

/-- The value attached to an option for the file: `-fFILE`, `-f=FILE` or `--file=FILE`. -/
def attachedFile? (argument : String) : Option String :=
  match argument.toList with
  | '-' :: 'f' :: c :: cs => some (afterEquals (c :: cs))
  | cs =>
    if "--file=".toList.isPrefixOf cs then some (String.ofList (cs.drop "--file=".length))
    else .none

/-- A short option that ends the reading: of a cluster only the first letter counts. -/
def endingRequest? (argument : String) : Option Request :=
  if argument = "--version" then some .version
  else if argument = "--help" then some .help
  else
    match argument.toList with
    | '-' :: 'V' :: _ => some .version
    | '-' :: 'h' :: _ => some .help
    | _ => .none

/-- The request of a list of arguments.  The first mistake or the first request to end decides. -/
def read (debug : Bool) : Arguments → List String → Request
  | arguments, [] => arguments.settings debug
  | arguments, argument :: rest =>
    if argument = "--" then
      match rest with
      | [] => arguments.settings debug
      | [target] =>
        match arguments.addTarget target with
        | some arguments => arguments.settings debug
        | .none => .rejected
      | _ => .rejected
    else if argument = "-f" ∨ argument = "--file" then
      match rest with
      | [] => .rejected
      | value :: rest =>
        if isOption value then .rejected
        else
          match arguments.addFile value with
          | some arguments => read debug arguments rest
          | .none => .rejected
    else if isOption argument then
      match endingRequest? argument with
      | some request => request
      | .none =>
        let added := match attachedFile? argument with
          | some file => arguments.addFile file
          | .none => arguments.addFlag argument
        match added with
        | some arguments => read debug arguments rest
        | .none => .rejected
    else
      match arguments.addTarget argument with
      | some arguments => read debug arguments rest
      | .none => .rejected

/-- The texts that turn a switch of the environment off, in lower case. -/
def offWords : List String := ["", "n", "no", "f", "false", "off", "0"]

/-- A switch of the environment is on. -/
def isOn (value : Option String) : Bool :=
  match value with
  | some text => (String.ofList (text.toList.map Char.toLower)) ∉ offWords
  | .none => false

/-- What the program leaves behind: an exit code and its two outputs. -/
structure Report (ω : Type) where
  code : Nat
  stdout : Bytes
  stderr : Bytes
  world : ω

/-- The name and the version of the program. -/
def versionText : String := "runny 0.1.0\n"

/-- What the program says of itself. -/
def helpText : String :=
  "Run targets declared in a runny file

Usage: runny [OPTIONS] [TARGET]

Arguments:
  [TARGET]  Target to run; without one every top-level statement is evaluated

Options:
  -f, --file <FILE>  Source file, must have the .rny extension [default: runny.rny]
      --tokens       Print the token stream and exit
      --fmt          Print the file in canonical form and exit
      --check        Exit non-zero when the file is not in canonical form
      --debug        Dump the token stream when the file fails to parse [env: DEBUG=]
  -h, --help         Print help
  -V, --version      Print version
"

/-- What is said when the arguments are rejected. -/
def usageText : String :=
  "error: invalid arguments

Usage: runny [OPTIONS] [TARGET]

For more information, try '--help'.
"

/-- The listing of tokens, one on a line. -/
def listing (tokens : List Token) : String :=
  String.join (tokens.map fun token => token.listing ++ "\n")

section

variable {ω η : Type}

/-- A report of texts. -/
def report (world : ω) (code : Nat) (stdout stderr : String) : Report ω :=
  ⟨code, utf8 stdout, utf8 stderr, world⟩

/-- Runs the statements of a file, or those that a target needs. -/
def runStatements (host : Host ω η) (fuel : Nat) (settings : Settings) (world : ω)
    (statements : List Statement) : Option (Report ω) :=
  let selected := match settings.target with
    | some target => Statement.select statements target
    | .none => .ok statements
  match selected with
  | .error error => some (report world 1 "" ((Failure.run error).message ++ "\n"))
  | .ok statements =>
    let session := Session.start host settings.file world
    (session.evaluate host fuel statements ⟨[], .none, false⟩).map fun done =>
      match done.result with
      | .ok _ => ⟨0, done.sink.taken, [], done.session.world⟩
      | .error error =>
        ⟨1, done.sink.taken, utf8 ((Failure.run error).message ++ "\n"), done.session.world⟩

/-- What is done with the text of the file. -/
def process (host : Host ω η) (fuel : Nat) (settings : Settings) (world : ω) (source : String) :
    Option (Report ω) :=
  let label := settings.file ++ ": "
  match scan source with
  | .error error => some (report world 1 "" (label ++ (SourceError.scan error).message ++ "\n"))
  | .ok tokens =>
    if settings.mode = .tokens then some (report world 0 (listing tokens) "")
    else
      match parse tokens with
      | .error error =>
        let dump := if settings.debug then listing tokens else ""
        some (report world 1 "" (label ++ (SourceError.parse error).message ++ "\n" ++ dump))
      | .ok statements =>
        match settings.mode with
        | .format => some (report world 0 (format statements) "")
        | .check =>
          if format statements = source then some (report world 0 "" (label ++ "formatted\n"))
          else some (report world 1 "" (label ++ "not formatted\n"))
        | _ => runStatements host fuel settings world statements

/-- What is done with the file that the settings name. -/
def processFile (host : Host ω η) (fuel : Nat) (settings : Settings) (world : ω) :
    Option (Report ω) :=
  let label := settings.file ++ ": "
  if Path.extension? settings.file ≠ some fileExtension then
    some (report world 2 "" (label ++ "expected a .rny file\n"))
  else
    match host.readText settings.file world with
    | .error fault => some (report world 2 "" (label ++ fault.message ++ "\n"))
    | .ok source => process host fuel settings world source

/-- What the program does with its arguments and with the value of the variable `DEBUG`.  Without
enough fuel there is no report. -/
def run (host : Host ω η) (fuel : Nat) (arguments : List String) (debug : Option String)
    (world : ω) : Option (Report ω) :=
  match read (isOn debug) Arguments.none arguments with
  | .version => some (report world 0 versionText "")
  | .help => some (report world 0 helpText "")
  | .rejected => some (report world 2 "" usageText)
  | .settings settings => processFile host fuel settings world

end

end TaskRunner.CommandLine
