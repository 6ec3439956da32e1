import TaskRunner.Snippet.Run

/-! The program `python3`, which runs snippets. -/

namespace TaskRunner.Program

open Tool Snippet

/-- What the arguments of `python3` ask for. -/
inductive SnippetCall where
  | text (text : Text) (arguments : List Text)
  | file (path : Text) (arguments : List Text)
  | input (arguments : List Text)
  | version
  | incomplete (letter : Char)
  | unknown (option : Text)
deriving DecidableEq, Repr

/-- Reads the arguments of `python3`. -/
def snippetCall : List Text → SnippetCall
  | [] => .input [[]]
  | argument :: rest =>
    match argument with
    | ['-'] => .input (['-'] :: rest)
    | ['-', 'c'] =>
      match rest with
      | [] => .incomplete 'c'
      | text :: rest => .text text (['-', 'c'] :: rest)
    | '-' :: 'c' :: text => .text text (['-', 'c'] :: rest)
    | ['-', 'V'] => .version
    | ['-', '-'] =>
      match rest with
      | [] => .input [[]]
      | path :: rest => .file path (path :: rest)
    | '-' :: '-' :: name =>
      if name = "version".toList then .version else .unknown ("unknown option " ++ argument)
    | ['-', letter] =>
      if ['B', 'E', 'I', 'O', 'S', 's', 'u'].contains letter then snippetCall rest
      else .unknown ("Unknown option: -".toList ++ [letter])
    | '-' :: letter :: _ => .unknown ("Unknown option: -".toList ++ [letter])
    | path => .file path (path :: rest)

/-- The environment of a process as the entries of a dictionary. -/
def environmentEntries (environment : List Text) : List (Value × Value) :=
  environment.filterMap fun entry =>
    let name := entry.takeWhile (· != '=')
    if name.length < entry.length then
      some (.text (toOrdinary name), .text (toOrdinary (entry.drop (name.length + 1))))
    else none

/-- The state in which a snippet begins: the environment and the arguments are its first objects. -/
def snippetState (environment : List Text) (file : String) (arguments : List Text) :
    Snippet.State where
  environment := environment
  heap :=
    #[.dict (environmentEntries environment),
      .list (arguments.map fun text => Value.text (toOrdinary text)).toArray]
  scopes := #[⟨[], none, []⟩]
  scope := 0
  trace := [⟨file, 0, "<module>"⟩]
  arguments := arguments
  input := Source.ofDescriptor 0
  handled := none

/-- Runs the snippet that a text holds, which stands in a file with some name. -/
def runSnippet (call : Call) (file : String) (arguments : List Text) (text : Text) : Tool Unit := do
  let source := toOrdinary text
  match statementsOf source.toList with
  | .error fault => do
    writeError (ofString (fault.text file source))
    setStatus 1
  | .ok statements => do
    let (outcome, _) ← (runStatements statements).run (snippetState call.environment file arguments)
    match outcome with
    | .ok status => setStatus status
    | .error _ => setStatus 1

/-- A text of lines without the end of the last one. -/
def withoutLastEnd (text : Text) : Text :=
  if text.getLast? = some '\n' then text.dropLast else text

/-- Ends the program with a message about how it was called. -/
def snippetMisuse (message : Text) : Tool Unit := do
  let name := (← get).name
  writeError (message ++ "\nusage: " ++ name ++
    " [option] ... [-c cmd | -m mod | file | -] [arg] ...\n" ++
    "Try \x60python -h' for more information.\n")
  setStatus 2

/-- Runs the snippet in a file. -/
def runSnippetFile (call : Call) (path : Text) (arguments : List Text) : Tool Unit := do
  let whole : Text ← match ← ask .directory with
    | .ok here => pure (if path.head? = some '/' then path else here ++ '/' :: path)
    | .error _ => pure path
  match ← openInput path with
  | .error refusal => do
    let number := (refusalKind refusal).2
    writeError ((← get).name ++ ": can't open file '" ++ whole ++ "': [Errno " ++
      ofString (toString number) ++ "] " ++ refusal.message ++ "\n")
    setStatus 2
  | .ok descriptor => do
    match ← act (Act.readAll descriptor) with
    | (text, .ok ()) => runSnippet call (toOrdinary whole) arguments (withoutLastEnd text)
    | (_, .error _) => do
      writeError ((← get).name ++ ": can't find '__main__' module in '" ++ whole ++ "'\n")
      setStatus 1

/-- The program `python3`. -/
def python (call : Call) : Task :=
  task 120 call do
    match snippetCall call.arguments with
    | .text text arguments => runSnippet call "<string>" arguments text
    | .file path arguments => runSnippetFile call path arguments
    | .input arguments => do
      let (text, _) ← act (Act.readAll 0)
      runSnippet call "<stdin>" arguments (withoutLastEnd text)
    | .version => say "Python 3.11.10\n"
    | .incomplete letter =>
      snippetMisuse ("Argument expected for the -" ++ [letter] ++ " option")
    | .unknown message => snippetMisuse message

end TaskRunner.Program
