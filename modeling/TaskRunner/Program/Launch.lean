import TaskRunner.Program.Input

/-! Programs that start other programs. -/

namespace TaskRunner.Program

open Tool

/-! ### Starting programs -/

/-- The value of a variable in an environment. -/
def valueIn? (environment : List Text) (name : Text) : Option Text :=
  environment.findSome? fun entry =>
    if (name ++ ['=']).isPrefixOf entry then some (entry.drop (name.length + 1)) else none

/-- The paths under which a program is looked for. -/
def pathsOf (environment : List Text) (name : Text) : List Text :=
  if name.contains '/' ∨ name.isEmpty then [name]
  else
    let search := (valueIn? environment "PATH".toList).getD "/bin:/usr/bin".toList
    (search.splitOn ':').map fun directory =>
      if directory.isEmpty then name else directory ++ '/' :: name

/-- Puts the program at the first path that leads to one in place of this one.  If that cannot be,
the reason is yielded. -/
def becomeOneOf (environment arguments : List Text) (refused : Refusal) : List Text → Tool Refusal
  | [] => return refused
  | path :: rest => do
    match ← ask (.execute path arguments environment) with
    | .ok () => return refused
    | .error .notExecutable =>
      let shell := "/bin/sh".toList
      match ← ask (.execute shell (shell :: path :: arguments.drop 1) environment) with
      | .ok () => return refused
      | .error refusal => return refusal
    | .error .denied => becomeOneOf environment arguments .denied rest
    | .error refusal =>
      if refusal = .noEntry ∨ refusal = .notDirectory then
        becomeOneOf environment arguments refused rest
      else return refusal

/-- Puts another program in place of this one.  If that cannot be, the reason is yielded. -/
def become (environment : List Text) (name : Text) (arguments : List Text) : Tool Refusal := do
  flush
  becomeOneOf environment (name :: arguments) .noEntry (pathsOf environment name)

/-- The status for a program that could not be started. -/
def startFailure (refusal : Refusal) : Nat :=
  if refusal = .noEntry then 127 else 126

/-- Starts a process that becomes another program, after it has got ready.  What keeps it from that
is complained about. -/
def launch (environment : List Text) (ready : Tool Unit) (complaint : Text → Refusal → Text)
    (name : Text) (arguments : List Text) : Tool Nat := do
  flush
  let desk ← get
  let child : Tool Unit := do
    ready
    let refusal ← become environment name arguments
    complain (startFailure refusal) (complaint name refusal)
    finish 1
  act (Act.fork (child { desk with output := [], size := 0 } fun _ _ => .exit 0))

/-- Waits for a process to end. -/
def awaitEnd (child : Nat) : Tool ExitStatus :=
  loop (fun _ : Unit => do
    match ← ask (.await (some child) true) with
    | .ok (_, status) => return .inr status
    | .error .interrupted => return .inl ()
    | .error _ => return .inr (.code 127)) (fun _ => pure (.code 127)) ()

/-- The status that tells how a process ended. -/
def statusOf : ExitStatus → Nat
  | .code status => status
  | .signal signal => 128 + signal

/-! ### `env` and `printenv` -/

/-- The environment with a variable set. -/
def withVariable (environment : List Text) (entry : Text) : List Text :=
  let front := entry.takeWhile (· != '=') ++ ['=']
  if environment.any fun other => front.isPrefixOf other then
    environment.map fun other => if front.isPrefixOf other then entry else other
  else environment ++ [entry]

/-- The environment without a variable. -/
def withoutVariable (environment : List Text) (name : Text) : List Text :=
  environment.filter fun other => !(name ++ ['=']).isPrefixOf other

/-- A word that is being read from a string, if one has begun, and what quote it stands in. -/
structure Splitting where
  words : List Text
  word : Option Text
  quote : Option Char

/-- The words of a string. -/
def splitString (environment : List Text) : Nat → Splitting → Text → Except Text (List Text)
  | 0, state, _ => .ok (finishWord state).words.reverse
  | _ + 1, state, [] =>
    match state.quote with
    | some _ => wrong "no terminating quote in -S string"
    | none => .ok (finishWord state).words.reverse
  | fuel + 1, state, c :: cs =>
    let add (text : Text) : Splitting :=
      { state with word := some (text.reverse ++ state.word.getD []) }
    let escaped : List (Char × Char) :=
      [('f', '\x0c'), ('n', '\n'), ('r', '\r'), ('t', '\t'), ('v', '\x0b'), ('#', '#'),
        ('$', '$'), ('\\', '\\'), ('"', '"'), ('\'', '\'')]
    match state.quote, c with
    | some '\'', '\'' => splitString environment fuel { add [] with quote := none } cs
    | some '"', '"' => splitString environment fuel { add [] with quote := none } cs
    | none, '\'' => splitString environment fuel { add [] with quote := some '\'' } cs
    | none, '"' => splitString environment fuel { add [] with quote := some '"' } cs
    | quote, '\\' =>
      match cs with
      | [] => wrong "invalid backslash at end of string in -S"
      | d :: cs =>
        if quote = some '\'' then
          if d = '\\' ∨ d = '\'' then splitString environment fuel (add [d]) cs
          else splitString environment fuel (add ['\\', d]) cs
        else if d = '_' then
          if quote.isSome then splitString environment fuel (add [' ']) cs
          else splitString environment fuel (finishWord state) cs
        else if d = 'c' ∧ quote.isNone then .ok (finishWord state).words.reverse
        else
          match escaped.lookup d with
          | some e => splitString environment fuel (add [e]) cs
          | none => wrong ("invalid sequence '\\" ++ d :: "' in -S".toList)
    | some '\'', c => splitString environment fuel (add [c]) cs
    | _, '$' =>
      match cs with
      | '\x7b' :: rest =>
        let name := rest.takeWhile (· != '\x7d')
        let value := (valueIn? environment name).getD []
        splitString environment fuel (add value) (rest.drop (name.length + 1))
      | _ => wrong ("only $\x7bVARNAME\x7d expansion is supported, error at: $" ++ cs)
    | none, '#' =>
      if state.word.isNone then .ok (finishWord state).words.reverse
      else splitString environment fuel (add ['#']) cs
    | none, c =>
      if isSpaceChar c then splitString environment fuel (finishWord state) cs
      else splitString environment fuel (add [c]) cs
    | _, c => splitString environment fuel (add [c]) cs
where
  /-- The words with the one that has begun. -/
  finishWord (state : Splitting) : Splitting :=
    match state.word with
    | some word => { state with words := word.reverse :: state.words, word := none }
    | none => state

/-- The switches of `env`. -/
def envSwitches : Switches :=
  ⟨"i0v", "uCS", "",
    [("ignore-environment", .nothing, "i"), ("null", .nothing, "0"), ("unset", .value, "u"),
      ("chdir", .value, "C"), ("split-string", .value, "S"), ("debug", .nothing, "v"),
      ("default-signal", .maybe, "signal"), ("ignore-signal", .maybe, "signal"),
      ("block-signal", .maybe, "signal"), ("list-signal-handling", .nothing, "signals")], true⟩

/-- The arguments of `env` with a string in place of its words. -/
def withWords (environment : List Text) (arguments : List Text) : Except Text (List Text) := do
  match arguments with
  | [] => return []
  | argument :: rest =>
    let words (string : Text) : Except Text (List Text) :=
      splitString environment (string.length + 1) ⟨[], none, none⟩ string
    if argument = "-S".toList ∨ argument = "-vS".toList ∨ argument = "--split-string".toList then
      match rest with
      | string :: rest => return (← words string) ++ rest
      | [] => return arguments
    else if "-S".toList.isPrefixOf argument then return (← words (argument.drop 2)) ++ rest
    else if "-vS".toList.isPrefixOf argument then return (← words (argument.drop 3)) ++ rest
    else if "--split-string=".toList.isPrefixOf argument then
      return (← words (argument.drop 15)) ++ rest
    else if argument.head? = some '-' then return argument :: (← withWords environment rest)
    else return arguments

/-- Writes the entries of an environment. -/
def sayEnvironment (mark : Char) (entries : List Text) : Tool Unit :=
  Tool.each (fun entry => say (entry ++ [mark])) entries

/-- The program `env`. -/
def env (call : Call) : Task :=
  match withWords call.environment call.arguments with
  | .error message => task 125 call (fail 125 message)
  | .ok arguments =>
    withOptions 125 125 envSwitches { call with arguments } fun options => do
      let (bare, operands) := match options.operands with
        | ['-'] :: rest => (true, rest)
        | rest => (options.has "i", rest)
      let start := if bare then [] else call.environment
      let wrongName := (options.values "u").find? fun name => name.isEmpty || name.contains '='
      if let some name := wrongName then
        fail 125 ("cannot unset " ++ quoted name ++ ": Invalid argument")
      let start := (options.values "u").foldl withoutVariable start
      let settings := operands.takeWhile fun operand => operand.contains '='
      let environment := settings.foldl withVariable start
      match operands.drop settings.length with
      | [] =>
        if options.has "C" then misuse 125 "must specify command with --chdir (-C)".toList
        sayEnvironment (if options.has "0" then '\x00' else '\n') environment
      | name :: arguments =>
        if options.has "0" then misuse 125 "cannot specify --null (-0) with command".toList
        if let some directory := options.value? "C" then
          match ← ask (.setDirectory directory) with
          | .ok () => pure ()
          | .error refusal =>
            fail 125 ("cannot change directory to " ++ quotedName directory ++ ": " ++
              ofString refusal.message)
        let refusal ← become environment name arguments
        let status := startFailure refusal
        warn (quoted name ++ ": " ++ refusal.message)
        if status = 127 ∧ name.any isSpaceChar then
          warn "use -[v]S to pass options in shebang lines".toList
        setStatus status

/-- The program `printenv`. -/
def printenv (call : Call) : Task :=
  withOptions 2 2 ⟨"0", "", "", [("null", .nothing, "0")], true⟩ call fun options => do
    let mark := if options.has "0" then '\x00' else '\n'
    if options.operands.isEmpty then sayEnvironment mark call.environment
    else
      Tool.each (fun name => do
        match if name.contains '=' then none else valueIn? call.environment name with
        | some value => say (value ++ [mark])
        | none => setStatus 1) options.operands

/-! ### `xargs` -/

/-- An input in which a line that ends with a blank goes on in the next one. -/
def joinedLines : Text → Text
  | [] => []
  | [c] => [c]
  | c :: d :: cs =>
    if isBlankChar c && d == '\n' then c :: joinedLines cs else c :: joinedLines (d :: cs)

/-- The complaint about a quote without its other half. -/
def unmatched {α : Type} (quote : Char) : Except Text α :=
  wrong ("unmatched " ++ (if quote = '"' then "double" else "single") ++
    " quote; by default quotes are special to xargs unless you use the -0 option")

/-- The words of an input: blanks and line feeds end them, and quotes keep them together.  Lines are
told apart.  The state holds the words of the line with the last one in front, and the word that has
begun. -/
def wordsOf : Option Char → Option Text → List Text → Text → Except Text (List (List Text))
  | some quote, _, _, [] => unmatched quote
  | none, word, line, [] =>
    let line := match word with
      | some word => word.reverse :: line
      | none => line
    .ok (if line.isEmpty then [] else [line.reverse])
  | some quote, word, line, c :: cs =>
    if c = quote then wordsOf none (some (word.getD [])) line cs
    else if c = '\n' then unmatched quote
    else wordsOf (some quote) (some (c :: word.getD [])) line cs
  | none, word, line, '\\' :: c :: cs => wordsOf none (some (c :: word.getD [])) line cs
  | none, word, line, c :: cs =>
    let ended := match word with
      | some word => word.reverse :: line
      | none => line
    if c = '\n' then
      if ended.isEmpty then wordsOf none none [] cs
      else (wordsOf none none [] cs).map (ended.reverse :: ·)
    else if isSpaceChar c then wordsOf none none ended cs
    else if c = '"' ∨ c = '\'' then wordsOf (some c) (some (word.getD [])) line cs
    else wordsOf none (some (c :: word.getD [])) line cs

/-- The switches of `xargs`. -/
def xargsSwitches : Switches :=
  ⟨"0oprtx", "adEILnPs", "eil",
    [("null", .nothing, "0"), ("arg-file", .value, "a"), ("delimiter", .value, "d"),
      ("eof", .maybe, "e"), ("replace", .maybe, "i"), ("max-lines", .maybe, "l"),
      ("max-args", .value, "n"), ("max-procs", .value, "P"), ("interactive", .nothing, "p"),
      ("no-run-if-empty", .nothing, "r"), ("max-chars", .value, "s"), ("verbose", .nothing, "t"),
      ("exit", .nothing, "x"), ("open-tty", .nothing, "o")], true⟩

/-- A text with every place where another one stands replaced. -/
def replaceAll (old new : Text) : Nat → Text → Text
  | 0, text => text
  | _ + 1, [] => []
  | fuel + 1, c :: cs =>
    if !old.isEmpty && old.isPrefixOf (c :: cs) then
      new ++ replaceAll old new fuel ((c :: cs).drop old.length)
    else c :: replaceAll old new fuel cs

/-- How many bytes a command line may have. -/
def commandSpace : Nat := 131072

/-- Words in groups of so many and so long as they may be. -/
def groupsOf (most : Option Nat) (space : Nat) (front : Nat) (words : List Text) :
    List (List Text) :=
  let step (state : List (List Text) × List Text × Nat) (word : Text) :
      List (List Text) × List Text × Nat :=
    let (done, group, size) := state
    let longer := size + word.length + 1
    if group.isEmpty ∨ ((most.all fun most => group.length < most) ∧ longer ≤ space) then
      (done, word :: group, longer)
    else (group.reverse :: done, [word], front + word.length + 1)
  let (done, group, _) := words.foldl step ([], [], front)
  (if group.isEmpty then done else group.reverse :: done).reverse

/-- The words of so many rows at a time. -/
def rowGroups (count : Nat) : Nat → List (List Text) → List (List Text)
  | 0, _ => []
  | _ + 1, [] => []
  | fuel + 1, rows => (rows.take count).flatten :: rowGroups count fuel (rows.drop count)

/-- The character that a text after `-d` stands for. -/
def delimiterOf (text : Text) : Char :=
  match text with
  | ['\\', c] =>
    (([('n', '\n'), ('t', '\t'), ('0', '\x00'), ('r', '\r'), ('a', '\x07'), ('\\', '\\')] :
      List (Char × Char)).lookup c).getD c
  | c :: _ => c
  | [] => '\n'

/-- Runs a command with each of some lists of arguments.  A status of 255 or a signal ends this. -/
def runEach (call : Call) (told : Bool) (commands : List (List Text)) : Tool Unit := do
  let ready : Tool Unit := do
    match ← ask (.openFile "/dev/null".toList .input 0) with
    | .ok descriptor =>
      let _ ← ask (.copy descriptor 0)
      let _ ← ask (.close descriptor)
    | .error _ => return
  let run (command : List Text) : Tool Unit := do
    match command with
    | [] => return
    | name :: arguments =>
      if told then writeError (List.intercalate [' '] (command.map shownName) ++ ['\n'])
      let child ← launch call.environment ready
        (fun name refusal => name ++ ": " ++ ofString refusal.message) name arguments
      match ← awaitEnd child with
      | .code 0 => return
      | .code 255 => fail 124 (name ++ ": exited with status 255; aborting")
      | .code 126 => do
        setStatus 126
        finish 1
      | .code 127 => do
        setStatus 127
        finish 1
      | .code _ => setStatus 123
      | .signal signal => fail 125 (name ++ ": terminated by signal " ++ decimal signal)
  Tool.each run commands

/-- The program `xargs`. -/
def xargs (call : Call) : Task :=
  withOptions 1 1 xargsSwitches call fun options => do
    let number (key : String) : Tool (Option Nat) := do
      match options.value? key with
      | none => return none
      | some text =>
        match wholeNumber? text with
        | some n =>
          if n = 0 then
            misuse 1 ("value " ++ text ++ " for -" ++ ofString key ++ " option should be >= 1")
          else return some n
        | none =>
          misuse 1 ("invalid number \"" ++ text ++ "\" for -" ++ ofString key ++ " option")
    let most ← number "n"
    let lines ← number "L"
    let space := ((← number "s").getD commandSpace)
    let descriptor ← match options.value? "a" with
      | none => pure 0
      | some path =>
        match ← openInput path with
        | .ok descriptor => pure descriptor
        | .error refusal =>
          fail 1 ("Cannot open input file " ++ quotedName path ++ ": " ++
            ofString refusal.message)
    let (input, _) ← act (Act.readAll descriptor)
    let replaced : Option Text := match options.lastOf ["I", "i", "L", "l", "n"] with
      | some "I" => options.value? "I"
      | some "i" => some ((options.value? "i").getD "\x7b\x7d".toList)
      | _ => none
    let delimiter : Option Char :=
      if options.has "0" then some '\x00' else (options.value? "d").map delimiterOf
    let command := if options.operands.isEmpty then ["echo".toList] else options.operands
    let rows : List (List Text) ←
      match delimiter with
      | some mark =>
        pure ((linesOf mark (input.length + 1) input).map fun line => [line.text])
      | none =>
        if replaced.isSome then
          let lines := (linesOf '\n' (input.length + 1) input).map fun line =>
            line.text.dropWhile isBlankChar
          let lines := lines.filter (!·.isEmpty)
          pure (lines.map fun line =>
            match wordsOf none none [] line with
            | .ok rows => [List.intercalate [' '] (if line.any (· == '\\') ∨ line.any (· == '"') ∨
                line.any (· == '\'') then rows.flatten else [line])]
            | .error _ => [line])
        else
          match wordsOf none none [] (if lines.isSome then joinedLines input else input) with
          | .ok rows => pure rows
          | .error message => fail 1 message
    let rows := match options.value? "E" with
      | some ending => if ending.isEmpty then rows else untilWord ending rows
      | none => rows
    let fullLength (words : List Text) : Nat :=
      words.foldl (fun total word => total + word.length + 1) 0
    let commands : List (List Text) := match replaced with
      | some mark =>
        rows.flatten.map fun word =>
          command.map fun part => replaceAll mark word (part.length + 1) part
      | none =>
        let groups : List (List Text) := match lines with
          | some count => rowGroups count rows.length rows
          | none => groupsOf most space (fullLength command) rows.flatten
        if groups.isEmpty then (if options.has "r" then [] else [command])
        else groups.map fun group => command ++ group
    runEach call (options.has "t") commands
where
  /-- The rows before a word. -/
  untilWord (ending : Text) (rows : List (List Text)) : List (List Text) :=
    let before := rows.takeWhile fun row => !row.contains ending
    match rows.drop before.length with
    | row :: _ => before ++ [row.takeWhile (· ≠ ending)]
    | [] => before

/-! ### Programs that change how others run -/

/-- The time, in millionths of a second, that a number with a unit behind it means. -/
def interval? (text : Text) : Option Nat := do
  let units : List (Text × Nat) :=
    [([], 1000000), (['s'], 1000000), (['m'], 60000000), (['h'], 3600000000),
      (['d'], 86400000000)]
  let whole := text.takeWhile Char.isDigit
  let rest := text.drop whole.length
  let fraction := match rest with
    | '.' :: more => more.takeWhile Char.isDigit
    | _ => []
  let rest := if rest.head? = some '.' then rest.drop (fraction.length + 1) else rest
  if whole.isEmpty ∧ fraction.isEmpty then
    if text = "infinity".toList ∨ text = "inf".toList then some 1000000000000000 else none
  else
    let unit ← units.lookup rest
    return digitsValue whole * unit +
      (digitsValue fraction * unit + Nat.pow 10 fraction.length - 1) / Nat.pow 10 fraction.length

/-- The program `sleep`. -/
def sleep (call : Call) : Task :=
  withOptions 1 1 (.letters "" "") call fun options => do
    if options.operands.isEmpty then misuse 1 "missing operand".toList
    let spans ← Tool.fold (fun spans text => do
      match interval? text with
      | some span => return some span :: spans
      | none =>
        warn ("invalid time interval " ++ quoted text)
        return none :: spans) [] options.operands
    if spans.any (·.isNone) then
      let name := (← get).name
      writeError ("Try '" ++ name ++ " --help' for more information.\n")
      setStatus 1
    else
      let _ ← ask (.sleep (spans.foldl (fun total span => total + span.getD 0) 0))

/-- The signal that a text names. -/
def namedSignal? (text : Text) : Option Nat :=
  match wholeNumber? text with
  | some n => if n ≤ Signal.last then some n else none
  | none =>
    let name := text.map Char.toUpper
    let name := if "SIG".toList.isPrefixOf name then name.drop 3 else name
    Signal.ofName? (String.ofList name)

/-- How often, in millionths of a second, is looked whether a program has ended. -/
def lookSpan : Nat := 2000

/-- The switches of `timeout`. -/
def timeoutSwitches : Switches :=
  ⟨"fpv", "ks", "",
    [("kill-after", .value, "k"), ("signal", .value, "s"), ("preserve-status", .nothing, "p"),
      ("foreground", .nothing, "f"), ("verbose", .nothing, "v")], true⟩

/-- Waits for a process until it ends or a span is over. -/
def awaitSpan (child span : Nat) : Tool (Option ExitStatus) := do
  let now : Tool Nat := do
    match ← ask .clock with
    | .ok now => return now
    | .error _ => return 0
  let start ← now
  loop (fun _ : Unit => do
    match ← ask (.await (some child) false) with
    | .ok (_, status) => return .inr (some status)
    | .error _ =>
      let passed := (← now) - start
      if span ≤ passed then return .inr none
      let _ ← ask (.sleep (min lookSpan (span - passed)))
      return .inl ()) (fun _ => pure none) ()

/-- What is said of a command that could not be run. -/
def notRun : String := "failed to run command "

/-- Ends by a signal. -/
def endBy (signal : Nat) : Tool Unit := do
  flush
  let _ ← ask (.signal 0 signal)

/-- The program `timeout`. -/
def timeout (call : Call) : Task :=
  withOptions 125 125 timeoutSwitches call fun options => do
    let signal ← match options.value? "s" with
      | none => pure Signal.terminate
      | some text =>
        match namedSignal? text with
        | some signal => pure signal
        | none => misuse 125 (quoted text ++ ": invalid signal")
    let span (text : Text) : Tool Nat := do
      match interval? text with
      | some span => return span
      | none => misuse 125 ("invalid time interval " ++ quoted text)
    let after ← match options.value? "k" with
      | some text => pure (some (← span text))
      | none => pure none
    match options.operands with
    | text :: name :: arguments =>
      let span ← span text
      let child ← launch call.environment (pure ())
        (fun name refusal => ofString notRun ++ quoted name ++ ": " ++
          ofString refusal.message) name arguments
      let ended ← if span = 0 then some <$> awaitEnd child else awaitSpan child span
      match ended with
      | some (.signal signal) => do
        setStatus (128 + signal)
        endBy signal
      | some (.code status) => setStatus status
      | none =>
        if options.has "v" then
          let shown := (Signal.name? signal).getD (toString signal)
          warn ("sending signal " ++ ofString shown ++ " to command " ++ quoted name)
        let _ ← ask (.signal child signal)
        let _ ← ask (.signal child Signal.resume)
        if signal = Signal.kill then endBy signal
        let status ← match after with
          | none => awaitEnd child
          | some span =>
            match ← awaitSpan child span with
            | some status => pure status
            | none =>
              let _ ← ask (.signal child Signal.kill)
              endBy Signal.kill
              awaitEnd child
        if options.has "p" then setStatus (statusOf status)
        else setStatus 124
    | _ => do
      let name := (← get).name
      writeError ("Try '" ++ name ++ " --help' for more information.\n")
      setStatus 125

/-- Becomes the program that the operands name.  What is said if there is none, or if it cannot be
started, differs. -/
def becomeOperands (call : Call) (failure : Nat) (missing front : String) (operands : List Text) :
    Tool Unit := do
  match operands with
  | [] => misuse failure missing.toList
  | name :: arguments =>
    let refusal ← become call.environment name arguments
    complain (startFailure refusal)
      (ofString front ++ quoted name ++ ": " ++ ofString refusal.message)

/-- The program `nohup`. -/
def nohup (call : Call) : Task :=
  withOptions 125 125 ⟨"", "", "", [], true⟩ call fun options => do
    let _ ← ask (.respond 1 .ignores)
    becomeOperands call 125 "missing operand" notRun options.operands

/-- The program `nice`. -/
def nice (call : Call) : Task :=
  withOptions 125 125 ⟨"", "n", "", [("adjustment", .value, "n")], true⟩ call fun options => do
    if options.operands.isEmpty ∧ ¬ options.has "n" then sayLine ['0']
    else becomeOperands call 125 "a command must be given with an adjustment" "" options.operands

/-- The program `stdbuf`. -/
def stdbuf (call : Call) : Task :=
  withOptions 125 125 ⟨"", "ioe", "",
    [("input", .value, "i"), ("output", .value, "o"), ("error", .value, "e")], true⟩ call
    fun options => becomeOperands call 125 "missing operand" notRun options.operands

/-- The program `setsid`. -/
def setsid (call : Call) : Task :=
  withOptions 1 1 ⟨"cfw", "", "", [("wait", .nothing, "w"), ("fork", .nothing, "f")], true⟩ call
    fun options => do
      if options.has "c" ∧ ¬ options.operands.isEmpty then
        fail 1 "failed to set the controlling terminal: Inappropriate ioctl for device"
      becomeOperands call 1 "no command specified" "failed to execute " options.operands

end TaskRunner.Program
