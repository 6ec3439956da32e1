import TaskRunner.Shell.Quote
import TaskRunner.Shell.Search
import TaskRunner.Shell.Expand
import TaskRunner.Text.Layout

/-! How the commands of the shell are called, and their options with those of the shell itself. -/

namespace TaskRunner.Shell

open Exec

/-- How commands are called, by name. -/
def usages : List (String × String) :=
  [(".", ". filename [arguments]"),
    ("alias", "alias [-p] [name[=value] ... ]"),
    ("bg", "bg [job_spec ...]"),
    ("break", "break [n]"),
    ("builtin", "builtin [shell-builtin [arg ...]]"),
    ("cd", "cd [-L|[-P [-e]] [-@]] [dir]"),
    ("command", "command [-pVv] command [arg ...]"),
    ("continue", "continue [n]"),
    ("declare", "declare [-aAfFgiIlnrtux] [name[=value] ...] or declare -p [-aAfFilnrtux] " ++
      "[name ...]"),
    ("dirs", "dirs [-clpv] [+N] [-N]"),
    ("disown", "disown [-h] [-ar] [jobspec ... | pid ...]"),
    ("eval", "eval [arg ...]"),
    ("exec", "exec [-cl] [-a name] [command [argument ...]] [redirection ...]"),
    ("exit", "exit [n]"),
    ("export", "export [-fn] [name[=value] ...] or export -p"),
    ("fg", "fg [job_spec]"),
    ("getopts", "getopts optstring name [arg ...]"),
    ("hash", "hash [-lr] [-p pathname] [-dt] [name ...]"),
    ("jobs", "jobs [-lnprs] [jobspec ...] or jobs -x command [args]"),
    ("kill", "kill [-s sigspec | -n signum | -sigspec] pid | jobspec ... or kill -l [sigspec]"),
    ("let", "let arg [arg ...]"),
    ("local", "local [option] name[=value] ..."),
    ("mapfile", "mapfile [-d delim] [-n count] [-O origin] [-s count] [-t] [-u fd] [-C " ++
      "callback] [-c quantum] [array]"),
    ("popd", "popd [-n] [+N | -N]"),
    ("printf", "printf [-v var] format [arguments]"),
    ("pushd", "pushd [-n] [+N | -N | dir]"),
    ("pwd", "pwd [-LP]"),
    ("read", "read [-ers] [-a array] [-d delim] [-i text] [-n nchars] [-N nchars] [-p " ++
      "prompt] [-t timeout] [-u fd] [name ...]"),
    ("readarray", "readarray [-d delim] [-n count] [-O origin] [-s count] [-t] [-u fd] [-C " ++
      "callback] [-c quantum] [array]"),
    ("readonly", "readonly [-aAf] [name[=value] ...] or readonly -p"),
    ("return", "return [n]"),
    ("set", "set [-abefhkmnptuvxBCEHPT] [-o option-name] [--] [-] [arg ...]"),
    ("shift", "shift [n]"),
    ("shopt", "shopt [-pqsu] [-o] [optname ...]"),
    ("source", "source filename [arguments]"),
    ("times", "times"),
    ("trap", "trap [-lp] [[arg] signal_spec ...]"),
    ("type", "type [-afptP] name [name ...]"),
    ("typeset", "typeset [-aAfFgiIlnrtux] name[=value] ... or typeset -p [-aAfFilnrtux] " ++
      "[name ...]"),
    ("ulimit", "ulimit [-SHabcdefiklmnpqrstuvxPRT] [limit]"),
    ("umask", "umask [-p] [-S] [mode]"),
    ("unalias", "unalias [-a] name [name ...]"),
    ("unset", "unset [-f] [-v] [-n] [name ...]"),
    ("wait", "wait [-fn] [-p var] [id ...]")]

/-- Says how the command that is being carried out is called, behind a complaint if there is one,
and gives it up. -/
def failUsage {α : Type} (message : Text) : Exec α := do
  if ¬ message.isEmpty then complain message
  let name := (← get).owner.getD []
  let usage := (usages.lookup (toOrdinary name)).getD ""
  writeError (name ++ ": usage: " ++ ofString usage ++ ['\n'])
  setStatus 2
  throw .failed

/-- Ends the shell because a command has more arguments than it can have. -/
def failMany {α : Type} : Exec α := do
  complain "too many arguments"
  setStatus 1
  throw .exit

/-- A command of the shell: from its arguments to a status. -/
abbrev Own := List Text → Exec Nat

/-- The complaint about an option that there is not. -/
def failOption {α : Type} (sign : Char) (letter : Char) : Exec α := do
  match (← get).dialect with
  | .plain => fail ("Illegal option -" ++ [letter])
  | .rich => failUsage ([sign, letter] ++ ": invalid option")

/-- Whether an option is known, and whether it has a value. -/
def lookUpOption (letter : Char) : Text → Option Bool
  | c :: ':' :: rest => if c = letter then some true else lookUpOption letter rest
  | c :: rest => if c = letter then some false else lookUpOption letter rest
  | [] => none

/-- The options of one argument, with a value that the next one may give, and the arguments left. -/
def clusteredOptions (known : Text) :
    Text → List Text → Exec (List (Char × Text) × List Text)
  | [], rest => return ([], rest)
  | c :: cs, rest => do
    match lookUpOption c known with
    | none => failOption '-' c
    | some false =>
      let (more, rest) ← clusteredOptions known cs rest
      return ((c, []) :: more, rest)
    | some true =>
      match cs, rest with
      | [], value :: rest => return ([(c, value)], rest)
      | [], [] =>
        match (← get).dialect with
        | .plain => fail ("No arg for -" ++ c :: " option".toList)
        | .rich => failUsage (['-', c] ++ ": option requires an argument")
      | value, rest => return ([(c, value)], rest)

/-- The options in front of arguments, with their values, and the other arguments. -/
def leadingOptions (known : String) (arguments : List Text) :
    Exec (List (Char × Text) × List Text) :=
  go (arguments.length + 1) arguments
where
  /-- The options in front of arguments, with a bound on the number of arguments. -/
  go : Nat → List Text → Exec (List (Char × Text) × List Text)
    | 0, arguments => return ([], arguments)
    | fuel + 1, ('-' :: c :: cs) :: rest => do
      if c = '-' ∧ cs.isEmpty then return ([], rest)
      else
        let (first, rest) ← clusteredOptions known.toList (c :: cs) rest
        let (more, rest) ← go fuel rest
        return (first ++ more, rest)
    | _ + 1, arguments => return ([], arguments)

/-- The letters of the options in front of arguments, none of which has a value, and the other
arguments. -/
def leadingLetters (known : String) (arguments : List Text) : Exec (List Char × List Text) := do
  let (options, rest) ← leadingOptions known arguments
  return (options.map Prod.fst, rest)

/-- The arguments of a command that has no options. -/
def withoutOptions (arguments : List Text) : Exec (List Text) := do
  return (← leadingOptions "" arguments).2

/-- The complaint about what should be a number. -/
def failNumber {α : Type} (argument : Text) : Exec α := do
  match (← get).dialect with
  | .plain => fail ("Illegal number: " ++ argument)
  | .rich => failWith 1 (argument ++ ": numeric argument required")

/-- The count that an argument gives, or the end of the command. -/
def countArgument (argument : Text) : Exec Nat :=
  match countValue argument with
  | some n => return n
  | none => failNumber argument

/-- The status that the first argument gives, if there is one, and whether it is a number at all. -/
def statusArgument (arguments : List Text) (otherwise : Nat) : Exec (Nat × Bool) := do
  match (← get).dialect, arguments with
  | _, [] => return (otherwise, true)
  | .plain, argument :: _ => return (← countArgument argument, true)
  | .rich, argument :: others =>
    match decimalValue argument with
    | some n => if others.isEmpty then return ((n % 256).toNat, true) else failMany
    | none =>
      complain (argument ++ ": numeric argument required")
      return (2, false)

/-- The count that the first argument gives, if there is one. -/
def firstCount (arguments : List Text) (otherwise : Nat) : Exec Nat :=
  match arguments with
  | [] => return otherwise
  | argument :: _ => countArgument argument

/-! ### Options of the shell -/

/-- The options of a shell: their names, and their letters if they have one. -/
def shellOptions : List (String × Option Char) :=
  [("errexit", some 'e'), ("noglob", some 'f'), ("ignoreeof", some 'I'), ("interactive", some 'i'),
    ("monitor", some 'm'), ("noexec", some 'n'), ("stdin", some 's'), ("xtrace", some 'x'),
    ("verbose", some 'v'), ("vi", some 'V'), ("emacs", some 'E'), ("noclobber", some 'C'),
    ("allexport", some 'a'), ("notify", some 'b'), ("nounset", some 'u'), ("privileged", some 'p'),
    ("nolog", none), ("debug", none)]

/-- The options of the richer shell. -/
def richOptions : List (String × Option Char) :=
  [("allexport", some 'a'), ("braceexpand", some 'B'), ("emacs", none), ("errexit", some 'e'),
    ("errtrace", some 'E'), ("functrace", some 'T'), ("hashall", some 'h'),
    ("histexpand", some 'H'), ("history", none), ("ignoreeof", none),
    ("interactive-comments", none), ("keyword", some 'k'), ("monitor", some 'm'),
    ("noclobber", some 'C'), ("noexec", some 'n'), ("noglob", some 'f'), ("nolog", none),
    ("notify", some 'b'), ("nounset", some 'u'), ("onecmd", some 't'), ("physical", some 'P'),
    ("pipefail", none), ("posix", none), ("privileged", some 'p'), ("verbose", some 'v'),
    ("vi", none), ("xtrace", some 'x')]

/-- The options of the shells of a language. -/
def Dialect.options : Dialect → List (String × Option Char)
  | .plain => shellOptions
  | .rich => richOptions

/-- A list with or without a member. -/
def withMember {α : Type} [BEq α] (on : Bool) (member : α) (members : List α) : List α :=
  let others := members.filter fun other => !(other == member)
  if on then others ++ [member] else others

/-- The option with a name is set. -/
def State.hasOption (state : State) (entry : String × Option Char) : Bool :=
  match entry.2 with
  | some letter => state.options.contains letter
  | none => state.settings.contains entry.1

/-- Sets an option by its letter, or takes it away. -/
def setLetter (on : Bool) (sign letter : Char) : Exec Unit := do
  let state ← get
  if state.dialect.options.any fun entry => entry.2 = some letter then
    if on ∧ letter = 'm' ∧ state.dialect = .plain then
      complain "can't access tty; job control turned off"
    else set { state with options := withMember on letter state.options }
  else failOption sign letter

/-- Sets an option by its name, or takes it away. -/
def setNamed (on : Bool) (name : Text) : Exec Unit := do
  let state ← get
  let name := toOrdinary name
  match state.dialect.options.find? fun entry => entry.1 == name with
  | some (_, some letter) => setLetter on '-' letter
  | some (_, none) => set { state with settings := withMember on name state.settings }
  | none =>
    match state.dialect with
    | .plain => fail ("Illegal option -o " ++ name : String)
    | .rich => failWith 2 (name ++ ": invalid option name" : String)

/-- Says which options are set, each on a line, for a reader or for the shell. -/
def sayOptions (forReader : Bool) : Exec Unit := do
  let state ← get
  let plain := state.dialect == .plain
  if forReader ∧ plain then say "Current option settings\n"
  for entry in state.dialect.options do
    let isOn := state.hasOption entry
    let line : Text :=
      if forReader then
        let value := if isOn then "on\n" else "off\n"
        if plain then padRight 16 entry.1.toList ++ value
        else padRight 15 entry.1.toList ++ '\t' :: value
      else (if isOn then "set -o " else "set +o ") ++ entry.1 ++ "\n"
    say line

/-- Sets the arguments of the shell. -/
def setArguments (arguments : List Text) : Exec Unit :=
  modify fun state => { state with arguments, place := ⟨1, none⟩ }

/-- Sets options by the letters of an argument.  The letter `o` takes the name of an option from the
arguments that follow, which are yielded. -/
def setLetters (on : Bool) (sign : Char) : Text → List Text → Exec (List Text)
  | [], rest => return rest
  | 'o' :: letters, rest => do
    match rest with
    | [] => sayOptions on
    | name :: _ => setNamed on name
    setLetters on sign letters rest.tail
  | letter :: letters, rest => do
    setLetter on sign letter
    setLetters on sign letters rest

/-- Sets the options in front of arguments, and yields the other arguments if the shell is to get
new ones. -/
def setLeading : Nat → List Text → Exec (Option (List Text))
  | 0, _ => return none
  | _ + 1, [] => return none
  | fuel + 1, argument :: rest => do
    match argument with
    | ['-'] =>
      modify fun state =>
        { state with options := state.options.filter fun c => c != 'x' && c != 'v' }
      return if rest.isEmpty then none else some rest
    | ['-', '-'] => return some rest
    | '-' :: letters => setLeading fuel (← setLetters true '-' letters rest)
    | '+' :: letters => setLeading fuel (← setLetters false '+' letters rest)
    | _ => return some (argument :: rest)

/-- The variables of the shell that have a value, in the order of their names. -/
def State.sorted (state : State) (isMeant : Variable → Bool) : List (String × Variable) :=
  (state.store.filter fun entry => isMeant entry.2).mergeSort fun a b => !decide (b.1 < a.1)

/-- Sets the options and the arguments of the shell, or shows its variables. -/
def setOptions : Own := fun arguments => do
  if arguments.isEmpty then
    let state ← get
    for (name, found) in state.sorted fun found => found.value.isSome do
      let value := (found.value.bind State.textOf).getD []
      let shown := match state.dialect with
        | .plain => singleQuoted value
        | .rich => quotedIfNeeded value
      say (name ++ '=' :: shown ++ ['\n'])
  else
    match ← setLeading (arguments.length + 1) arguments with
    | some arguments => setArguments arguments
    | none => pure ()
  return 0

/-- Takes arguments of the shell away from the front. -/
def shiftArguments : Own := fun arguments => do
  let state ← get
  match state.dialect with
  | .plain =>
    let count ← firstCount arguments 1
    if state.arguments.length < count then fail "can't shift that many"
    setArguments (state.arguments.drop count)
    return 0
  | .rich =>
    if 1 < arguments.length then failMany
    let argument := arguments.headD ['1']
    match decimalValue argument with
    | none => failNumber argument
    | some n =>
      if n < 0 then failWith 1 (argument ++ ": shift count out of range")
      else if (state.arguments.length : Int) < n then return 1
      else
        setArguments (state.arguments.drop n.toNat)
        return 0

end TaskRunner.Shell
