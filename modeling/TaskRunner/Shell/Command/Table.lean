import TaskRunner.Shell.Command.Input
import TaskRunner.Shell.Command.Name
import TaskRunner.Shell.Command.Place
import TaskRunner.Shell.Command.Print
import TaskRunner.Shell.Command.Work

/-! The commands of the shell that carry out no other command, by name. -/

namespace TaskRunner.Shell

open Exec

/-- Ends the shell. -/
def leaveShell : Own := fun arguments => do
  let state ← get
  let (status, _) ← statusArgument arguments (state.beforeTrap.getD state.status)
  setStatus status
  throw .exit

/-- Leaves the function or file that is being carried out. -/
def leaveFunction : Own := fun arguments => do
  let state ← get
  if state.dialect = .rich ∧ state.calls.isEmpty then
    failWith 2 "can only \x60return' from a function or sourced script"
  let (status, _) ← statusArgument arguments state.status
  setStatus status
  throw (.leaveFunction (!arguments.isEmpty))

/-- Leaves loops or goes on to their next turn.  Outside of loops this does nothing. -/
def leaveLoops (interrupt : Nat → Interrupt) : Own := fun arguments => do
  let state ← get
  match state.dialect with
  | .plain =>
    let count ← firstCount arguments 1
    if count = 0 then failNumber (arguments.headD [])
    else if state.loops = 0 then return 0
    else
      setStatus 0
      throw (interrupt (min count state.loops))
  | .rich =>
    let argument := arguments.headD ['1']
    if state.loops = 0 then
      complain "only meaningful in a \x60for', \x60while', or \x60until' loop"
      return 0
    else if 1 < arguments.length then failMany
    else
      match decimalValue argument with
      | none =>
        complain (argument ++ ": numeric argument required")
        setStatus 128
        throw .exit
      | some n =>
        if n ≤ 0 then
          complain (argument ++ ": loop count out of range")
          setStatus 1
          throw (.leaveLoop state.loops)
        else
          setStatus 0
          throw (interrupt (min n.toNat state.loops))

/-- The settings that the richer shell knows. -/
def knownSettings : List String :=
  ["autocd", "assoc_expand_once", "cdable_vars", "cdspell", "checkhash", "checkjobs",
    "checkwinsize", "cmdhist", "compat31", "compat32", "compat40", "compat41", "compat42",
    "compat43", "compat44", "complete_fullquote", "direxpand", "dirspell", "dotglob", "execfail",
    "expand_aliases", "extdebug", "extglob", "extquote", "failglob", "force_fignore",
    "globasciiranges", "globskipdots", "globstar", "gnu_errfmt", "histappend", "histreedit",
    "histverify", "hostcomplete", "huponexit", "inherit_errexit", "interactive_comments",
    "lastpipe", "lithist", "localvar_inherit", "localvar_unset", "login_shell", "mailwarn",
    "no_empty_cmd_completion", "nocaseglob", "nocasematch", "noexpand_translation", "nullglob",
    "patsub_replacement", "progcomp", "progcomp_alias", "promptvars", "restricted_shell",
    "shift_verbose", "sourcepath", "varredir_close", "xpg_echo"]

/-- Changes settings of the richer shell, or asks whether they are set. -/
def changeSettings : Own := fun arguments => do
  let (letters, names) ← leadingLetters "suqpo" arguments
  let changes := letters.contains 's' ∨ letters.contains 'u'
  let on := letters.contains 's'
  let inOptions := letters.contains 'o'
  let mut status := 0
  let shown := if names.isEmpty ∧ ¬ inOptions then knownSettings.map ofString else names
  for name in shown do
    let key := toOrdinary name
    let state ← get
    let option := state.dialect.options.find? fun entry => entry.1 == key
    let isOn : Bool := match inOptions, option with
      | true, some entry => state.hasOption entry
      | _, _ => state.settings.contains key
    if ¬ (if inOptions then option.isSome else knownSettings.contains key) then
      complain (name ++ ": invalid " ++ (if inOptions then "option" else "shell option") ++ " name")
      status := 1
    else if changes ∧ ¬ names.isEmpty then
      if inOptions then setNamed on name
      else set { state with settings := withMember on key state.settings }
    else
      if ¬ isOn ∧ ¬ names.isEmpty then status := 1
      if changes ∧ isOn ≠ on then pure ()
      else if letters.contains 'p' then
        say ((if inOptions then "set " else "shopt ") ++
          (if inOptions then (if isOn then "-o " else "+o ") else if isOn then "-s " else "-u ") ++
          name ++ "\n")
      else if ¬ letters.contains 'q' then
        say (padRight 15 name ++ '\t' :: (if isOn then "on\n" else "off\n"))
  return if names.isEmpty then 0 else status

/-- Reckons with its arguments. -/
def reckonArguments : Own := fun arguments => do
  if arguments.isEmpty then failWith 1 "expression expected"
  let mut last : Int := 0
  for argument in arguments do
    last ← reckonNumber argument
  return if last = 0 then 1 else 0

/-- Forgets jobs. -/
def forgetJobs : Own := fun arguments => do
  let (letters, names) ← leadingLetters "har" arguments
  if letters.contains 'a' ∨ names.isEmpty then
    modify fun state => { state with jobs := if letters.contains 'a' then [] else state.jobs.tail }
    return 0
  else
    for name in names do
      let job ← knownJob 1 name
      modify fun state =>
        { state with jobs := state.jobs.filter fun other => other.slot != job.slot }
    return 0

/-- Words of a list that begin with a prefix. -/
def completeWords : Own := fun arguments => do
  let (options, words) ← leadingOptions "abcdefgjksuvo:A:G:W:F:C:X:P:S:" arguments
  let front := words.headD []
  match options.lookup 'W' with
  | none => return 1
  | some list =>
    let spaced := list.map fun c => if c = '\t' ∨ c = '\n' then ' ' else c
    let found := (spaced.splitOn ' ').filter fun word => !word.isEmpty && front.isPrefixOf word
    for word in found do
      say (word ++ ['\n'])
    return if found.isEmpty then 1 else 0

/-- What a shell without a reader at a terminal does about its history. -/
def passOver : Own := fun _ => return 0

/-- The commands that both shells have. -/
def commonOwn? (name : String) : Option Own :=
  match name with
  | ":" => some fun _ => return 0
  | "true" => some fun _ => return 0
  | "false" => some fun _ => return 1
  | "echo" => some sayArguments
  | "printf" => some printArguments
  | "test" => some (decideCondition false)
  | "[" => some (decideCondition true)
  | "exit" => some leaveShell
  | "return" => some leaveFunction
  | "break" => some (leaveLoops .leaveLoop)
  | "continue" => some (leaveLoops .nextTurn)
  | "export" => some (declareMarked "export" Variable.exported State.export)
  | "readonly" => some (declareMarked "readonly" Variable.fixed State.fix)
  | "local" => some declareLocal
  | "unset" => some unsetNames
  | "set" => some setOptions
  | "shift" => some shiftArguments
  | "read" => some readVariables
  | "getopts" => some nextOption
  | "cd" => some changeDirectory
  | "pwd" => some sayDirectory
  | "umask" => some changeMask
  | "ulimit" => some sayLimits
  | "times" => some sayTimes
  | "alias" => some setAliases
  | "unalias" => some unsetAliases
  | "type" => some describeNames
  | "hash" => some rememberPrograms
  | "jobs" => some sayJobs
  | "fg" => some moveJob
  | "bg" => some moveJob
  | "wait" => some awaitJobs
  | "kill" => some sendSignal
  | "trap" => some setTraps
  | _ => none

/-- A command of a shell that carries out no other command. -/
def own? (dialect : Dialect) (name : String) : Option Own :=
  match dialect, name with
  | .plain, "chdir" => some changeDirectory
  | .rich, "local" => some declareInside
  | .rich, "declare" => some declareVariables
  | .rich, "typeset" => some declareVariables
  | .rich, "let" => some reckonArguments
  | .rich, "shopt" => some changeSettings
  | .rich, "mapfile" => some readLines
  | .rich, "readarray" => some readLines
  | .rich, "disown" => some forgetJobs
  | .rich, "pushd" => some enterDirectory
  | .rich, "popd" => some leaveDirectory
  | .rich, "dirs" => some sayDirectories
  | .rich, "compgen" => some completeWords
  | .rich, "complete" => some passOver
  | .rich, "compopt" => some passOver
  | .rich, "history" => some passOver
  | .rich, "fc" => some passOver
  | _, name => commonOwn? name

end TaskRunner.Shell
