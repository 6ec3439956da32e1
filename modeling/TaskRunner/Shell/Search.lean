import TaskRunner.Shell.Scan
import TaskRunner.Shell.State

/-! Finding what a name stands for, and starting programs. -/

namespace TaskRunner.Shell

open Exec

/-! ### Commands of the shell -/

/-- The commands of the shell that its own course depends on.  A failure of one ends the script, and
assignments before it stay. -/
def specialCommands : List String :=
  [".", ":", "break", "continue", "eval", "exec", "exit", "export", "local", "readonly", "return",
    "set", "shift", "times", "trap", "unset"]

/-- The other commands of the plain shell. -/
def regularCommands : List String :=
  ["[", "alias", "bg", "cd", "chdir", "command", "echo", "false", "fg", "getopts", "hash",
    "jobs", "kill", "printf", "pwd", "read", "test", "true", "type", "ulimit", "umask", "unalias",
    "wait"]

/-- The commands that only the richer shell has. -/
def richCommands : List String :=
  ["builtin", "declare", "let", "mapfile", "pushd", "popd", "dirs", "readarray", "shopt", "source",
    "typeset", "disown", "enable", "help", "history", "suspend", "caller", "compgen", "complete",
    "bind", "logout"]

/-- The commands whose arguments can be assignments. -/
def declaringCommands : List String :=
  ["alias", "export", "local", "readonly", "declare", "typeset"]

/-- A command that its shell carries out itself. -/
def isOwnCommand (dialect : Dialect) (name : String) : Bool :=
  specialCommands.contains name ||
    match dialect with
    | .plain => regularCommands.contains name
    | .rich => (regularCommands.contains name && name != "chdir") || richCommands.contains name

/-- A command that the course of its shell depends on. -/
def isSpecialCommand (dialect : Dialect) (name : String) : Bool :=
  dialect == .plain && specialCommands.contains name

/-! ### Search paths -/

/-- The search path of a shell that has none. -/
def usualPath : Text :=
  "/usr/local/sbin:/usr/local/bin:/usr/sbin:/usr/bin:/sbin:/bin"

/-- The path of something in a directory of a search path. -/
def pathIn (directory name : Text) : Text :=
  if directory.isEmpty then name else directory ++ '/' :: name

/-- The directories of a search path. -/
def directoriesOf (path : Text) : List Text :=
  path.splitOn ':'

/-- The directories along which a shell searches. -/
def State.directories (state : State) : List Text :=
  directoriesOf ((state.valueOf? "PATH").getD [])

/-- The first of some directories where a regular file has a name, by its number.  Up to `known`,
directories with a path from the root are not looked at, and the one with that number holds the
file. -/
def findFrom (name : Text) (known : Option Nat) :
    Nat → Refusal → List Text → Exec (Except Refusal Nat)
  | _, refusal, [] => return .error refusal
  | index, refusal, directory :: rest => do
    let isAbsolute := directory.head? == some '/'
    if isAbsolute ∧ known.any (index < ·) then findFrom name known (index + 1) refusal rest
    else if isAbsolute ∧ known = some index then return .ok index
    else
      match ← ask (.inspect (pathIn directory name) true) with
      | .error .noEntry => findFrom name known (index + 1) refusal rest
      | .error .notDirectory => findFrom name known (index + 1) refusal rest
      | .error other => findFrom name known (index + 1) other rest
      | .ok info =>
        if info.kind = .regular then return .ok index
        else findFrom name known (index + 1) .denied rest

/-- The state with a program found, or not found any more. -/
def State.noteFound (state : State) (name : Text) (index : Option Nat) : State :=
  let isIt (found : Found) : Bool := found.name == name
  { state with
    found := match index with
      | some index =>
        if state.found.any isIt then
          state.found.map fun found => if isIt found then ⟨name, index, false⟩ else found
        else state.found ++ [⟨name, index, false⟩]
      | none => state.found.filter fun found => !isIt found }

/-- Finds a program along the search path of the shell and takes note of it. -/
def findProgram (name : Text) : Exec (Except Refusal Nat) := do
  let state ← get
  match state.found.find? fun found => found.name == name with
  | some ⟨_, index, false⟩ => return .ok index
  | known =>
    let reply ← findFrom name (known.map Found.index) 0 .noEntry state.directories
    modify fun state => state.noteFound name reply.toOption
    return reply

/-! ### Starting programs -/

/-- Why a program cannot be started, as the shell puts it. -/
def startingReason : Refusal → String
  | .noEntry => "not found"
  | .notDirectory => "not found"
  | refusal => refusal.message

/-- The status of a command that cannot be started. -/
def startingStatus : Refusal → Nat
  | .noEntry => 127
  | .notDirectory => 127
  | .linksTooDeep => 127
  | .nameTooLong => 127
  | _ => 126

/-- The path of the shell that runs scripts which name no interpreter. -/
def scriptShell : Dialect → Text
  | .plain => "/bin/sh"
  | .rich => "/bin/bash"

/-- Puts a program in place of the shell, or says why that is not possible. -/
def become (path : Text) (arguments environment : List Text) : Exec Refusal := do
  match ← ask (.execute path arguments environment) with
  | .error .notExecutable =>
    let shell := scriptShell (← get).dialect
    match ← ask (.execute shell (shell :: path :: arguments.tail) environment) with
    | .error refusal => return refusal
    | .ok () => return .notExecutable
  | .error refusal => return refusal
  | .ok () => return .notExecutable

/-- Puts the first program that can be started in place of the shell, or says why there is none. -/
def becomeFirst (arguments environment : List Text) (refusal : Refusal) :
    List Text → Exec Refusal
  | [] => return refusal
  | path :: rest => do
    match ← become path arguments environment with
    | .noEntry => becomeFirst arguments environment refusal rest
    | .notDirectory => becomeFirst arguments environment refusal rest
    | other => becomeFirst arguments environment other rest

/-- What is known of a program that cannot be started: nothing is there, a directory is, or some
other file. -/
inductive Standing where
  | missing
  | directory
  | other
deriving DecidableEq, Repr

/-- The complaint about a program that cannot be started. -/
def startingComplaint (dialect : Dialect) (name : Text) (standing : Standing) (refusal : Refusal) :
    Text :=
  match dialect with
  | .plain => name ++ ": " ++ startingReason refusal
  | .rich =>
    let hasSlash := name.contains '/'
    if refusal = .noEntry ∧ ¬ hasSlash then name ++ ": command not found"
    else if refusal = .denied ∧ standing = .directory then name ++ ": Is a directory"
    else if refusal = .noEntry ∧ standing = .other then
      name ++ ": cannot execute: required file not found"
    else name ++ ": " ++ refusal.message

/-- Puts a program in place of the shell, or says why that is not possible.  The program is searched
for in some directories unless its name says where it is. -/
def attempt (arguments directories : List Text) : Exec Refusal := do
  let environment := (← get).environment
  let name := arguments.headD []
  if name.contains '/' then become name arguments environment
  else becomeFirst arguments environment .noEntry (directories.map fun path => pathIn path name)

/-- What is known of a program that cannot be started. -/
def standingOf (name : Text) : Exec Standing := do
  match ← ask (.inspect name true) with
  | .ok info => return if info.kind = .directory then .directory else .other
  | .error _ => return .missing

/-- Puts a program in place of the shell, or complains that this is not possible and yields the
status for it. -/
def replaceShell (arguments directories : List Text) : Exec Nat := do
  let name := arguments.headD []
  let refusal ← attempt arguments directories
  let standing ← standingOf name
  complain (startingComplaint (← get).dialect name standing refusal)
  return startingStatus refusal

end TaskRunner.Shell
