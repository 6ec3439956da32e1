import TaskRunner.Shell.Command.Variable
import TaskRunner.Shell.Condition
import TaskRunner.Shell.Format

/-! The commands of the shell that write, and those that decide conditions. -/

namespace TaskRunner.Shell

open Exec

/-- Writes its arguments. -/
def sayArguments : Own := fun arguments => do
  say (match (← get).dialect with
    | .plain => echoText arguments
    | .rich => plainEchoText true arguments)
  return 0

/-- What a format comes to with some arguments, now. -/
def formatted (printer : Printer) (format : Text) (arguments : List Text) : Exec Formatted := do
  let now : Int ← match printer, ← ask .clock with
    | .rich, .ok instant => pure (instant : Int)
    | _, _ => pure 0
  return printfText printer now format arguments

/-- Writes its arguments by a format. -/
def printArguments : Own := fun arguments => do
  match (← get).dialect with
  | .plain =>
    match ← withoutOptions arguments with
    | [] => fail "usage: printf format [arg ...]"
    | format :: arguments =>
      let written ← formatted .plain format arguments
      for complaint in written.complaints do
        complain complaint
      say written.output
      if written.status = Printer.refusal .plain then
        let _ ← flush
      return written.status
  | .rich =>
    let (options, operands) ← leadingOptions "v:" arguments
    match operands with
    | [] => failUsage []
    | format :: arguments =>
      match options.lookup 'v' with
      | some name => if ¬ isName (name.takeWhile (· != '[')) then failName name
      | none => pure ()
      let written ← formatted .rich format arguments
      for part in written.parts.reverse do
        match part, options.lookup 'v' with
        | .output text, none => say text
        | .output _, some _ => pure ()
        | .complaint text, _ => complain text
      match options.lookup 'v' with
      | some name =>
        if name.contains '[' then
          let key := ((name.dropWhile (· != '[')).drop 1).dropLast
          assignIndexed (toOrdinary (name.takeWhile (· != '['))) key written.output
        else assignVariable (toOrdinary name) written.output
      | none => pure ()
      return written.status

/-- Operands in which the questions about variables and options of the shell are answered: each is
put in the form of a text that is empty or not.  A question stands where one operand is asked about.
-/
def answered (state : State) : Bool → List Text → List Text
  | true, ['-', 'v'] :: name :: rest =>
    let isSet := match state.parameterAt name with
      | some _ => true
      | none => false
    "-n".toList :: (if isSet then ['x'] else []) :: answered state false rest
  | true, ['-', 'o'] :: name :: rest =>
    let isOn := state.dialect.options.any fun entry =>
      entry.1 == toOrdinary name && state.hasOption entry
    "-n".toList :: (if isOn then ['x'] else []) :: answered state false rest
  | asks, operand :: rest =>
    let opens := operand = ['!'] ∨ operand = ['('] ∨ operand = ['-', 'a'] ∨ operand = ['-', 'o']
    operand :: answered state (opens && (asks || operand.length == 2)) rest
  | _, [] => []

/-- Decides a condition. -/
def decideCondition (bracketed : Bool) : Own := fun arguments => do
  let rich := (← get).dialect == .rich
  let refused (complaint : Text) : Exec Nat := do
    complain complaint
    return 2
  if bracketed ∧ arguments.getLast? ≠ some [']'] then
    refused (if rich then "missing \x60]'" else "missing ]")
  else
    let operands := if bracketed then arguments.dropLast else arguments
    let state ← get
    let operands := if rich ∧ 1 < operands.length then answered state true operands else operands
    match ← act (testCondition (if rich then .rich else .plain) operands).run with
    | .ok true => return 0
    | .ok false => return 1
    | .error complaint => refused complaint

end TaskRunner.Shell
