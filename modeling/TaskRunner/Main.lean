import TaskRunner.CommandLine
import TaskRunner.Machine.Change

/-! The program.  It takes the files of the directory that it is started in into a machine, does
there what its arguments ask for, and writes back what has changed. -/

namespace TaskRunner

/-- How many directories below the first one are taken in. -/
def directoryDepth : Nat := 16

/-- How deep a walk over statements may go. -/
def walkDepth : Nat := 100000

/-- The variables that scripts see as the program does. -/
def inheritedVariables : List String := ["PATH", "HOME", "USER", "LANG"]

/-- Takes in an entry of a directory, to which `base` leads, and all that is below it.  What cannot
be read is left out. -/
def takeIn : Nat → String → Machine → IO.FS.DirEntry → IO Machine
  | depth, base, machine, entry => do
    let path := base ++ entry.fileName
    try
      match (← entry.path.metadata).type, depth with
      | .file, _ =>
        let content ← IO.FS.readBinFile entry.path
        return machine.withEntry path content.toList
      | .dir, depth + 1 =>
        let entries ← entry.path.readDir
        entries.foldlM (takeIn depth (path ++ "/")) (machine.withEntry (path ++ "/") [])
      | _, _ => return machine
    catch _ => return machine

/-- The machine that begins in the directory of the program. -/
def inheritedMachine : IO Machine := do
  let machine ← inheritedVariables.foldlM (fun machine name => do
    match ← IO.getEnv name with
    | some value => return machine.withVariable name value
    | none => return machine) Machine.empty
  let entries ← (← IO.currentDir).readDir
  entries.foldlM (takeIn directoryDepth "") machine

/-- Makes a change to the directory of the program. -/
def Change.apply : Change → IO Unit
  | .deleteFile path => IO.FS.removeFile (toOrdinary path)
  | .deleteDirectory path => IO.FS.removeDir (toOrdinary path)
  | .makeDirectory path => IO.FS.createDirAll (toOrdinary path)
  | .writeFile path content => IO.FS.writeBinFile (toOrdinary path) content

/-- Runs the program and yields its exit code. -/
def runProgram (arguments : List String) : IO UInt32 := do
  let machine ← inheritedMachine
  match CommandLine.run Machine.host walkDepth arguments (← IO.getEnv "DEBUG") machine with
  | none =>
    IO.eprintln "the statements nest too deep"
    return 1
  | some report =>
    (Change.between machine.entries report.world.entries).forM Change.apply
    (← IO.getStdout).write ⟨report.stdout.toArray⟩
    (← IO.getStderr).write ⟨report.stderr.toArray⟩
    return report.code.toUInt32

end TaskRunner

/-- Runs the program. -/
def main (arguments : List String) : IO UInt32 :=
  TaskRunner.runProgram arguments
