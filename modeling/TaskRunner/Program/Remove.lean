import TaskRunner.Program.Walk

/-! Programs that remove files and directories. -/

namespace TaskRunner.Program

open Tool

/-! ### `rm` -/

/-- The switches of `rm`. -/
def rmSwitches : Switches :=
  ⟨"dfiIrRv", "", "",
    [("dir", .nothing, "d"), ("force", .nothing, "f"), ("interactive", .maybe, "i"),
      ("recursive", .nothing, "r"), ("verbose", .nothing, "v"),
      ("preserve-root", .maybe, "P"), ("no-preserve-root", .nothing, "N"),
      ("one-file-system", .nothing, "x")], false⟩

/-- How `rm` goes about it. -/
structure Removal where
  recursive : Bool
  directories : Bool
  forced : Bool
  asks : Bool
  tells : Bool

/-- Complains about what could not be removed. -/
def cannotRemove (path : Text) (refusal : Refusal) : Tool Unit :=
  complain 1 ("cannot remove " ++ quotedName path ++ ": " ++ ofString refusal.message)

/-- Tells of what was removed, or complains about what could not be. -/
def tellRemoved (removal : Removal) (what : String) (path : Text) (outcome : Except Refusal Unit) :
    Tool Bool := do
  match outcome with
  | .ok () => do
    if removal.tells then sayLine (ofString what ++ quotedName path)
    return true
  | .error refusal => do
    cannotRemove path refusal
    return false

/-- Asks whether to do something to a file if one is asked at all. -/
def mayRemove (removal : Removal) (what : String) (path : Text) : Tool Bool := do
  if ¬ removal.asks then return true
  let question : Text := (← get).name ++ ": " ++ ofString what ++ " " ++ quotedName path ++ "? "
  agrees question

/-- Removes what a path leads to, and says whether it is gone. -/
def removeAt (removal : Removal) : Nat → Text → Tool Bool
  | 0, _ => return false
  | fuel + 1, path => do
    match ← lookAt path false with
    | .error refusal =>
      if removal.forced ∧ refusal ∈ [.noEntry, .notDirectory] then return true
      cannotRemove path refusal
      return false
    | .ok info =>
      if info.kind ≠ .directory then
        if ← mayRemove removal ("remove " ++ kindName info) path then
          tellRemoved removal "removed " path (← ask (.removeFile path))
        else return false
      else if removal.recursive then
        removeBelow fuel path
      else if removal.directories then
        if ← mayRemove removal "remove directory" path then
          tellRemoved removal "removed directory " path (← ask (.removeDirectory path))
        else return false
      else
        cannotRemove path .isDirectory
        return false
where
  /-- Removes a directory with what it holds. -/
  removeBelow (fuel : Nat) (path : Text) : Tool Bool := do
    let names := match ← ask (.list path) with
      | .ok names => names
      | .error _ => []
    if names.isEmpty ∨ (← mayRemove removal "descend into directory" path) then
      let gone ← Tool.fold (fun gone name => do
        let this ← removeAt removal fuel (below path name)
        return gone && this) true names
      if ¬ gone then return false
      if ← mayRemove removal "remove directory" path then
        tellRemoved removal "removed directory " path (← ask (.removeDirectory path))
      else return false
    else return false

/-- Removes what an operand names, unless that is out of the question. -/
def removeOperand (removal : Removal) (keepsRoot : Bool) (path : Text) : Tool Unit := do
  if removal.recursive ∧ isDots path then
    complain 1 ("refusing to remove '.' or '..' directory: skipping " ++ quotedName path)
  else if removal.recursive ∧ keepsRoot ∧ withoutSlashes path = ['/'] then
    complain 1 "it is dangerous to operate recursively on '/'".toList
    warn "use --no-preserve-root to override this failsafe".toList
  else
    let _ ← removeAt removal walkDepth path

/-- The program `rm`. -/
def rm (call : Call) : Task :=
  withOptions 1 1 rmSwitches call fun options => do
    let forced := options.lastOf ["f", "i", "I"] == some "f"
    let recursive := options.has "r" || options.has "R"
    let removal : Removal :=
      ⟨recursive, options.has "d", forced, options.lastOf ["f", "i"] == some "i", options.has "v"⟩
    if options.operands.isEmpty then
      if options.has "f" then return
      missingOperand
    let several := 3 < options.operands.length || recursive
    if options.lastOf ["f", "i", "I"] = some "I" ∧ several then
      let count := decimal options.operands.length ++
        if options.operands.length = 1 then " argument" else " arguments"
      let how : Text := if recursive then " recursively".toList else []
      let name := (← get).name
      if ¬ (← agrees (name ++ ": remove " ++ count ++ how ++ "? ")) then return
    Tool.each (removeOperand removal !(options.has "N")) options.operands

/-- The program `unlink`. -/
def unlink (call : Call) : Task :=
  withOptions 1 1 (.letters "" "") call fun options => do
    match options.operands with
    | [] => missingOperand
    | [path] =>
      match ← ask (.removeFile path) with
      | .ok () => return
      | .error refusal => complain 1 (aboutQuoted "cannot unlink " path refusal)
    | _ :: extra :: _ => extraOperand extra

/-! ### `rmdir` -/

/-- The switches of `rmdir`. -/
def rmdirSwitches : Switches :=
  ⟨"pv", "", "",
    [("parents", .nothing, "p"), ("verbose", .nothing, "v"),
      ("ignore-fail-on-non-empty", .nothing, "ignore")], false⟩

/-- Removes a directory, and those above it on its path if they are wanted too. -/
def removeDirectories (options : Options) (parents : Bool) : Nat → Bool → Text → Tool Unit
  | 0, _, _ => return
  | fuel + 1, first, path => do
    if options.has "v" then
      let name := (← get).name
      sayLine (name ++ ": removing directory, " ++ quotedName path)
    match ← ask (.removeDirectory path) with
    | .error refusal =>
      if refusal = .notEmpty ∧ options.has "ignore" then return
      let what : String := if first then "failed to remove " else "failed to remove directory "
      complain 1 (aboutQuoted what path refusal)
    | .ok () =>
      let path := withoutSlashes path
      if parents ∧ path.contains '/' ∧ directoryOf path ≠ ['/'] then
        removeDirectories options parents fuel false (directoryOf path)

/-- The program `rmdir`. -/
def rmdir (call : Call) : Task :=
  withOptions 1 1 rmdirSwitches call fun options => do
    if options.operands.isEmpty then missingOperand
    Tool.each (removeDirectories options (options.has "p") walkDepth true) options.operands

end TaskRunner.Program
