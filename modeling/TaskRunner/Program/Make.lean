import TaskRunner.Program.Mode
import TaskRunner.Program.Walk

/-! Programs that make directories, pipes and files, and that change what may be done with them. -/

namespace TaskRunner.Program

open Tool

/-- The mask for permissions. -/
def maskNow : Tool Nat := do
  match ← ask .mask with
  | .ok mask => return mask
  | .error _ => return 0

/-- The permissions that a switch asks for, if it is given. -/
def chosenMode (options : Options) (otherwise : Nat) : Tool (Option Nat) := do
  match options.value? "m" with
  | none => return none
  | some text =>
    match ModeRule.ofText? text with
    | some rule => return some (rule.apply false (← maskNow) otherwise)
    | none => fail 1 ("invalid mode " ++ quoted text)

/-! ### `mkdir` -/

/-- The switches of `mkdir`. -/
def mkdirSwitches : Switches :=
  ⟨"pvZ", "m", "",
    [("parents", .nothing, "p"), ("verbose", .nothing, "v"), ("mode", .value, "m"),
      ("context", .maybe, "Z")], false⟩

/-- Says that a directory was made. -/
def tellMade (tells : Bool) (path : Text) : Tool Unit := do
  if tells then
    let name := (← get).name
    sayLine (name ++ ": created directory " ++ quotedName path)

/-- Complains that a directory could not be made. -/
def cannotMake (path : Text) (refusal : Refusal) : Tool Unit :=
  complain 1 (aboutQuoted "cannot create directory " path refusal)

/-- Sets permissions that were asked for. -/
def setChosenMode (path : Text) (mode : Option Nat) : Tool Unit := do
  match mode with
  | none => return
  | some mode =>
    match ← ask (.setPermissions path mode) with
    | .ok () => return
    | .error refusal => complain 1 (aboutQuoted "cannot set permissions of " path refusal)

/-- The paths that lead to a place step by step: each of them but the last one leads to a directory
that has to be there. -/
def pathSteps : Text → Text → List Text
  | done, [] => if done.isEmpty then [] else [done.reverse]
  | done, c :: cs =>
    if c = '/' then
      let more := cs.dropWhile (· == '/')
      if more.isEmpty then [done.reverse ++ (c :: cs)]
      else if done.isEmpty ∨ done.head? = some '/' then pathSteps (c :: done) cs
      else done.reverse :: pathSteps (c :: done) cs
    else pathSteps (c :: done) cs

/-- Makes a directory and those on the way to it. -/
def makeParents (tells : Bool) (mode : Option Nat) : List Text → Tool Unit
  | [] => return
  | path :: rest => do
    match ← ask (.makeDirectory path Disk.widePermissions) with
    | .ok () => do
      tellMade tells path
      if rest.isEmpty then setChosenMode path mode
      makeParents tells mode rest
    | .error refusal => do
      if ← isDirectory path then makeParents tells mode rest
      else if refusal = .alreadyThere ∧ ¬ rest.isEmpty then cannotMake path .notDirectory
      else cannotMake path refusal

/-- Makes a directory, with its permissions. -/
def makeOne (tells : Bool) (mode : Option Nat) (path : Text) : Tool Unit := do
  match ← ask (.makeDirectory path Disk.widePermissions) with
  | .error refusal => cannotMake path refusal
  | .ok () => do
    tellMade tells path
    setChosenMode path mode

/-- The program `mkdir`. -/
def mkdir (call : Call) : Task :=
  withOptions 1 1 mkdirSwitches call fun options => do
    if options.operands.isEmpty then missingOperand
    let mode ← chosenMode options Disk.widePermissions
    Tool.each (fun path =>
      if options.has "p" then
        makeParents (options.has "v") mode
          (if path.isEmpty then [path] else pathSteps [] path)
      else makeOne (options.has "v") mode path) options.operands

/-! ### `mkfifo` -/

/-- The program `mkfifo`. -/
def mkfifo (call : Call) : Task :=
  withOptions 1 1 ⟨"Z", "m", "", [("mode", .value, "m"), ("context", .maybe, "Z")], false⟩ call
    fun options => do
      if options.operands.isEmpty then missingOperand
      let mode ← chosenMode options Disk.plainPermissions
      Tool.each (fun path => do
        match ← ask (.makeFifo path Disk.plainPermissions) with
        | .ok () => setChosenMode path mode
        | .error refusal => complain 1 (aboutQuoted "cannot create fifo " path refusal))
        options.operands

/-! ### `mktemp` -/

/-- The characters of names that are made up. -/
def nameLetters : Array Char :=
  "abcdefghijklmnopqrstuvwxyzABCDEFGHIJKLMNOPQRSTUVWXYZ0123456789".toList.toArray

/-- Letters that are made up from a number. -/
def madeUpLetters : Nat → Nat → Text
  | 0, _ => []
  | n + 1, seed =>
    nameLetters[seed / 65536 % 62]! :: madeUpLetters n ((seed * 1103515245 + 12345) % 2147483648)

/-- The switches of `mktemp`. -/
def mktempSwitches : Switches :=
  ⟨"dqtuV", "p", "",
    [("directory", .nothing, "d"), ("quiet", .nothing, "q"), ("dry-run", .nothing, "u"),
      ("tmpdir", .maybe, "p"), ("suffix", .value, "suffix")], false⟩

/-- Makes what a template asks for, with a bound on the tries. -/
def makeFresh (directory dry : Bool) (front back : Text) (letters : Nat) :
    Nat → Nat → Tool (Except Refusal Text)
  | 0, _ => return .error .alreadyThere
  | tries + 1, seed => do
    let path := front ++ madeUpLetters letters seed ++ back
    if dry then
      match ← lookAt path false with
      | .error .noEntry => return .ok path
      | _ => makeFresh directory dry front back letters tries (seed + 7919)
    else
      let made ←
        if directory then ask (.makeDirectory path 0o700)
        else do
          match ← ask (.openFile path .fresh 0o600) with
          | .ok descriptor => ask (.close descriptor)
          | .error refusal => pure (.error refusal)
      match made with
      | .ok () => return .ok path
      | .error .alreadyThere =>
        makeFresh directory dry front back letters tries (seed + 7919)
      | .error refusal => return .error refusal

/-- The value of a variable of the environment. -/
def environmentValue? (call : Call) (name : String) : Option Text :=
  call.environment.findSome? fun entry =>
    if (name.toList ++ ['=']).isPrefixOf entry then some (entry.drop (name.length + 1)) else none

/-- The program `mktemp`. -/
def mktemp (call : Call) : Task :=
  withOptions 1 1 mktempSwitches call fun options => do
    let (template, given) : Text × Bool ← match options.operands with
      | [] => pure ("tmp.XXXXXXXXXX".toList, false)
      | [template] => pure (template, true)
      | _ => misuse 1 "too many templates".toList
    let suffix := (options.value? "suffix").getD []
    let (head, tail) : Text × Text :=
      if (options.value? "suffix").isSome then (template, suffix)
      else
        let tail := (template.reverse.takeWhile (· != 'X')).reverse
        (template.take (template.length - tail.length), tail)
    let count := (head.reverse.takeWhile (· == 'X')).length
    if count < 3 then
      fail 1 ("too few X's in template " ++ quoted template)
    if tail.contains '/' then
      fail 1 ("invalid suffix " ++ quoted tail ++ ", contains directory separator")
    let temporary := ((environmentValue? call "TMPDIR").filter (!·.isEmpty)).getD "/tmp".toList
    let directory : Option Text :=
      match options.value? "p" with
      | some directory => some (if directory.isEmpty then temporary else directory)
      | none => if options.has "p" ∨ options.has "t" ∨ ¬ given then some temporary else none
    let path := match directory with
      | some directory => below directory head
      | none => head
    let front := path.take (path.length - count)
    let now := match ← ask .clock, ← ask .numbers with
      | .ok now, .ok numbers => now * 31 + numbers.1 * 7919
      | _, _ => 0
    let found ← makeFresh (options.has "d") (options.has "u") front tail count 1000
      (now * 1103515245 % 2147483648)
    match found with
    | .ok path => sayLine path
    | .error refusal =>
      if ¬ options.has "q" then
        let what : Text := if options.has "d" then "directory".toList else "file".toList
        complain 1 ("failed to create " ++ what ++ " via template " ++
          quoted (path ++ tail) ++ ": " ++ ofString refusal.message)
      else setStatus 1

/-! ### `chmod` -/

/-- The switches of `chmod`. -/
def chmodSwitches : Switches :=
  ⟨"Rcfv", "", "",
    [("recursive", .nothing, "R"), ("changes", .nothing, "c"), ("silent", .nothing, "f"),
      ("quiet", .nothing, "f"), ("verbose", .nothing, "v"), ("reference", .value, "reference"),
      ("preserve-root", .nothing, "P"), ("no-preserve-root", .nothing, "N")], false⟩

/-- An argument that begins with a dash and yet says what permissions to take away. -/
def isTakingMode (argument : Text) : Bool :=
  match argument with
  | '-' :: c :: cs => (c :: cs).all fun d => "rwxXstugoa,+=-01234567".toList.contains d
  | _ => false

/-- Says what came of changing permissions. -/
def tellMode (options : Options) (path : Text) (before after : Nat) : Tool Unit := do
  let shown (mode : Nat) : Text :=
    permissionDigits 4 mode ++ " (" ++ permissionText mode ++ ")"
  if before ≠ after then
    if options.has "v" ∨ options.has "c" then
      sayLine ("mode of " ++ quotedName path ++ " changed from " ++ shown before ++ " to " ++
        shown after)
  else if options.has "v" then
    sayLine ("mode of " ++ quotedName path ++ " retained as " ++ shown after)

/-- Changes the permissions of what a path leads to, and of what is below if that is wanted. -/
def changeModeAt (options : Options) (rule : ModeRule) (mask : Nat) : Nat → Bool → Text → Tool Unit
  | 0, _, _ => return
  | fuel + 1, top, path => do
    match ← lookAt path top with
    | .error refusal =>
      let dangling ← lookAt path false
      let what : String := match dangling with
        | .ok _ => "cannot operate on dangling symlink "
        | .error _ => "cannot access "
      if ¬ options.has "f" then
        match dangling with
        | .ok _ => complain 1 (ofString what ++ quotedName path)
        | .error _ => complain 1 (aboutQuoted what path refusal)
      else setStatus 1
    | .ok info =>
      if info.kind = .link then return
      let directory := info.kind == .directory
      let after := rule.apply directory mask info.permissions
      match ← ask (.setPermissions path after) with
      | .error refusal => complain 1 (aboutQuoted "changing permissions of " path refusal)
      | .ok () => tellMode options path info.permissions after
      if directory ∧ options.has "R" then
        match ← ask (.list path) with
        | .error refusal => complain 1 (aboutQuoted "cannot read directory " path refusal)
        | .ok names =>
          Tool.each (fun name => changeModeAt options rule mask fuel false (below path name)) names

/-- The program `chmod`. -/
def chmod (call : Call) : Task :=
  let before := call.arguments.takeWhile (· ≠ ['-', '-'])
  let taking := before.filter isTakingMode
  let others := before.filter (fun argument => !isTakingMode argument) ++
    call.arguments.drop before.length
  withOptions 1 1 chmodSwitches { call with arguments := others } fun options => do
    let mask ← maskNow
    let (text, paths) : Option Text × List Text ← match options.value? "reference", taking with
      | some _, _ => pure (none, options.operands)
      | none, mode :: more =>
        pure (some (List.intercalate [','] (mode :: more)), options.operands)
      | none, [] =>
        match options.operands with
        | [] => missingOperand
        | [mode] => misuse 1 ("missing operand after " ++ quoted mode)
        | mode :: paths => pure (some mode, paths)
    if paths.isEmpty then missingOperand
    let rule ← match text, options.value? "reference" with
      | some text, _ =>
        match ModeRule.ofText? text with
        | some rule => pure rule
        | none => misuse 1 ("invalid mode: " ++ quoted text)
      | none, reference => do
        let path := reference.getD []
        match ← lookAt path true with
        | .ok info => pure (.exact info.permissions)
        | .error refusal => fail 1 (aboutQuoted "failed to get attributes of " path refusal)
    Tool.each (changeModeAt options rule mask walkDepth true) paths

end TaskRunner.Program
