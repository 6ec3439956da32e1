import TaskRunner.Program.Walk

/-! Programs about names: those that make more names for files, and those that follow names. -/

namespace TaskRunner.Program

open Tool

/-! ### Places for new names -/

/-- The operands of a program that makes new names: the old ones, and the place for the new ones,
which is a directory or a name. -/
inductive Destination where
  | inside (directory : Text) (sources : List Text)
  | as_ (source name : Text)

/-- The switches that say where new names go. -/
def placeSwitches : List (String × Need × String) :=
  [("target-directory", .value, "t"), ("no-target-directory", .nothing, "T")]

/-- What the operands of a program that makes new names mean.  A last operand that is a directory
holds the new names, unless `whole` says otherwise. -/
def destination (options : Options) (follows : Bool) : Tool Destination := do
  match options.value? "t", options.operands with
  | _, [] => misuse 1 "missing file operand".toList
  | some directory, sources =>
    match ← lookAt directory true with
    | .error refusal => fail 1 (aboutQuoted "target directory " directory refusal)
    | .ok info =>
      if info.kind = .directory then return .inside directory sources
      else fail 1 (aboutQuoted "target directory " directory .notDirectory)
  | none, [source] => misuse 1 ("missing destination file operand after " ++ quoted source)
  | none, [source, target] =>
    if options.has "T" then return .as_ source target
    match ← lookAt target follows with
    | .ok info =>
      if info.kind = .directory then return .inside target [source] else return .as_ source target
    | .error _ => return .as_ source target
  | none, sources => do
    let target := sources.getLastD []
    if options.has "T" then extraOperand (sources.getD 2 [])
    match ← lookAt target true with
    | .error refusal => fail 1 (aboutQuoted "target " target refusal)
    | .ok info =>
      if info.kind = .directory then return .inside target sources.dropLast
      else fail 1 (aboutQuoted "target " target .notDirectory)

/-- The new name of something in a directory. -/
def placeIn (directory source : Text) : Text :=
  below (if directory = ['/'] then directory else withoutSlashes directory) (lastName source)

/-! ### Following names -/

/-- Which names on a path have to lead somewhere. -/
inductive Presence where
  | every
  | allButLast
  | none_
deriving DecidableEq

/-- How many links are followed. -/
def maxLinks : Nat := 40

/-- The path without links, and without dots, that names lead to from a path.  The last argument but
one bounds how many links are followed, and the first how many names. -/
def followNames (presence : Presence) (followsLinks : Bool) :
    Nat → Nat → Text → List Text → Tool (Except Refusal Text)
  | 0, _, _, _ => return .error .linksTooDeep
  | _ + 1, _, path, [] => return .ok path
  | fuel + 1, links, path, name :: rest => do
    if name = ['.'] ∨ name.isEmpty then followNames presence followsLinks fuel links path rest
    else if name = ['.', '.'] then
      followNames presence followsLinks fuel links (directoryOf path) rest
    else
      let next := below path name
      let last := rest.all (·.isEmpty)
      match ← lookAt next !followsLinks with
      | .error refusal =>
        if presence = .none_ ∨ (presence = .allButLast ∧ last ∧ refusal = .noEntry) then
          followNames presence followsLinks fuel links next rest
        else return .error refusal
      | .ok info =>
        if info.kind = .link ∧ followsLinks then
          match links, ← ask (.readLink next) with
          | links + 1, .ok target =>
            let start := if target.head? = some '/' then ['/'] else path
            followNames presence followsLinks fuel links start (target.splitOn '/' ++ rest)
          | _, _ => return .error .linksTooDeep
        else if info.kind ≠ .directory ∧ ¬ rest.isEmpty ∧ presence ≠ .none_ then
          return .error .notDirectory
        else followNames presence followsLinks fuel links next rest

/-- The path without links and dots that a path leads to. -/
def followPath (presence : Presence) (followsLinks : Bool) (path : Text) :
    Tool (Except Refusal Text) := do
  if path.isEmpty then return .error .noEntry
  let start ←
    if path.head? = some '/' then pure ['/']
    else do
      match ← ask .directory with
      | .ok directory => pure directory
      | .error _ => pure ['/']
  followNames presence followsLinks 100000 maxLinks start (path.splitOn '/')

/-- The way from a directory to a path, both without links. -/
def relativePath (directory path : Text) : Text :=
  let from_ := (directory.splitOn '/').filter (!·.isEmpty)
  let target := (path.splitOn '/').filter (!·.isEmpty)
  let common := ((from_.zip target).takeWhile fun pair => pair.1 == pair.2).length
  let names := List.replicate (from_.length - common) ['.', '.'] ++ target.drop common
  if names.isEmpty then ['.'] else List.intercalate ['/'] names

/-! ### `ln` -/

/-- The switches of `ln`. -/
def lnSwitches : Switches :=
  ⟨"bdFfinLPrsTv", "St", "",
    [("symbolic", .nothing, "s"), ("force", .nothing, "f"), ("interactive", .nothing, "i"),
      ("no-dereference", .nothing, "n"), ("relative", .nothing, "r"), ("verbose", .nothing, "v"),
      ("logical", .nothing, "L"), ("physical", .nothing, "P")] ++ placeSwitches, false⟩

/-- Makes a link, in place of what has the name if that is wanted. -/
def makeLinkAt (options : Options) (source path : Text) : Tool Unit := do
  let symbolic := options.has "s"
  if ¬ symbolic then
    match ← lookAt source false with
    | .error refusal => return ← complain 1 (aboutQuoted "failed to access " source refusal)
    | .ok info =>
      if info.kind = .directory then
        return ← complain 1 (shownName source ++ ": hard link not allowed for directory")
  let old ← lookAt path false
  if options.has "f" ∧ (← isSameEntry source path) then
    return ← complain 1 (quotedName source ++ " and " ++ quotedName path ++
      " are the same file")
  match old with
  | .ok found =>
    if (options.has "f" ∨ options.has "i") ∧ found.kind = .directory then
      return ← complain 1 (shownName path ++ ": cannot overwrite directory")
    if options.lastOf ["f", "i"] = some "i" then
      let name := (← get).name
      if ¬ (← agrees (name ++ ": replace " ++ quotedName path ++ "? ")) then
        return ← setStatus 1
    if options.has "f" ∨ options.has "i" then
      let _ ← ask (.removeFile path)
  | .error _ => pure ()
  let target ← if symbolic ∧ options.has "r" then relativeTo source path else pure source
  let made ← if symbolic then ask (.makeLink target path) else ask (.makeName source path)
  match made with
  | .ok () =>
    if options.has "v" then
      sayLine (quotedName path ++ (if symbolic then " -> " else " => ") ++ quotedName target)
  | .error refusal =>
    let name : Text :=
      if symbolic then
        ofString "symbolic link " ++ quotedName path ++
          (if source.isEmpty then ofString " -> " ++ quotedName source else [])
      else
        ofString "hard link " ++ quotedName path ++
          (if refusal = .alreadyThere then [] else ofString " => " ++ quotedName source)
    complain 1 ("failed to create " ++ name ++ ": " ++ ofString refusal.message)
where
  /-- Two paths that lead to something end with the same name in the same directory. -/
  isSameEntry (first second : Text) : Tool Bool := do
    if lastName first ≠ lastName second then return false
    match ← lookAt first false, ← lookAt (directoryOf first) true,
        ← lookAt (directoryOf second) true with
    | .ok _, .ok one, .ok other => return one.number = other.number
    | _, _, _ => return false
  /-- The way from the directory of a link to what it leads to. -/
  relativeTo (source path : Text) : Tool Text := do
    match ← followPath .none_ true (directoryOf path), ← followPath .none_ true source with
    | .ok directory, .ok target => return relativePath directory target
    | _, _ => return source

/-- The program `ln`. -/
def ln (call : Call) : Task :=
  withOptions 1 1 lnSwitches call fun options => do
    match options.operands, options.value? "t", options.has "T" with
    | [source], none, false => makeLinkAt options source (placeIn ['.'] source)
    | _, _, _ =>
      match ← destination options !(options.has "n") with
      | .as_ source name => makeLinkAt options source name
      | .inside directory sources =>
        Tool.each (fun source => makeLinkAt options source (placeIn directory source)) sources

/-- The program `link`. -/
def link (call : Call) : Task :=
  withOptions 1 1 (.letters "" "") call fun options => do
    match options.operands with
    | [] => missingOperand
    | [old] => misuse 1 ("missing operand after " ++ quoted old)
    | [old, new] =>
      match ← ask (.makeName old new) with
      | .ok () => return
      | .error refusal =>
        complain 1 ("cannot create link " ++ quotedName new ++ " to " ++ quotedName old ++ ": " ++
          ofString refusal.message)
    | _ :: _ :: extra :: _ => extraOperand extra

/-! ### `readlink` and `realpath` -/

/-- The switches of `readlink`. -/
def readlinkSwitches : Switches :=
  ⟨"femnqsvz", "", "",
    [("canonicalize", .nothing, "f"), ("canonicalize-existing", .nothing, "e"),
      ("canonicalize-missing", .nothing, "m"), ("no-newline", .nothing, "n"),
      ("quiet", .nothing, "q"), ("silent", .nothing, "s"), ("verbose", .nothing, "v"),
      ("zero", .nothing, "z")], false⟩

/-- The program `readlink`. -/
def readlink (call : Call) : Task :=
  withOptions 1 1 readlinkSwitches call fun options => do
    if options.operands.isEmpty then missingOperand
    let presence : Option Presence := match options.lastOf ["f", "e", "m"] with
      | some "f" => some .allButLast
      | some "e" => some .every
      | some _ => some .none_
      | none => none
    let bare := options.has "n" && options.operands.length == 1
    let mark : Text := if bare then [] else if options.has "z" then ['\x00'] else ['\n']
    Tool.each (fun path => do
      let found ← match presence with
        | some presence => followPath presence true path
        | none => ask (.readLink path)
      match found with
      | .ok target => say (target ++ mark)
      | .error refusal =>
        if options.has "v" then complain 1 (shownName path ++ ": " ++ refusal.message)
        else setStatus 1) options.operands

/-- The switches of `realpath`. -/
def realpathSwitches : Switches :=
  ⟨"ELPemqsz", "", "",
    [("canonicalize", .nothing, "E"), ("canonicalize-existing", .nothing, "e"),
      ("canonicalize-missing", .nothing, "m"), ("logical", .nothing, "L"),
      ("physical", .nothing, "P"), ("quiet", .nothing, "q"), ("strip", .nothing, "s"),
      ("no-symlinks", .nothing, "s"), ("zero", .nothing, "z"),
      ("relative-to", .value, "to"), ("relative-base", .value, "base")], false⟩

/-- The program `realpath`. -/
def realpath (call : Call) : Task :=
  withOptions 1 1 realpathSwitches call fun options => do
    if options.operands.isEmpty then missingOperand
    let presence : Presence := match options.lastOf ["e", "m", "E"] with
      | some "e" => .every
      | some "m" => .none_
      | _ => .allButLast
    let follows := !(options.has "s")
    let base ← match options.value? "to" with
      | none => pure none
      | some directory =>
        match ← followPath presence follows directory with
        | .ok path => pure (some path)
        | .error refusal => fail 1 (about directory refusal)
    Tool.each (fun path => do
      match ← followPath presence follows path with
      | .ok found =>
        let shown := match base with
          | some directory => relativePath directory found
          | none => found
        say (shown ++ if options.has "z" then ['\x00'] else ['\n'])
      | .error refusal =>
        if options.has "q" then setStatus 1 else complain 1 (about path refusal)) options.operands

/-! ### `basename` and `dirname` -/

/-- A name without an ending, unless that is all there is. -/
def withoutEnding (ending name : Text) : Text :=
  if ending.isSuffixOf name ∧ ending.length < name.length then
    name.take (name.length - ending.length)
  else name

/-- The program `basename`. -/
def basename (call : Call) : Task :=
  let switches : Switches :=
    ⟨"az", "s", "", [("multiple", .nothing, "a"), ("suffix", .value, "s"),
      ("zero", .nothing, "z")], true⟩
  withOptions 1 1 switches call fun options => do
    let mark : Text := if options.has "z" then ['\x00'] else ['\n']
    let ending := (options.value? "s").getD []
    match options.operands with
    | [] => missingOperand
    | operands =>
      if options.has "a" ∨ options.has "s" then
        Tool.each (fun path => say (withoutEnding ending (lastName path) ++ mark)) operands
      else
        match operands with
        | [path, ending] => say (withoutEnding ending (lastName path) ++ mark)
        | _ :: _ :: extra :: _ => extraOperand extra
        | path :: _ => say (lastName path ++ mark)
        | [] => return

/-- The program `dirname`. -/
def dirname (call : Call) : Task :=
  withOptions 1 1 ⟨"z", "", "", [("zero", .nothing, "z")], false⟩ call fun options => do
    if options.operands.isEmpty then missingOperand
    Tool.each (fun path =>
      say (directoryOf path ++ if options.has "z" then ['\x00'] else ['\n'])) options.operands

end TaskRunner.Program
