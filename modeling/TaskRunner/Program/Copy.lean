import TaskRunner.Program.Link
import TaskRunner.Program.Make

/-! Programs that copy and move files. -/

namespace TaskRunner.Program

open Tool

/-! ### What is to be done -/

/-- How files are copied or moved: whether directories are copied, links are followed, and what was
known of the files is kept; what to do about a file that is there already; and whether to tell. -/
structure Transfer where
  recursive : Bool
  follows : Bool
  followsFirst : Bool
  keeps : Bool
  forced : Bool
  clobbers : Option String
  newer : Bool
  tells : Bool
  links : Option Bool
  backs : Bool

/-- Whether a file that is there may be replaced.  If not, that may have to be complained about. -/
def mayReplace (transfer : Transfer) (source found : FileInfo) (path : Text) : Tool Bool := do
  match transfer.clobbers with
  | some "n" => return false
  | some "i" =>
    let name := (← get).name
    if ← agrees (name ++ ": overwrite " ++ quotedName path ++ "? ") then
      return true
    setStatus 1
    return false
  | _ => return !(transfer.newer && source.modified ≤ found.modified)

/-- Keeps a file that is about to be replaced under another name, which is yielded. -/
def backUp (transfer : Transfer) (path : Text) : Tool (Option Text) := do
  if ¬ transfer.backs then return none
  let kept := withoutSlashes path ++ ['~']
  match ← ask (.rename path kept) with
  | .ok () => return some kept
  | .error _ => return none

/-- Tells of a transfer, and of what was kept of a file that was there. -/
def tellTransfer (transfer : Transfer) (front : String) (source path : Text) (kept : Option Text) :
    Tool Unit := do
  let aside : Text := match kept with
    | some kept => ofString " (backup: " ++ quotedName kept ++ [')']
    | none => []
  if transfer.tells then
    sayLine (ofString front ++ quotedName source ++ " -> " ++ quotedName path ++ aside)

/-- Complains that two names mean the same file. -/
def sameFile (source path : Text) : Tool Unit :=
  complain 1 (quotedName source ++ " and " ++ quotedName path ++ " are the same file")

/-- Complains that a file is in the way of a directory. -/
def fileInTheWay (path source : Text) : Tool Unit :=
  complain 1 ("cannot overwrite non-directory " ++ quotedName path ++ " with directory " ++
    quotedName source)

/-- Complains that a directory is in the way of a file. -/
def directoryInTheWay (path : Text) : Tool Unit :=
  complain 1 ("cannot overwrite directory " ++ quotedName path ++ " with non-directory")

/-! ### Copying -/

/-- Keeps what was known of a file for its copy. -/
def keepInfo (transfer : Transfer) (info : FileInfo) (path : Text) : Tool Unit := do
  if transfer.keeps then
    let _ ← ask (.setPermissions path info.permissions)
    let _ ← ask (.setTime path (some info.modified))

/-- Copies the bytes that are left of one descriptor to another. -/
def copyBytes (input output : Nat) : Tool (Except Refusal Unit) :=
  loop (fun _ : Unit => do
    match ← ask (.read input 131072) with
    | .ok [] => return .inr (.ok ())
    | .error .interrupted => return .inl ()
    | .error refusal => return .inr (.error refusal)
    | .ok block =>
      match ← act (Act.writeAll output block) with
      | .ok () => return .inl ()
      | .error refusal => return .inr (.error refusal)) (fun _ => pure (.ok ())) ()

/-- Opens a copy for writing: a new one, or one that is there already. -/
def openCopy (transfer : Transfer) (info : FileInfo) (path : Text) (there : Bool) :
    Tool (Except Refusal Nat) := do
  if there then
    match ← ask (.openFile path ⟨false, true, false, true, false, false⟩ 0) with
    | .ok descriptor => return .ok descriptor
    | .error refusal =>
      if transfer.forced then
        let _ ← ask (.removeFile path)
        ask (.openFile path .fresh info.permissions)
      else return .error refusal
  else if Disk.endsInSlash path then return .error .notDirectory
  else ask (.openFile path .fresh (info.permissions &&& 0o777))

/-- Copies a file that is read. -/
def copyRegular (transfer : Transfer) (source path : Text) (info : FileInfo) (there : Bool) :
    Tool Bool := do
  match ← openInput source with
  | .error refusal =>
    complain 1 (aboutQuoted "cannot open " source refusal)
    return false
  | .ok input =>
    match ← openCopy transfer info path there with
    | .error refusal =>
      let _ ← ask (.close input)
      complain 1 (aboutQuoted "cannot create regular file " path refusal)
      return false
    | .ok output =>
      let outcome ← copyBytes input output
      let _ ← ask (.close input)
      let _ ← ask (.close output)
      match outcome with
      | .ok () =>
        keepInfo transfer info path
        return true
      | .error refusal =>
        complain 1 (aboutQuoted "error copying " source refusal)
        return false

/-- Copies what is no directory. -/
def copyPlain (transfer : Transfer) (source path : Text) (info : FileInfo) (there : Bool) :
    Tool Bool := do
  match transfer.links with
  | some symbolic =>
    let made ← if symbolic then ask (.makeLink source path) else ask (.makeName source path)
    match made with
    | .ok () => return true
    | .error refusal =>
      let what : String :=
        if symbolic then "cannot create symbolic link " else "cannot create hard link "
      let toWhat : Text := if symbolic then ofString " to " ++ quotedName source
        else ofString " to " ++ quotedName source
      complain 1 (ofString what ++ quotedName path ++ toWhat ++ ": " ++ ofString refusal.message)
      return false
  | none =>
    if info.kind = .link then
      match ← ask (.readLink source) with
      | .error refusal =>
        complain 1 (aboutQuoted "cannot read symbolic link " source refusal)
        return false
      | .ok target =>
        if there then
          let _ ← ask (.removeFile path)
        match ← ask (.makeLink target path) with
        | .ok () => return true
        | .error refusal =>
          complain 1 (aboutQuoted "cannot create symbolic link " path refusal)
          return false
    else if info.kind = .fifo ∧ transfer.recursive then
      match ← ask (.makeFifo path info.permissions) with
      | .ok () => return true
      | .error refusal =>
        complain 1 (aboutQuoted "cannot create fifo " path refusal)
        return false
    else copyRegular transfer source path info there

/-- What the parts of one copy have in common: the names that were given, and the directories that
were made. -/
structure CopyRoot where
  source : Text
  path : Text
  made : List Nat

/-- Copies what a path leads to, with a bound on how deep directories are nested.  Yields the
directories that were made. -/
def copyAt (transfer : Transfer) : Nat → CopyRoot → Bool → Text → Text → Tool CopyRoot
  | 0, root, _, _, _ => return root
  | fuel + 1, root, top, source, path => do
    let follows := transfer.follows || (top && transfer.followsFirst)
    match ← lookAt source follows with
    | .error refusal =>
      complain 1 (aboutQuoted "cannot stat " source refusal)
      return root
    | .ok info =>
      let directory := info.kind == .directory
      if directory ∧ ¬ transfer.recursive then
        complain 1 ("-r not specified; omitting directory " ++ quotedName source)
        return root
      match ← lookAt path (directory || info.kind != .link) with
      | .error _ =>
        if directory then makeCopy fuel root source path info
        else
          match ← lookAt path false with
          | .ok _ =>
            if info.kind = .regular then
              complain 1 ("not writing through dangling symlink " ++ quotedName path)
              return root
            let _ ← ask (.removeFile path)
          | .error _ => pure ()
          copyFile root source path info false
      | .ok found =>
        if directory then
          if root.made.contains info.number then intoItself root source
          else if found.kind ≠ .directory then
            fileInTheWay path source
            return root
          else if found.number = info.number then
            sameFile source path
            return root
          else copyBelow fuel root source path info
        else if found.number = info.number ∧ transfer.links = some false then
          return root
        else if found.number = info.number ∧ transfer.links = none then
          sameFile source path
          return root
        else if found.kind = .directory then
          directoryInTheWay path
          return root
        else if ← mayReplace transfer info found path then
          if transfer.links.isSome ∧ transfer.forced then
            let _ ← ask (.removeFile path)
          copyFile root source path info true
        else return root
where
  /-- Complains about a directory that would have to hold itself. -/
  intoItself (root : CopyRoot) (_ : Text) : Tool CopyRoot := do
    complain 1 ("cannot copy a directory, " ++ quotedName root.source ++ ", into itself, " ++
      quotedName root.path)
    return root
  /-- Copies what is no directory, and tells of it. -/
  copyFile (root : CopyRoot) (source path : Text) (info : FileInfo) (there : Bool) :
      Tool CopyRoot := do
    let kept ← if there then backUp transfer path else pure none
    tellTransfer transfer "" source path kept
    let _ ← copyPlain transfer source path info (there && kept.isNone)
    return root
  /-- Makes a directory, and copies what one holds into it. -/
  makeCopy (fuel : Nat) (root : CopyRoot) (source path : Text) (info : FileInfo) :
      Tool CopyRoot := do
    if root.made.contains info.number then intoItself root source
    else
      match ← ask (.makeDirectory path (info.permissions ||| 0o700)) with
      | .error refusal =>
        complain 1 (aboutQuoted "cannot create directory " path refusal)
        return root
      | .ok () =>
        tellTransfer transfer "" source path none
        let made := match ← lookAt path true with
          | .ok info => info.number :: root.made
          | .error _ => root.made
        copyBelow fuel { root with made } source path info
  /-- Copies what a directory holds into another one. -/
  copyBelow (fuel : Nat) (root : CopyRoot) (source path : Text) (info : FileInfo) :
      Tool CopyRoot := do
    match ← ask (.list source) with
    | .error refusal =>
      complain 1 (aboutQuoted "cannot access " source refusal)
      return root
    | .ok names =>
      let root ← Tool.fold (fun root name =>
        copyAt transfer fuel root false (below source name) (below path name)) root names
      keepInfo transfer info path
      return root

/-- The switches of `cp`. -/
def cpSwitches : Switches :=
  ⟨"abdfHilLnPpRrsTuvxZ", "St", "",
    [("archive", .nothing, "a"), ("attributes-only", .nothing, "attributes"),
      ("dereference", .nothing, "L"), ("no-dereference", .nothing, "P"), ("force", .nothing, "f"),
      ("interactive", .nothing, "i"), ("link", .nothing, "l"), ("symbolic-link", .nothing, "s"),
      ("no-clobber", .nothing, "n"), ("recursive", .nothing, "R"), ("preserve", .maybe, "p"),
      ("no-preserve", .value, "np"), ("update", .maybe, "u"), ("verbose", .nothing, "v"),
      ("remove-destination", .nothing, "f"), ("parents", .nothing, "parents"),
      ("backup", .maybe, "b"), ("reflink", .maybe, "reflink"), ("sparse", .value, "sparse")] ++
      placeSwitches, false⟩

/-- The program `cp`. -/
def cp (call : Call) : Task :=
  withOptions 1 1 cpSwitches call fun options => do
    let has (keys : List String) : Bool := keys.any options.has
    let recursive := has ["r", "R", "a"]
    let follows := match options.lastOf ["L", "P", "a", "d", "H"] with
      | some "L" => true
      | some _ => false
      | none => !recursive
    let transfer : Transfer :=
      { recursive, follows
        followsFirst := options.lastOf ["L", "P", "a", "d", "H"] == some "H"
        keeps := has ["p", "a"]
        forced := options.has "f"
        clobbers := options.lastOf ["i", "n"]
        newer := options.has "u"
        tells := options.has "v"
        links := if options.has "s" then some true else if options.has "l" then some false
          else none
        backs := options.has "b" }
    if transfer.clobbers = some "n" then
      writeError ((← get).name ++ (ofString (": warning: behavior of -n is non-portable and may " ++
        "change in future; use --update=none instead\n")))
    let copy (source path : Text) : Tool Unit := do
      let _ ← copyAt transfer walkDepth ⟨source, path, []⟩ true source path
    match ← destination options true with
    | .as_ source name => copy source name
    | .inside directory sources =>
      Tool.each (fun source => do
        if options.has "parents" then
          let place := below directory (withoutSlashes source)
          makeParents false none (pathSteps [] (directoryOf place))
          copy source place
        else copy source (placeIn directory source)) sources

/-! ### Moving -/

/-- The switches of `mv`. -/
def mvSwitches : Switches :=
  ⟨"bfinTuvZ", "St", "",
    [("force", .nothing, "f"), ("interactive", .nothing, "i"), ("no-clobber", .nothing, "n"),
      ("strip-trailing-slashes", .nothing, "strip"), ("update", .maybe, "u"),
      ("verbose", .nothing, "v")] ++ placeSwitches, false⟩

/-- Moves what a path leads to. -/
def moveTo (transfer : Transfer) (source path : Text) : Tool Unit := do
  match ← lookAt source false with
  | .error refusal => complain 1 (aboutQuoted "cannot stat " source refusal)
  | .ok info =>
    let directory := info.kind == .directory
    let mut allowed := true
    match ← lookAt path false with
    | .error _ => pure ()
    | .ok found =>
      if found.number = info.number ∧
          (¬ directory ∨ withoutSlashes source = withoutSlashes path) then
        allowed := false
        sameFile source path
      else if directory ∧ found.kind ≠ .directory then
        allowed := false
        fileInTheWay path source
      else if ¬ directory ∧ found.kind = .directory then
        allowed := false
        directoryInTheWay path
      else if ¬ (← mayReplace transfer info found path) then allowed := false
    if allowed then
      let kept ← backUp transfer path
      match ← ask (.rename source path) with
      | .ok () => tellTransfer transfer "renamed " source path kept
      | .error .invalid =>
        complain 1 ("cannot move " ++ quotedName source ++ " to a subdirectory of itself, " ++
          quotedName path)
      | .error .notEmpty => complain 1 (aboutQuoted "cannot overwrite " path .notEmpty)
      | .error refusal =>
        complain 1 ("cannot move " ++ quotedName source ++ " to " ++ quotedName path ++ ": " ++
          ofString refusal.message)

/-- The program `mv`. -/
def mv (call : Call) : Task :=
  withOptions 1 1 mvSwitches call fun options => do
    let transfer : Transfer :=
      { recursive := true, follows := false, followsFirst := false, keeps := true, forced := true
        clobbers := options.lastOf ["i", "n", "f"]
        newer := options.has "u"
        tells := options.has "v"
        links := none
        backs := options.has "b" }
    match ← destination options true with
    | .as_ source name => moveTo transfer source name
    | .inside directory sources =>
      Tool.each (fun source => moveTo transfer source (placeIn directory source)) sources

/-! ### Installing -/

/-- The switches of `install`. -/
def installSwitches : Switches :=
  ⟨"bcCdDpsTvZ", "gmoSt", "",
    [("directory", .nothing, "d"), ("mode", .value, "m"), ("owner", .value, "o"),
      ("group", .value, "g"), ("preserve-timestamps", .nothing, "p"), ("strip", .nothing, "s"),
      ("verbose", .nothing, "v"), ("compare", .nothing, "C")] ++ placeSwitches, false⟩

/-- Copies a file to its place, with permissions of its own. -/
def installAt (options : Options) (mode : Nat) (source path : Text) : Tool Unit := do
  if options.has "D" then
    makeParents false none (pathSteps [] (directoryOf path))
  match ← lookAt source true with
  | .error refusal => complain 1 (aboutQuoted "cannot stat " source refusal)
  | .ok info =>
    if info.kind = .directory then
      return ← complain 1 ("omitting directory " ++ quotedName source)
    match ← lookAt path true with
    | .ok found =>
      if found.number = info.number then return ← sameFile source path
      if found.kind = .directory then return ← directoryInTheWay path
    | .error _ => pure ()
    let old ← ask (.removeFile path)
    if options.has "v" then
      match old with
      | .ok () => sayLine ("removed " ++ quotedName path)
      | .error _ => pure ()
      sayLine (quotedName source ++ " -> " ++ quotedName path)
    let transfer : Transfer :=
      ⟨false, true, true, false, true, none, false, false, none, false⟩
    if ← copyRegular transfer source path info false then
      let _ ← ask (.setPermissions path mode)
      if options.has "p" then
        let _ ← ask (.setTime path (some info.modified))

/-- Makes the directories on a path. -/
def installDirectories (options : Options) (mode : Nat) : List Text → Tool Unit
  | [] => return
  | path :: rest => do
    match ← ask (.makeDirectory path Disk.widePermissions) with
    | .ok () =>
      if options.has "v" then
        let name := (← get).name
        sayLine (name ++ ": creating directory " ++ quotedName path)
      let _ ← ask (.setPermissions path (if rest.isEmpty then mode else 0o755))
      installDirectories options mode rest
    | .error refusal =>
      if ← isDirectory path then
        if rest.isEmpty then
          let _ ← ask (.setPermissions path mode)
        installDirectories options mode rest
      else cannotMake path refusal

/-- The program `install`. -/
def install (call : Call) : Task :=
  withOptions 1 1 installSwitches call fun options => do
    let mode ← match options.value? "m" with
      | none => pure 0o755
      | some text =>
        match ModeRule.ofText? text with
        | some rule => pure (rule.apply (options.has "d") 0 0)
        | none => fail 1 ("invalid mode " ++ quoted text)
    if options.has "d" then
      if options.operands.isEmpty then misuse 1 "missing file operand".toList
      Tool.each (fun path => installDirectories options mode (pathSteps [] path)) options.operands
    else
      match ← destination options true with
      | .as_ source name => installAt options mode source name
      | .inside directory sources =>
        Tool.each (fun source => installAt options mode source (placeIn directory source)) sources

end TaskRunner.Program
