import TaskRunner.Kernel.Basic

/-! What the kernel does about files: opening, reading and writing them, and changing the names on
the disk. -/

namespace TaskRunner.Kernel

/-- What comes of a request, and the process and the kernel after it. -/
abbrev Served (α : Type) := Result α × Process × Kernel

/-- The request is refused and changes nothing. -/
def refuse {α : Type} (process : Process) (kernel : Kernel) (refusal : Refusal) : Served α :=
  (.reply (.error refusal), process, kernel)

/-- The request is granted. -/
def grant {α : Type} (process : Process) (kernel : Kernel) (value : α) : Served α :=
  (.reply (.ok value), process, kernel)

/-- The request is granted with what was found, or refused. -/
def answer {α : Type} (process : Process) (kernel : Kernel) : Except Refusal α → Served α
  | .ok value => grant process kernel value
  | .error refusal => refuse process kernel refusal

/-- The request changes the disk, or is refused. -/
def alter (process : Process) (kernel : Kernel) : Except Refusal Disk → Served Unit
  | .ok disk => grant process { kernel with disk } ()
  | .error refusal => refuse process kernel refusal

/-- The open file that a descriptor stands for. -/
def file? (kernel : Kernel) (process : Process) (descriptor : Nat) : Option (Nat × OpenFile) := do
  let found ← process.descriptor? descriptor
  return (found.file, ← kernel.files[found.file]?)

/-! ### Opening -/

/-- Opens something for a process. -/
def openTarget (process : Process) (kernel : Kernel) (target : Target) (mode : OpenMode) :
    Served Nat :=
  let (kernel, file) := kernel.addFile target mode
  let (process, number) := attach process file
  grant process kernel number

/-- Opens an end of a pipe, or both. -/
def openEnd (process : Process) (kernel : Kernel) (pipe : Nat) (mode : OpenMode) : Served Nat :=
  let kernel := kernel.modifyPipe pipe fun pipe => pipe.open mode.reads mode.writes
  openTarget process kernel (.pipe pipe) mode

/-- Opens an end of a named pipe, which waits until somebody opens the other one. -/
def openFifo (process : Process) (kernel : Kernel) (pipe : Nat) (mode : OpenMode) : Served Nat :=
  match openEnd process kernel pipe mode with
  | (result, process, kernel) =>
    let kernel := kernel.wake process.clock fun channel =>
      match channel with
      | .readerOf awaited _ => mode.reads && awaited == pipe
      | .writerOf awaited _ => mode.writes && awaited == pipe
      | _ => false
    match kernel.pipes[pipe]?, result with
    | some found, .reply (.ok number) =>
      let waiting := { process with opening := some number }
      if found.writers = 0 then (.waits (.writerOf pipe found.writerOpenings), waiting, kernel)
      else if found.readers = 0 then
        (.waits (.readerOf pipe found.readerOpenings), waiting, kernel)
      else (result, process, kernel)
    | _, _ => (result, process, kernel)

/-- Opens a node that is there. -/
def openNode (process : Process) (kernel : Kernel) (n : Nat) (mode : OpenMode) : Served Nat :=
  match kernel.disk.content? n with
  | some (.directory _ _) =>
    if mode.writes then refuse process kernel .isDirectory
    else openTarget process kernel (.node n) mode
  | some (.program _) =>
    if mode.writes then refuse process kernel .denied
    else openTarget process kernel (.node n) mode
  | some (.fifo pipe) => openFifo process kernel pipe mode
  | some (.device .terminal) => refuse process kernel .noDevice
  | some (.regular _) =>
    let disk := if mode.empties then kernel.disk.clear n process.stamp else kernel.disk
    openTarget process { kernel with disk } (.node n) mode
  | some _ => openTarget process kernel (.node n) mode
  | none => refuse process kernel .noEntry

/-- Opens what a descriptor stands for once more. -/
def openAgain (process : Process) (kernel : Kernel) (descriptor : Nat) (mode : OpenMode) :
    Served Nat :=
  match kernel.file? process descriptor with
  | none => refuse process kernel .noEntry
  | some (_, file) =>
    match file.target with
    | .node n => openNode process kernel n mode
    | .pipe pipe => openEnd process kernel pipe mode

/-- Opens the file that a path leads to. -/
def openPath (process : Process) (kernel : Kernel) (path : Text) (mode : OpenMode)
    (permissions : Nat) : Served Nat :=
  match process.opening with
  | some number => grant { process with opening := none } kernel number
  | none =>
    match kernel.disk.pathEnd process.directory path true with
    | .error refusal => refuse process kernel refusal
    | .ok place =>
      match place.node with
      | some n =>
        if mode.exclusive then refuse process kernel .alreadyThere
        else
          match kernel.disk.content? n with
          | some (.device (.descriptor descriptor)) => openAgain process kernel descriptor mode
          | _ => openNode process kernel n mode
      | none =>
        if ¬ mode.creates then refuse process kernel .noEntry
        else if Disk.endsInSlash path then refuse process kernel .isDirectory
        else
          let (disk, n) := kernel.disk.add place.directory process.stamp place.name
            (.regular .empty) (Disk.masked permissions process.mask)
          openTarget process { kernel with disk } (.node n) mode

/-- Opens a pipe that holds a text and that nobody can write to. -/
def openText (process : Process) (kernel : Kernel) (text : Text) : Served Nat :=
  let pipe := (Pipe.empty 1 0).push text text.length
  let (kernel, pipe) := kernel.addPipe pipe
  openTarget process kernel (.pipe pipe) .input

/-- Opens a pipe, with a descriptor for each of its ends. -/
def openPipe (process : Process) (kernel : Kernel) : Served (Nat × Nat) :=
  let (kernel, pipe) := kernel.addPipe (Pipe.empty 1 1)
  let (kernel, input) := kernel.addFile (.pipe pipe) .input
  let (kernel, output) := kernel.addFile (.pipe pipe) .output
  let (process, first) := attach process input
  let (process, second) := attach process output
  grant process kernel (first, second)

/-- Closes a descriptor. -/
def closeDescriptor (process : Process) (kernel : Kernel) (number : Nat) : Served Unit :=
  match process.descriptor? number with
  | none => refuse process kernel .badDescriptor
  | some found => grant (process.without number) (kernel.release process.clock found.file) ()

/-- Makes a descriptor stand for what another one stands for. -/
def copyDescriptor (process : Process) (kernel : Kernel) (number target : Nat) : Served Unit :=
  match process.descriptor? number with
  | none => refuse process kernel .badDescriptor
  | some found =>
    if number = target then grant process kernel ()
    else
      let kernel := kernel.share found.file
      let kernel := match process.descriptor? target with
        | some old => kernel.release process.clock old.file
        | none => kernel
      grant (process.withDescriptor ⟨target, found.file, false⟩) kernel ()

/-- Makes a new descriptor, which other programs do not get, for what another one stands for. -/
def copyAbove (process : Process) (kernel : Kernel) (number least : Nat) : Served Nat :=
  match process.descriptor? number with
  | none => refuse process kernel .badDescriptor
  | some found =>
    let free := process.freeNumber least
    grant (process.withDescriptor ⟨free, found.file, true⟩) (kernel.share found.file) free

/-! ### Reading and writing -/

/-- The bytes that a device yields. -/
def deviceBytes (device : Device) (count : Nat) : Text :=
  match device with
  | .zero => List.replicate count '\x00'
  | .full => List.replicate count '\x00'
  | .noise => (List.range count).map fun i => Char.ofNat ((i * i * 7 + i * 31 + 89) % 256)
  | _ => []

/-- Reads from a node, through an open file, what `cut` leaves of the bytes from its place on. -/
def readNode (process : Process) (kernel : Kernel) (file n offset count : Nat) (byLine : Bool) :
    Served Text :=
  match kernel.disk.content? n with
  | some (.device device) => grant process kernel (deviceBytes device (if byLine then 1 else count))
  | some (.fifo _) => refuse process kernel .invalid
  | _ =>
    match kernel.disk.bytes n with
    | .error refusal => refuse process kernel refusal
    | .ok bytes =>
      let text := ofByteArray bytes offset (offset + count)
      let text := if byLine then (Pipe.cutLine text).1 else text
      let kernel := kernel.modifyFile file fun file => { file with offset := offset + text.length }
      grant process kernel text

/-- How much is looked through for the end of a line at once. -/
def lineBlock : Nat := 1024

/-- Reads from a descriptor. -/
def readFrom (process : Process) (kernel : Kernel) (descriptor count : Nat) (byLine : Bool) :
    Served Text :=
  match kernel.file? process descriptor with
  | none => refuse process kernel .badDescriptor
  | some (index, file) =>
    if ¬ file.reads then refuse process kernel .badDescriptor
    else
      match file.target with
      | .node n => readNode process kernel index n file.offset count byLine
      | .pipe pipe =>
        match kernel.pipes[pipe]? with
        | none => refuse process kernel .badDescriptor
        | some found =>
          if found.size = 0 then
            if found.writers = 0 then grant process kernel []
            else (.waits (.readable pipe), process, kernel)
          else
            let (text, after) := if byLine then found.takeLine else found.take count
            let kernel := kernel.modifyPipe pipe fun _ => after
            grant process (kernel.wakeWriters process.clock pipe) text

/-- Writes to a pipe what it takes.  Where nobody reads, the writer gets a signal. -/
def writePipe (process : Process) (kernel : Kernel) (pipe : Nat) (text : Text) : Served Nat :=
  match kernel.pipes[pipe]? with
  | none => refuse process kernel .badDescriptor
  | some found =>
    if found.readers = 0 then
      (.sends Signal.brokenPipe [process.number] (.error .brokenPipe), process, kernel)
    else
      let length := text.length
      let count := found.admitted length
      if count = 0 ∧ length ≠ 0 then (.waits (.writable pipe), process, kernel)
      else
        let kernel := kernel.modifyPipe pipe fun found =>
          found.push (if count = length then text else text.take count) count
        grant process (kernel.wakeReaders process.clock pipe) count

/-- Writes to a descriptor. -/
def writeTo (process : Process) (kernel : Kernel) (descriptor : Nat) (text : Text) : Served Nat :=
  match kernel.file? process descriptor with
  | none => refuse process kernel .badDescriptor
  | some (index, file) =>
    if ¬ file.writes then refuse process kernel .badDescriptor
    else
      match file.target with
      | .pipe pipe => writePipe process kernel pipe text
      | .node n =>
        match kernel.disk.content? n with
        | some (.device .full) => refuse process kernel .noSpace
        | some (.device _) => grant process kernel text.length
        | _ =>
          let offset := if file.appends then kernel.disk.size n else file.offset
          let bytes := toByteArray text
          let disk := kernel.disk.write n process.stamp offset bytes
          let kernel := { kernel with disk }.modifyFile index fun file =>
            { file with offset := offset + bytes.size }
          grant process kernel bytes.size

/-- The place in an open file. -/
def offsetOf (process : Process) (kernel : Kernel) (descriptor : Nat) : Served Nat :=
  match kernel.file? process descriptor with
  | none => refuse process kernel .badDescriptor
  | some (_, file) =>
    match file.target with
    | .node _ => grant process kernel file.offset
    | _ => refuse process kernel .noOffset

/-- Sets the place in an open file. -/
def seekTo (process : Process) (kernel : Kernel) (descriptor offset : Nat) : Served Unit :=
  match kernel.file? process descriptor with
  | none => refuse process kernel .badDescriptor
  | some (index, file) =>
    match file.target with
    | .node _ => grant process (kernel.modifyFile index fun file => { file with offset }) ()
    | _ => refuse process kernel .noOffset

/-! ### Looking at nodes -/

/-- What a content is to those who look at it. -/
def kindOf : Content → FileKind
  | .directory _ _ => .directory
  | .regular _ => .regular
  | .program _ => .regular
  | .link _ => .link
  | .fifo _ => .fifo
  | .device _ => .device

/-- What is known of a node. -/
def infoOf (kernel : Kernel) (n : Nat) : Except Refusal FileInfo :=
  match kernel.disk.nodes[n]? with
  | none => .error .noEntry
  | some node =>
    .ok ⟨n, kindOf node.content, node.permissions, kernel.disk.size n, node.modified, node.names⟩

/-- Pipes without a name are numbered from here on where nodes are. -/
def firstPipe : Nat := 1000000

/-- What is known of what a descriptor stands for. -/
def infoOfOpen (kernel : Kernel) (process : Process) (descriptor : Nat) :
    Except Refusal FileInfo :=
  match kernel.file? process descriptor with
  | none => .error .badDescriptor
  | some (_, file) =>
    match file.target with
    | .node n => kernel.infoOf n
    | .pipe pipe => .ok ⟨firstPipe + pipe, .fifo, 0o600, 0, 0, 1⟩

/-- What is known of the node that a path leads to. -/
def inspect (kernel : Kernel) (process : Process) (path : Text) (follow : Bool) :
    Except Refusal FileInfo := do
  let n ← kernel.disk.locate process.directory path follow
  match kernel.disk.content? n with
  | some (.device (.descriptor descriptor)) =>
    match kernel.infoOfOpen process descriptor with
    | .ok info => return info
    | .error _ => throw .noEntry
  | _ => kernel.infoOf n

/-- The names in a directory, in order.  A device that stands for a descriptor is only there if the
process has the descriptor. -/
def listDirectory (kernel : Kernel) (process : Process) (path : Text) :
    Except Refusal (List Text) := do
  let n ← kernel.disk.locate process.directory path true
  if ¬ kernel.disk.isDirectory n then throw .notDirectory
  let present (node : Nat) : Bool :=
    match kernel.disk.content? node with
    | some (.device (.descriptor descriptor)) => (kernel.file? process descriptor).isSome
    | _ => true
  let names := ((kernel.disk.entries n).filter fun entry => present entry.2).map Prod.fst
  return names.mergeSort isNotAfter

/-- The text of a link. -/
def linkText (kernel : Kernel) (process : Process) (path : Text) : Except Refusal Text := do
  let n ← kernel.disk.locate process.directory path false
  match kernel.disk.content? n with
  | some (.link target) => return target
  | _ => throw .invalid

/-! ### Changing names -/

/-- The place for a new name. -/
def newPlace (kernel : Kernel) (process : Process) (path : Text) : Except Refusal Disk.PathEnd := do
  let place ← kernel.disk.pathEnd process.directory path false
  if place.node.isSome then throw .alreadyThere
  return place

/-- The disk with a new node at the end of a path. -/
def addAt (kernel : Kernel) (process : Process) (path : Text) (permissions : Nat)
    (content : Nat → Content) : Except Refusal Disk := do
  let place ← kernel.newPlace process path
  let node := content place.directory
  if Disk.endsInSlash path ∧ kindOf node ≠ .directory then throw .noEntry
  return (kernel.disk.add place.directory process.stamp place.name node permissions).1

/-- The disk with one more name for a node. -/
def addName (kernel : Kernel) (process : Process) (old new : Text) : Except Refusal Disk := do
  let n ← kernel.disk.locate process.directory old false
  let place ← kernel.newPlace process new
  if kernel.disk.isDirectory n then throw .notPermitted
  if Disk.endsInSlash new then throw .noEntry
  return kernel.disk.link place.directory process.stamp place.name n

/-- The disk without a file. -/
def removeFile (kernel : Kernel) (process : Process) (path : Text) : Except Refusal Disk := do
  let place ← kernel.disk.pathEnd process.directory path false
  match place.node with
  | none => throw .noEntry
  | some n =>
    if kernel.disk.isDirectory n then throw .isDirectory
    return kernel.disk.unlink place.directory process.stamp place.name

/-- A path ends in a slash, and without it leads to a link. -/
def isLinkBehindSlash (kernel : Kernel) (process : Process) (path : Text) : Bool :=
  let bare := (path.reverse.dropWhile (· == '/')).reverse
  Disk.endsInSlash path && !bare.isEmpty &&
    match kernel.disk.locate process.directory bare false with
    | .ok n =>
      match kernel.disk.content? n with
      | some (.link _) => true
      | _ => false
    | .error _ => false

/-- The disk without a directory, which must hold nothing. -/
def removeDirectory (kernel : Kernel) (process : Process) (path : Text) : Except Refusal Disk := do
  let place ← kernel.disk.pathEnd process.directory path false
  match place.node with
  | none => throw .noEntry
  | some n =>
    if ¬ kernel.disk.isDirectory n then throw .notDirectory
    if kernel.isLinkBehindSlash process path then throw .notDirectory
    if place.name = ['.'] then throw (if n = Disk.root then .busy else .invalid)
    if ¬ (kernel.disk.entries n).isEmpty then throw .notEmpty
    return kernel.disk.unlink place.directory process.stamp place.name

/-- The disk with a node under another name. -/
def rename (kernel : Kernel) (process : Process) (old new : Text) : Except Refusal Disk := do
  let disk := kernel.disk
  let source ← disk.pathEnd process.directory old false
  if kernel.isLinkBehindSlash process old then throw .notDirectory
  let target ← disk.pathEnd process.directory new false
  match source.node with
  | none => throw .noEntry
  | some n =>
    let moving := disk.isDirectory n
    if source.name ∈ [['.'], ['.', '.']] ∨ target.name ∈ [['.'], ['.', '.']] then throw .busy
    if Disk.endsInSlash new ∧ ¬ moving then throw .notDirectory
    if target.node = some n then return disk
    if moving ∧ disk.isWithin n (disk.nodes.size + 1) target.directory then throw .invalid
    match target.node with
    | some other =>
      if moving ∧ ¬ disk.isDirectory other then throw .notDirectory
      if ¬ moving ∧ disk.isDirectory other then throw .isDirectory
      if ¬ (disk.entries other).isEmpty then throw .notEmpty
    | none => pure ()
    let time := process.stamp
    let disk := disk.unlink target.directory time target.name
    let disk := disk.link target.directory time target.name n
    let disk := disk.unlink source.directory time source.name
    return disk.setParent n target.directory

/-- The disk with the node that a path leads to changed. -/
def modifyAt (kernel : Kernel) (process : Process) (path : Text) (change : Node → Node) :
    Except Refusal Disk := do
  let n ← kernel.disk.locate process.directory path true
  return kernel.disk.modify n change

end TaskRunner.Kernel
