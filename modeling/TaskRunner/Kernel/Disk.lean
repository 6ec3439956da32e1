import TaskRunner.Kernel.Refusal
import TaskRunner.Text.Octet

/-! Disks.  A disk is a row of nodes; directories give names to nodes, and a path leads from node to
node by names.  The root is node zero. -/

namespace TaskRunner

/-- A device that a node stands for.  A descriptor device stands for what the process that opens it
has open under that number. -/
inductive Device where
  | null
  | zero
  | full
  | noise
  | terminal
  | descriptor (n : Nat)
deriving DecidableEq, Repr

/-- What a node holds. -/
inductive Content where
  | directory (parent : Nat) (entries : List (Text × Nat))
  | regular (bytes : ByteArray)
  | program (name : String)
  | link (target : Text)
  | fifo (pipe : Nat)
  | device (device : Device)

/-- A node: what it holds, who may do what with it, when it was last changed, and how many names
lead to it. -/
structure Node where
  content : Content
  permissions : Nat
  modified : Nat
  names : Nat

/-- A disk. -/
structure Disk where
  nodes : Array Node

namespace Disk

/-- The root. -/
def root : Nat := 0

/-- The longest name, in bytes. -/
def maxName : Nat := 255

/-- The longest path, in bytes. -/
def maxPath : Nat := 4095

/-- The most links that a path may lead through. -/
def maxLinks : Nat := 40

/-- The permissions that are asked for a new file. -/
def plainPermissions : Nat := 0o666

/-- The permissions that are asked for a new directory. -/
def widePermissions : Nat := 0o777

/-- The permissions without those that a mask takes away. -/
def masked (permissions mask : Nat) : Nat :=
  permissions &&& (0o7777 ^^^ (mask &&& 0o777))

/-- The disk of an empty root. -/
def empty : Disk := ⟨#[⟨.directory root [], 0o755, 0, 1⟩]⟩

/-- What a node holds. -/
def content? (disk : Disk) (n : Nat) : Option Content :=
  disk.nodes[n]?.map Node.content

/-- The node is a directory. -/
def isDirectory (disk : Disk) (n : Nat) : Bool :=
  match disk.content? n with
  | some (.directory _ _) => true
  | _ => false

/-- The names in a directory and where they lead. -/
def entries (disk : Disk) (n : Nat) : List (Text × Nat) :=
  match disk.content? n with
  | some (.directory _ entries) => entries
  | _ => []

/-- The directory that a directory lies in. -/
def parent (disk : Disk) (n : Nat) : Nat :=
  match disk.content? n with
  | some (.directory parent _) => parent
  | _ => root

/-- The node that a name in a directory leads to. -/
def entry? (disk : Disk) (directory : Nat) (name : Text) : Option Nat :=
  if name = ['.'] then some directory
  else if name = ['.', '.'] then some (disk.parent directory)
  else (disk.entries directory).lookup name

/-- The disk with a node changed. -/
def modify (disk : Disk) (n : Nat) (change : Node → Node) : Disk :=
  ⟨disk.nodes.modify n change⟩

/-- The disk with the names in a directory changed. -/
def modifyEntries (disk : Disk) (directory time : Nat)
    (change : List (Text × Nat) → List (Text × Nat)) : Disk :=
  disk.modify directory fun node =>
    match node.content with
    | .directory parent entries =>
      { node with content := .directory parent (change entries), modified := time }
    | _ => node

/-- The disk with one more name for a node. -/
def link (disk : Disk) (directory time : Nat) (name : Text) (n : Nat) : Disk :=
  (disk.modifyEntries directory time fun entries => entries ++ [(name, n)]).modify n fun node =>
    { node with names := node.names + 1 }

/-- The disk without a name. -/
def unlink (disk : Disk) (directory time : Nat) (name : Text) : Disk :=
  match (disk.entries directory).lookup name with
  | none => disk
  | some n =>
    (disk.modifyEntries directory time fun entries =>
      entries.filter fun entry => entry.1 != name).modify n fun node =>
        { node with names := node.names - 1 }

/-- The disk with a new node under a name, and the number of the node. -/
def add (disk : Disk) (directory time : Nat) (name : Text) (content : Content)
    (permissions : Nat) : Disk × Nat :=
  let n := disk.nodes.size
  (Disk.link ⟨disk.nodes.push ⟨content, permissions, time, 0⟩⟩ directory time name n, n)

/-- The disk with a new directory under a name, and the number of the directory. -/
def addDirectory (disk : Disk) (directory time : Nat) (name : Text) (permissions : Nat) :
    Disk × Nat :=
  disk.add directory time name (.directory directory []) permissions

/-- The disk with a directory below another one. -/
def setParent (disk : Disk) (n parent : Nat) : Disk :=
  disk.modify n fun node =>
    match node.content with
    | .directory _ entries => { node with content := .directory parent entries }
    | _ => node

/-! ### Bytes of files -/

/-- Bytes with others written over them from a place on.  Zeros fill a gap before it. -/
def overwrite (bytes : ByteArray) (offset : Nat) (new : ByteArray) : ByteArray :=
  let gap := offset - bytes.size
  let bytes := gap.fold (fun _ _ bytes => bytes.push 0) bytes
  new.copySlice 0 bytes offset new.size

/-- The disk with bytes written into a file. -/
def write (disk : Disk) (n time offset : Nat) (new : ByteArray) : Disk :=
  disk.modify n fun node =>
    match node with
    | ⟨.regular bytes, permissions, _, names⟩ =>
      ⟨.regular (overwrite bytes offset new), permissions, time, names⟩
    | node => node

/-- The disk with a file emptied. -/
def clear (disk : Disk) (n time : Nat) : Disk :=
  disk.modify n fun node =>
    match node.content with
    | .regular _ => { node with content := .regular .empty, modified := time }
    | _ => node

/-- The number of bytes of a node. -/
def size (disk : Disk) (n : Nat) : Nat :=
  match disk.content? n with
  | some (.regular bytes) => bytes.size
  | some (.link target) => target.length
  | some (.directory _ _) => 4096
  | some (.program _) => 65536
  | _ => 0

/-- The bytes that programs begin with.  They are no text. -/
def programBytes : ByteArray := ⟨#[0x7f, 0x45, 0x4c, 0x46, 0xff]⟩

/-- The bytes of a file. -/
def bytes (disk : Disk) (n : Nat) : Except Refusal ByteArray :=
  match disk.content? n with
  | some (.regular bytes) => .ok bytes
  | some (.program _) => .ok programBytes
  | some (.directory _ _) => .error .isDirectory
  | some (.device .null) => .ok .empty
  | _ => .error .noEntry

/-! ### Paths -/

/-- Where a path ends: a name in a directory, and the node that it leads to if there is one. -/
structure PathEnd where
  directory : Nat
  name : Text
  node : Option Nat
deriving DecidableEq, Repr

/-- The names that a path consists of. -/
def pathNames (path : Text) : List Text :=
  (path.splitOn '/').filter (· ≠ [])

/-- The place that names lead to from a node.  A link on the way is followed, and one at the end if
`follow` says so; `links` bounds how many. -/
def walk (disk : Disk) (follow : Bool) (links n : Nat) (names : List Text) :
    Except Refusal PathEnd :=
  match names with
  | [] => .ok ⟨n, ['.'], some n⟩
  | name :: rest =>
    if ¬ disk.isDirectory n then .error .notDirectory
    else if maxName < name.length then .error .nameTooLong
    else
      match disk.entry? n name with
      | none => if rest = [] then .ok ⟨n, name, none⟩ else .error .noEntry
      | some next =>
        match disk.content? next, links with
        | some (.link target), links =>
          if rest = [] ∧ ¬ follow then .ok ⟨n, name, some next⟩
          else
            match links with
            | 0 => .error .linksTooDeep
            | links + 1 =>
              if target = [] then .error .noEntry
              else
                let start := if target.head? = some '/' then root else n
                walk disk follow links start (pathNames target ++ rest)
        | _, links =>
          if rest = [] then .ok ⟨n, name, some next⟩ else walk disk follow links next rest
termination_by (links, names.length)

/-- A path ends in a slash, and so must lead to a directory. -/
def endsInSlash (path : Text) : Bool :=
  path.getLast? == some '/'

/-- The place that a path leads to.  Nothing need be there. -/
def pathEnd (disk : Disk) (current : Nat) (path : Text) (follow : Bool) :
    Except Refusal PathEnd := do
  if path = [] then throw .noEntry
  if maxPath < path.length then throw .nameTooLong
  let start := if path.head? = some '/' then root else current
  let found ← disk.walk (follow || endsInSlash path) maxLinks start (pathNames path)
  match found.node with
  | some n => if endsInSlash path && !disk.isDirectory n then throw .notDirectory
  | none => pure ()
  return found

/-- The node that a path leads to. -/
def locate (disk : Disk) (current : Nat) (path : Text) (follow : Bool) : Except Refusal Nat := do
  match (← disk.pathEnd current path follow).node with
  | some n => return n
  | none => throw .noEntry

/-- The names from the root to a directory, the last one first. -/
def namesAbove (disk : Disk) : Nat → Nat → Option (List Text)
  | 0, _ => none
  | fuel + 1, n =>
    if n = root then some []
    else do
      let parent := disk.parent n
      let entry ← (disk.entries parent).find? fun entry => entry.2 == n
      return entry.1 :: (← disk.namesAbove fuel parent)

/-- The path from the root to a directory. -/
def pathTo? (disk : Disk) (n : Nat) : Option Text :=
  (disk.namesAbove (disk.nodes.size + 1) n).map fun names =>
    if names = [] then ['/'] else names.reverse.flatMap fun name => '/' :: name

/-- The path from the root to the node that a path leads to, without links on the way. -/
def canonical? (disk : Disk) (current : Nat) (path : Text) : Option Text := do
  let found ← (disk.pathEnd current path true).toOption
  let n ← found.node
  if disk.isDirectory n then disk.pathTo? n
  else
    let directory ← disk.pathTo? found.directory
    return (if directory = ['/'] then [] else directory) ++ '/' :: found.name

/-- A directory is another one or lies below it. -/
def isWithin (disk : Disk) (outer : Nat) : Nat → Nat → Bool
  | 0, _ => false
  | fuel + 1, n => n == outer || (n != root && disk.isWithin outer fuel (disk.parent n))

/-- The disk with the directories that names lead to, and the last one of them. -/
def withDirectories (disk : Disk) (n time : Nat) : List Text → Disk × Nat
  | [] => (disk, n)
  | name :: rest =>
    match disk.entry? n name with
    | some next => disk.withDirectories next time rest
    | none =>
      let (disk, next) := disk.addDirectory n time name 0o755
      disk.withDirectories next time rest

/-- The disk with a file, and with the directories on the way to it.  A path that ends in a slash is
that of a directory. -/
def withFile (disk : Disk) (current time : Nat) (path : Text) (content : Content)
    (permissions : Nat) : Disk :=
  let names := pathNames path
  let start := if path.head? = some '/' then root else current
  if endsInSlash path then (disk.withDirectories start time names).1
  else
    let (disk, directory) := disk.withDirectories start time names.dropLast
    let name := names.getLastD ['.']
    ((disk.unlink directory time name).add directory time name content permissions).1

/-- What lies below a directory, with the paths that lead there from it.  A directory stands before
what it holds. -/
def below (disk : Disk) : Nat → Nat → List (Text × Content)
  | 0, _ => []
  | depth + 1, n =>
    (disk.entries n).flatMap fun entry =>
      match disk.content? entry.2 with
      | none => []
      | some content =>
        (entry.1, content) ::
          (disk.below depth entry.2).map fun found => (entry.1 ++ '/' :: found.1, found.2)

end Disk

end TaskRunner
