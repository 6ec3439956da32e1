import TaskRunner.Machine

/-! Changes of what lies below the directory of a machine: what has to be done there to make it that
of another machine. -/

namespace TaskRunner

/-- A change below a directory, at a path that begins there. -/
inductive Change where
  | deleteFile (path : Text)
  | deleteDirectory (path : Text)
  | makeDirectory (path : Text)
  | writeFile (path : Text) (content : ByteArray)

namespace Change

/-- The change that takes something away. -/
def deletion? (entry : Text × Content) : Option Change :=
  match entry.2 with
  | .regular _ => some (.deleteFile entry.1)
  | .directory _ _ => some (.deleteDirectory entry.1)
  | _ => none

/-- The change that puts something into place. -/
def creation? (entry : Text × Content) : Option Change :=
  match entry.2 with
  | .regular content => some (.writeFile entry.1 content)
  | .directory _ _ => some (.makeDirectory entry.1)
  | _ => none

/-- A directory stays a directory, and a file a file. -/
def agree (a b : Content) : Bool :=
  match a, b with
  | .directory _ _, .directory _ _ => true
  | .regular _, .regular _ => true
  | _, _ => false

/-- Nothing changes. -/
def isSame (a b : Content) : Bool :=
  match a, b with
  | .directory _ _, .directory _ _ => true
  | .regular a, .regular b => a.data == b.data
  | _, _ => false

/-- One of some entries has the path of another one and is like it. -/
def hasLike (like_ : Content → Content → Bool) (entries : List (Text × Content))
    (entry : Text × Content) : Bool :=
  entries.any fun other => other.1 == entry.1 && like_ other.2 entry.2

/-- The changes that lead from some entries to later ones.  What is in a directory is deleted before
it and made after it. -/
def between (before after : List (Text × Content)) : List Change :=
  (before.reverse.filter fun entry => !hasLike agree after entry).filterMap deletion? ++
    (after.filter fun entry => !hasLike isSame before entry).filterMap creation?

end Change

/-- How deep the directories of a machine are looked through. -/
def Machine.depth : Nat := 64

/-- What lies below the directory of a machine. -/
def Machine.entries (machine : Machine) : List (Text × Content) :=
  machine.kernel.disk.below Machine.depth machine.directory

end TaskRunner
