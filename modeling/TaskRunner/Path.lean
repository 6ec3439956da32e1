import TaskRunner.Text.Split

/-! Paths of files.  A path is text in which slashes separate the components; empty components and
components that are a dot count for nothing, except that a dot may begin a path. -/

namespace TaskRunner.Path

/-- The part of a path that stands for no component: a slash or a dot at the front. -/
def root (path : List Char) : List Char :=
  match path with
  | '/' :: _ => ['/']
  | ['.'] => ['.']
  | '.' :: '/' :: _ => ['.']
  | _ => []

/-- A component that counts for nothing. -/
def isTrivial (component : List Char) : Bool :=
  component == [] || component == ['.']

/-- The components without those at the end that count for nothing. -/
def dropTrivialEnd (components : List (List Char)) : List (List Char) :=
  (components.reverse.dropWhile isTrivial).reverse

/-- The components after the root, up to the last that counts. -/
def components (path : List Char) : List (List Char) :=
  dropTrivialEnd (splitAt '/' (path.drop (root path).length))

/-- The components after the root that count. -/
def names (path : List Char) : List (List Char) :=
  (components path).filter fun component => !isTrivial component

/-- Two texts are the same path: they differ at most in what counts for nothing. -/
def same (a b : String) : Bool :=
  root a.toList == root b.toList && names a.toList == names b.toList

theorem same_self (path : String) : same path path = true := by
  simp [same]

/-- The path of the directory that a path lies in.  A path without components lies in none, and the
answer is the empty path. -/
def parentChars (path : List Char) : List Char :=
  if (components path).isEmpty then []
  else root path ++ joinWith '/' (dropTrivialEnd (components path).dropLast)

/-- The path of the directory that a path lies in. -/
def parent (path : String) : String :=
  String.ofList (parentChars path.toList)

/-- The path that leads from `base` along `relative`. -/
def join (base relative : String) : String :=
  if relative.toList.head? = some '/' then relative
  else if base = "" ∨ base.toList.getLast? = some '/' then base ++ relative
  else base ++ "/" ++ relative

/-- The last component, if it is a name. -/
def fileName? (path : List Char) : Option (List Char) :=
  match (components path).getLast? with
  | none => none
  | some ['.', '.'] => none
  | some name => some name

/-- What follows the last dot of a name that does not begin with it. -/
def extensionOf? (name : List Char) : Option (List Char) :=
  match (splitAt '.' name).reverse with
  | last :: before :: [] => if before.isEmpty then none else some last
  | last :: _ => if (splitAt '.' name).length < 2 then none else some last
  | [] => none

/-- What follows the last dot of the file name. -/
def extension? (path : String) : Option String :=
  ((fileName? path.toList).bind extensionOf?).map String.ofList

end TaskRunner.Path
