import TaskRunner.Shell.Expand

/-! Redirections: making descriptors stand for other files while a command is carried out, and
taking that back. -/

namespace TaskRunner.Shell

open Exec

/-- What a descriptor is to stand for. -/
inductive Source where
  | file (path : Text) (mode : OpenMode) (keeps : Bool)
  | copy (descriptor : Nat)
  | nothing
  | text (content : Text)
  | refused (complaint : Text)

/-- A redirection whose words are expanded. -/
structure Prepared where
  descriptor : Nat
  source : Source

/-- For each descriptor that was redirected another one that stands for what it stood for before, or
nothing if it was closed. -/
abbrev Kept := List (Nat × Option Nat)

/-! ### Preparing -/

section

variable (capture : Command → Exec Text) (stream : Bool → Command → Exec Text)

/-- A word about as it was written. -/
def writtenWord (word : Word) : Text :=
  word.flatMap fun piece =>
    match piece with
    | .text _ content => content
    | .parameter _ name _ _ => '$' :: ofString name
    | _ => []

/-- The file that a word of a redirection names. -/
def expandTarget (word : Word) (mode : OpenMode) (keeps : Bool) : Exec Source := do
  match (← get).dialect with
  | .plain => return .file (← expandText capture stream word) mode keeps
  | .rich =>
    match ← expandWord capture stream word with
    | [path] => return .file path mode keeps
    | _ => return .refused (writtenWord word ++ ": ambiguous redirect")

/-- The descriptor that a text names. -/
def descriptorOf (descriptor : Nat) (text : Text) : Exec Source := do
  match (← get).dialect, text with
  | _, ['-'] => return .nothing
  | .plain, [c] =>
    if c.isDigit then return .copy (digitsValue [c]) else fail "Syntax error: Bad fd number"
  | .plain, _ => fail "Syntax error: Bad fd number"
  | .rich, text =>
    if text ≠ [] ∧ text.all Char.isDigit then return .copy (digitsValue text)
    else if descriptor = 1 then return .file text .output false
    else return .refused (text ++ ": ambiguous redirect")

/-- A redirection with its words expanded. -/
def prepareOne : Redirection → Exec (List Prepared)
  | .read descriptor path => do
    return [⟨descriptor, ← expandTarget capture stream path .input false⟩]
  | .write descriptor path always => do
    let keeps := !always && (← get).options.contains 'C'
    return [⟨descriptor, ← expandTarget capture stream path .output keeps⟩]
  | .append descriptor path => do
    return [⟨descriptor, ← expandTarget capture stream path .addition false⟩]
  | .both descriptor path => do
    return [⟨descriptor, ← expandTarget capture stream path .both false⟩]
  | .copy descriptor source => do
    return [⟨descriptor, ← descriptorOf descriptor (← expandText capture stream source)⟩]
  | .here descriptor content => do
    return [⟨descriptor, .text (← expandText capture stream content)⟩]
  | .writeAll path appends => do
    let mode : OpenMode := if appends then .addition else .output
    return [⟨1, ← expandTarget capture stream path mode false⟩, ⟨2, .copy 1⟩]

/-- Redirections with their words expanded. -/
def prepare (redirections : List Redirection) : Exec (List Prepared) := do
  return (← redirections.mapM (prepareOne capture stream)).flatten

end

/-! ### Taking effect -/

/-- Why a file cannot be opened, as the shell puts it. -/
def openingReason (creates : Bool) : Refusal → String
  | .noEntry => if creates then "Directory nonexistent" else "No such file"
  | .notDirectory => if creates then "Directory nonexistent" else "No such file"
  | refusal => refusal.message

/-- Gives up a redirection with a complaint. -/
def failRedirection {α : Type} (path : Text) (creates : Bool) (refusal : Refusal) : Exec α := do
  match (← get).dialect, refusal with
  | .plain, refusal =>
    fail ((if creates then "cannot create " else "cannot open ") ++ path ++ ": " ++
      openingReason creates refusal)
  | .rich, .alreadyThere => failWith 1 (path ++ ": cannot overwrite existing file")
  | .rich, refusal => failWith 1 (path ++ ": " ++ refusal.message)

/-- Opens a file, which must not be a regular one that is there already if `keeps` says so. -/
def openFor (path : Text) (mode : OpenMode) (keeps : Bool) : Exec Nat := do
  let opened (mode : OpenMode) : Exec Nat := do
    match ← ask (.openFile path mode Disk.plainPermissions) with
    | .ok descriptor => return descriptor
    | .error refusal => failRedirection path mode.creates refusal
  if keeps then
    match ← ask (.inspect path true) with
    | .error _ => opened .fresh
    | .ok info =>
      if info.kind = .regular then failRedirection path true .alreadyThere
      else opened { mode with creates := true, empties := false }
  else opened mode

/-- Makes another descriptor stand for what one stands for.  There is none if it is closed. -/
def keepDescriptor (descriptor : Nat) : Exec (Option Nat) := do
  match ← ask (.copyAbove descriptor 10) with
  | .ok other => return some other
  | .error _ => return none

/-- The descriptor that a source was opened under, and whether it was opened for the redirection. -/
def openSource (prepared : Prepared) : Exec (Option Nat × Bool) :=
  match prepared.source with
  | .file path mode keeps => do return (some (← openFor path mode keeps), true)
  | .text content => do
    match ← ask (.openText content) with
    | .ok opened => return (some opened, true)
    | .error _ => return (none, false)
  | .nothing => return (none, false)
  | .copy source => return (some source, false)
  | .refused complaint => failWith 1 complaint

/-- Makes a descriptor stand for what another one stands for, or for nothing.  The other one is
closed if it was opened for this. -/
def pointAt (descriptor : Nat) (opened : Option Nat) (fresh : Bool) : Exec Bool := do
  match opened with
  | none =>
    let _ ← ask (.close descriptor)
    return true
  | some source =>
    let reply ← ask (.copy source descriptor)
    if fresh then
      let _ ← ask (.close source)
    match reply with
    | .ok () => return true
    | .error refusal =>
      complain (toString source ++ ": " ++ refusal.message : String)
      setStatus (if (← get).dialect = .plain then 2 else 1)
      return false

/-- Lets redirections take effect one after the other, as far as they can.  What their descriptors
stood for before is kept. -/
def redirect (kept : Kept) : List Prepared → Exec (Kept × Bool)
  | [] => return (kept, true)
  | prepared :: rest => do
    let descriptor := prepared.descriptor
    match ← outcomeOf (openSource prepared) with
    | .error _ => return (kept, false)
    | .ok (opened, fresh) =>
      let isSame := opened == some descriptor
      if isSame ∧ ¬ fresh then redirect kept rest
      else
        let kept ←
          if (kept.lookup descriptor).isSome then pure kept
          else if isSame then pure ((descriptor, none) :: kept)
          else do pure ((descriptor, ← keepDescriptor descriptor) :: kept)
        if isSame then redirect kept rest
        else if ← pointAt descriptor opened fresh then redirect kept rest
        else return (kept, false)

/-- Takes redirections back. -/
def restore : Kept → Exec Unit
  | [] => return
  | (descriptor, other) :: rest => do
    match other with
    | some other =>
      let _ ← ask (.copy other descriptor)
      let _ ← ask (.close other)
    | none =>
      let _ ← ask (.close descriptor)
    restore rest

/-- Makes redirections last. -/
def forget : Kept → Exec Unit
  | [] => return
  | (_, other) :: rest => do
    match other with
    | some other =>
      let _ ← ask (.close other)
    | none => pure ()
    forget rest

end TaskRunner.Shell
