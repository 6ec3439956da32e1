import TaskRunner.Program.Switches

/-! What programs read: files by name, block by block or line by line. -/

namespace TaskRunner

/-- A line, and whether the mark of its end was there. -/
structure Line where
  text : Text
  ended : Bool
deriving DecidableEq, Repr

namespace Line

/-- The line with the mark of its end, if that was there. -/
def whole (line : Line) (mark : Char) : Text :=
  if line.ended then line.text ++ [mark] else line.text

end Line

/-- Something that is read: the descriptor, what was read and not used yet, and whether that is all.
-/
structure Source where
  descriptor : Nat
  ahead : Text
  ended : Bool
deriving DecidableEq, Repr

namespace Source

/-- A source from which nothing was read. -/
def ofDescriptor (descriptor : Nat) : Source := ⟨descriptor, [], false⟩

/-- How much programs read at once. -/
def block : Nat := 4096

/-- The line up to a mark in a text, and the text after it. -/
def cut? (mark : Char) (text : Text) : Option (Text × Text) :=
  let line := text.takeWhile (· != mark)
  match text.drop line.length with
  | [] => none
  | _ :: rest => some (line, rest)

/-- The next line, of which there is none at the end, and the source after it. -/
def line (source : Source) (mark : Char) (block : Nat) :
    Act (Except Refusal (Option Line) × Source) :=
  let step (found : Source × List Text) :
      Act ((Source × List Text) ⊕ (Except Refusal (Option Line) × Source)) := do
    let (source, parts) := found
    match cut? mark source.ahead with
    | some (text, rest) =>
      return .inr
        (.ok (some ⟨(text :: parts).reverse.flatten, true⟩), { source with ahead := rest })
    | none =>
      let parts := if source.ahead.isEmpty then parts else source.ahead :: parts
      let source := { source with ahead := [] }
      if source.ended then
        if parts.isEmpty then return .inr (.ok none, source)
        else return .inr (.ok (some ⟨parts.reverse.flatten, false⟩), source)
      else
        match ← Act.ask (.read source.descriptor block) with
        | .ok [] => return .inl ({ source with ended := true }, parts)
        | .ok text => return .inl ({ source with ahead := text }, parts)
        | .error .interrupted => return .inl (source, parts)
        | .error refusal => return .inr (.error refusal, { source with ended := true })
  Act.repeatFrom step (fun found => pure (.ok none, found.1)) Act.manyTurns (source, [])

/-- Puts back what was read and not used, where that is possible. -/
def giveBack (source : Source) : Act Unit := do
  if source.ahead.isEmpty then return
  match ← Act.ask (.offset source.descriptor) with
  | .error _ => return
  | .ok offset =>
    let _ ← Act.ask (.seek source.descriptor (offset - source.ahead.length))

end Source

namespace Tool

/-- What stands for the standard input among the operands. -/
def standardInput : Text := ['-']

/-- Opens a file for reading. -/
def openInput (path : Text) : Tool (Except Refusal Nat) :=
  ask (.openFile path .input 0)

/-- The operands, or the standard input if there are none. -/
def inputsOf (operands : List Text) : List Text :=
  if operands.isEmpty then [standardInput] else operands

/-- Carries a state through the files that can be opened.  A complaint about what cannot be opened
sets the status. -/
def foldInputs {σ : Type} (failure : Nat) (complaint : Text → Refusal → Text)
    (operands : List Text) (state : σ) (body : σ → Text → Nat → Tool σ) : Tool σ :=
  fold (fun state path => do
    if path = standardInput then body state path 0
    else
      match ← openInput path with
      | .error refusal => do
        complain failure (complaint path refusal)
        return state
      | .ok descriptor => do
        let state ← body state path descriptor
        let _ ← ask (.close descriptor)
        return state) state (inputsOf operands)

/-- Does something with each file that can be opened. -/
def eachInput (failure : Nat) (complaint : Text → Refusal → Text) (operands : List Text)
    (body : Text → Nat → Tool Unit) : Tool Unit :=
  foldInputs failure complaint operands () fun _ => body

/-- A complaint that names a file and says why. -/
def about (path : Text) (refusal : Refusal) : Text :=
  shownName path ++ ": " ++ refusal.message

/-- A complaint that says what could not be done to a file, and why. -/
def aboutQuoted (front : String) (path : Text) (refusal : Refusal) : Text :=
  front ++ quotedName path ++ ": " ++ refusal.message

/-- Complains about what came of reading if it failed. -/
def complainIf (failure : Nat) (complaint : Refusal → Text) : Except Refusal Unit → Tool Unit
  | .ok () => pure ()
  | .error refusal => complain failure (complaint refusal)

/-- Does something with each line of a source. -/
def eachLine {σ : Type} (source : Source) (mark : Char) (state : σ)
    (body : σ → Line → Tool σ) : Tool (Except Refusal Unit × σ) :=
  loop (fun found : Source × σ => do
    match ← act (found.1.line mark Source.block) with
    | (.ok none, _) => return .inr (.ok (), found.2)
    | (.ok (some line), source) => return .inl (source, ← body found.2 line)
    | (.error refusal, _) => return .inr (.error refusal, found.2))
    (fun found => pure (.ok (), found.2)) (source, state)

/-- The lines that are left in a text, up to the marks of their ends. -/
def linesOf (mark : Char) : Nat → Text → List Line
  | 0, _ => []
  | _ + 1, [] => []
  | fuel + 1, text =>
    match Source.cut? mark text with
    | some (line, rest) => ⟨line, true⟩ :: linesOf mark fuel rest
    | none => [⟨text, false⟩]

end Tool

end TaskRunner
