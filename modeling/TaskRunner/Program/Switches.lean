import TaskRunner.Program.Basic

/-! Switches: the arguments of a program that begin with a dash, and the operands between them. -/

namespace TaskRunner

/-- Something is wrong with what was given. -/
def wrong {α : Type} (message : Text) : Except Text α := .error message

/-- Whether a switch has a value, which it may be possible to leave out. -/
inductive Need where
  | nothing
  | value
  | maybe
deriving DecidableEq, Repr

/-- The switches of a program: the letters without and with a value and those whose value may be
left out, and the long names, each with the key that it has in common with a letter.  A program may
take what follows the first operand as operands. -/
structure Switches where
  flags : String
  valued : String
  maybe : String
  long : List (String × Need × String)
  stops : Bool

/-- The switches and the operands of a call. -/
structure Options where
  given : List (String × Option Text)
  operands : List Text
deriving DecidableEq, Repr

namespace Options

/-- The switch is given. -/
def has (options : Options) (key : String) : Bool :=
  options.given.any fun entry => entry.1 == key

/-- The values of a switch. -/
def values (options : Options) (key : String) : List Text :=
  options.given.filterMap fun entry => if entry.1 = key then entry.2 else none

/-- The last value of a switch. -/
def value? (options : Options) (key : String) : Option Text :=
  (options.values key).getLast?

/-- The last one of some switches that is given. -/
def lastOf (options : Options) (keys : List String) : Option String :=
  ((options.given.filter fun entry => keys.contains entry.1).getLast?).map Prod.fst

end Options

namespace Switches

/-- The switches of a program that has only letters. -/
def letters (flags valued : String) : Switches := ⟨flags, valued, "", [], false⟩

/-- Whether a letter is a switch, and what value it has. -/
def need? (switches : Switches) (letter : Char) : Option Need :=
  if switches.flags.toList.contains letter then some .nothing
  else if switches.valued.toList.contains letter then some .value
  else if switches.maybe.toList.contains letter then some .maybe
  else none

/-- The switches among the letters of an argument, and the arguments after it. -/
def readLetters (switches : Switches) : Text → List Text →
    Except Text (List (String × Option Text) × List Text)
  | [], rest => .ok ([], rest)
  | letter :: letters, rest => do
    let key := String.singleton letter
    match switches.need? letter with
    | none => throw ("invalid option -- '" ++ letter :: ['\''])
    | some .nothing =>
      let (given, rest) ← readLetters switches letters rest
      return ((key, none) :: given, rest)
    | some .maybe => return ([(key, if letters.isEmpty then none else some letters)], rest)
    | some .value =>
      match letters, rest with
      | [], [] => throw ("option requires an argument -- '" ++ letter :: ['\''])
      | [], value :: rest => return ([(key, some value)], rest)
      | value, rest => return ([(key, some value)], rest)

/-- The long name that a name means: the same one, or the only one that it begins. -/
def longNamed (switches : Switches) (name : Text) : Except Text (String × Need × String) := do
  let candidates := switches.long.filter fun entry => name.isPrefixOf entry.1.toList
  match candidates.find? fun entry => entry.1.toList == name, candidates with
  | some entry, _ => return entry
  | none, [] => throw ("unrecognized option '--" ++ name ++ ['\''])
  | none, entry :: others =>
    if others.all fun other => other.2 == entry.2 then return entry
    else
      let shown (entry : String × Need × String) : Text := " '--" ++ ofString entry.1 ++ "'"
      throw ("option '--" ++ name ++ "' is ambiguous; possibilities:" ++ candidates.flatMap shown)

/-- The switch that a long argument is, and the arguments after it. -/
def readLong (switches : Switches) (argument : Text) (rest : List Text) :
    Except Text ((String × Option Text) × List Text) := do
  let name := argument.takeWhile (· != '=')
  let attached : Option Text := if name.length < argument.length then
      some (argument.drop (name.length + 1))
    else none
  let (long, need, key) ← switches.longNamed name
  let option : Text := "option '--" ++ ofString long
  match need, attached, rest with
  | .nothing, none, _ => return ((key, none), rest)
  | .nothing, some _, _ => throw (option ++ "' doesn't allow an argument")
  | .maybe, _, _ => return ((key, attached), rest)
  | .value, some value, _ => return ((key, some value), rest)
  | .value, none, value :: rest => return ((key, some value), rest)
  | .value, none, [] => throw (option ++ "' requires an argument")

/-- The switches and the operands among some arguments, with a bound on how many there are. -/
def readAll (switches : Switches) : Nat → List Text → Except Text Options
  | 0, _ => .ok ⟨[], []⟩
  | _ + 1, [] => .ok ⟨[], []⟩
  | fuel + 1, argument :: rest =>
    match argument with
    | ['-', '-'] => .ok ⟨[], rest⟩
    | '-' :: '-' :: name => do
      let (given, rest) ← switches.readLong name rest
      let more ← readAll switches fuel rest
      return { more with given := given :: more.given }
    | '-' :: c :: cs => do
      let (given, rest) ← switches.readLetters (c :: cs) rest
      let more ← readAll switches fuel rest
      return { more with given := given ++ more.given }
    | operand =>
      if switches.stops then .ok ⟨[], operand :: rest⟩
      else do
        let more ← readAll switches fuel rest
        return { more with operands := operand :: more.operands }

/-- The switches and the operands among some arguments, or what is wrong with them. -/
def read (switches : Switches) (arguments : List Text) : Except Text Options :=
  switches.readAll (arguments.length + 1) arguments

end Switches

namespace Tool

/-- The task of a program with switches.  What is wrong with the arguments is complained about, and
the status is then the one of misuse. -/
def withOptions (misused failure : Nat) (switches : Switches) (call : Call)
    (body : Options → Tool Unit) : Task :=
  task failure call do
    match switches.read call.arguments with
    | .ok options => body options
    | .error message => misuse misused message

end Tool

end TaskRunner
