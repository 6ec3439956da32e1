import TaskRunner.Regex

/-! How regular expressions are written: in the basic style, where a backslash makes signs of braces
and parentheses, or in the extended one, where it makes plain characters of them. -/

namespace TaskRunner.Regex

/-- The style of an expression.  A strict one finds fault with repetitions of nothing. -/
structure Style where
  extended : Bool
  strict : Bool
deriving DecidableEq, Repr

/-- Why a text is no regular expression. -/
inductive Fault where
  | openBracket
  | openGroup
  | closeGroup
  | openBraces
  | braces
  | rangeEnd
  | className
  | collation
  | trailingBackslash
  | backReference
  | repetition
  | tooBig
  | incomplete
deriving DecidableEq, Repr

/-- The text shown to a user. -/
def Fault.message : Fault → String
  | openBracket => "Unmatched [, [^, [:, [., or [="
  | openGroup => "Unmatched ( or \\("
  | closeGroup => "Unmatched ) or \\)"
  | openBraces => "Unmatched \\\x7b"
  | braces => "Invalid content of \\\x7b\\\x7d"
  | rangeEnd => "Invalid range end"
  | className => "Invalid character class name"
  | collation => "Invalid collation character"
  | trailingBackslash => "Trailing backslash"
  | backReference => "Invalid back reference"
  | repetition => "Invalid preceding regular expression"
  | tooBig => "Regular expression too big"
  | incomplete => "Invalid regular expression"

/-! ### Brackets -/

/-- An element of a bracket: a character or a class. -/
inductive Element where
  | char (c : Char)
  | named (holds : Char → Bool)

/-- The text between a mark and the same mark with a closing bracket, and the text after it. -/
def untilMark (mark : Char) : Text → Option (Text × Text)
  | [] => none
  | c :: cs =>
    match c == mark, cs with
    | true, ']' :: rest => some ([], rest)
    | _, _ => (untilMark mark cs).map fun found => (c :: found.1, found.2)

/-- The element at the front of a text, and the text after it. -/
def elementAt (text : Text) : Except Fault (Element × Text) :=
  match text with
  | [] => .error .openBracket
  | '[' :: ':' :: cs =>
    match untilMark ':' cs with
    | none => .error .openBracket
    | some (name, rest) =>
      match characterClass? name with
      | some holds => .ok (.named holds, rest)
      | none => .error .className
  | '[' :: mark :: cs =>
    if mark = '.' ∨ mark = '=' then
      match untilMark mark cs with
      | none => .error .openBracket
      | some ([c], rest) => .ok (.char c, rest)
      | some _ => .error .collation
    else .ok (.char '[', mark :: cs)
  | c :: cs => .ok (.char c, cs)

/-- The element that ends a range, and the text after it. -/
def rangeEndAt (text : Text) : Except Fault (Char × Text) := do
  match ← elementAt text with
  | (.char c, rest) => return (c, rest)
  | (.named _, _) => throw .rangeEnd

/-- The characters of a bracket up to its end, and the text after it. -/
def bracketRest : Nat → Bool → List (Char → Bool) → Text → Except Fault (List (Char → Bool) × Text)
  | 0, _, _, _ => .error .openBracket
  | fuel + 1, first, before, text =>
    match first, text with
    | false, ']' :: rest => .ok (before, rest)
    | _, _ => do
      if !first && text.head? == some '-' then
        match text.tail.head? with
        | some ']' => pure ()
        | none => throw .openBracket
        | _ => throw .rangeEnd
      match ← elementAt text with
      | (.named holds, rest) => bracketRest fuel false (holds :: before) rest
      | (.char low, rest) =>
        match rest with
        | '-' :: ']' :: _ => bracketRest fuel false ((· == low) :: before) rest
        | '-' :: more => do
          let (high, rest) ← rangeEndAt more
          if high < low then throw .rangeEnd
          bracketRest fuel false ((fun c => low ≤ c && c ≤ high) :: before) rest
        | _ => bracketRest fuel false ((· == low) :: before) rest

/-- The characters of a bracket, and the text after it. -/
def bracketAt (text : Text) : Except Fault ((Char → Bool) × Text) := do
  let (negated, members) := match text with
    | '^' :: members => (true, members)
    | members => (false, members)
  if members.isEmpty then throw .incomplete
  let (found, rest) ← bracketRest (members.length + 1) true [] members
  return (fun c => found.any (fun holds => holds c) != negated, rest)

/-! ### Signs -/

/-- A sign of an expression. -/
inductive Sign where
  | char (c : Char)
  | escaped (c : Char)
  | any
  | bracket
  | caret
  | dollar
  | openGroup
  | closeGroup
  | either
  | star
  | plus
  | option
  | braces
deriving DecidableEq, Repr

/-- The sign that a character is where it is not plain. -/
def movingSign? : Char → Option Sign
  | '(' => some .openGroup
  | ')' => some .closeGroup
  | '|' => some .either
  | '+' => some .plus
  | '?' => some .option
  | '\x7b' => some .braces
  | _ => none

/-- The sign at the front of a text, and the text after it. -/
def signAt (style : Style) : Text → Option (Sign × Text)
  | [] => none
  | '\\' :: c :: rest =>
    match style.extended, movingSign? c with
    | false, some sign => some (sign, rest)
    | _, _ => some (.escaped c, rest)
  | c :: rest =>
    match c with
    | '.' => some (.any, rest)
    | '[' => some (.bracket, rest)
    | '^' => some (.caret, rest)
    | '$' => some (.dollar, rest)
    | '*' => some (.star, rest)
    | c =>
      match style.extended, movingSign? c with
      | true, some sign => some (sign, rest)
      | _, _ => some (.char c, rest)

/-- The expression that an escaped letter stands for, if it stands for more than itself. -/
def escape? : Char → Option Regex
  | 'w' => some (.one isNameChar)
  | 'W' => some (.one fun c => !isNameChar c)
  | 's' => some (.one isSpaceChar)
  | 'S' => some (.one fun c => !isSpaceChar c)
  | 'b' => some (.edge .wordEdge)
  | 'B' => some (.edge .noWordEdge)
  | '<' => some (.edge .wordStart)
  | '>' => some (.edge .wordEnd)
  | '\x60' => some (.edge .textStart)
  | '\'' => some (.edge .textEnd)
  | _ => none

/-! ### Repetitions -/

/-- The most often that something can be repeated. -/
def maxRepetitions : Nat := 32767

/-- The text up to a comma or to closing braces, and the rest of it. -/
def boundAt (close : Text) : Text → Text × Text
  | [] => ([], [])
  | c :: rest =>
    if c = ',' ∨ close.isPrefixOf (c :: rest) then ([], c :: rest)
    else
      let (bound, rest) := boundAt close rest
      (c :: bound, rest)

/-- The bounds of a repetition between braces, and the text after them.  Braces around something
else are at fault, but in a style that is extended and not strict they stand for themselves, and
there are no bounds. -/
def bracesAt (style : Style) (text : Text) : Except Fault (Option ((Nat × Option Nat) × Text)) :=
  let close : Text := if style.extended then ['\x7d'] else ['\\', '\x7d']
  let unsound (fault : Fault) : Except Fault (Option ((Nat × Option Nat) × Text)) :=
    if style.extended ∧ ¬ style.strict then .ok none else .error fault
  let sound (least : Nat) (most : Option Nat) (rest : Text) :
      Except Fault (Option ((Nat × Option Nat) × Text)) :=
    if most.any (· < least) ∨ rest.head? = some ',' then .error .braces
    else if maxRepetitions < most.getD least then .error .tooBig
    else .ok (some ((least, most), rest.drop close.length))
  let (low, rest) := boundAt close text
  if rest.isEmpty then unsound .openBraces
  else if ¬ low.all Char.isDigit then unsound .braces
  else
    match rest with
    | ',' :: more =>
      let (high, rest) := boundAt close more
      if rest.isEmpty then unsound .openBraces
      else if ¬ high.all Char.isDigit then unsound .braces
      else sound (digitsValue low) (wholeNumber? high) rest
    | rest =>
      if low.isEmpty then .error .braces
      else sound (digitsValue low) (some (digitsValue low)) rest

/-- A part with the repetitions that follow it, and the text after them.  `again` says that one has
been met. -/
def withRepetitions (style : Style) : Nat → Bool → Regex → Text → Except Fault (Regex × Text)
  | 0, _, part, text => .ok (part, text)
  | fuel + 1, again, part, text =>
    let forbidden := again && style.strict && !style.extended
    match signAt style text with
    | some (.star, rest) =>
      if forbidden then .error .repetition
      else withRepetitions style fuel true (.repeated 0 none part) rest
    | some (.plus, rest) => withRepetitions style fuel true (.repeated 1 none part) rest
    | some (.option, rest) => withRepetitions style fuel true (.repeated 0 (some 1) part) rest
    | some (.braces, rest) =>
      if forbidden then .error .repetition
      else
        match bracesAt style rest with
        | .ok (some ((least, most), rest)) =>
          withRepetitions style fuel true (.repeated least most part) rest
        | .ok none => .ok (part, text)
        | .error fault => .error fault
    | _ => .ok (part, text)

/-! ### Expressions -/

/-- What has been read: an expression, how many groups were opened, and which were closed. -/
structure Reading where
  regex : Regex
  opened : Nat
  closed : List Nat

/-- The text stands at the end of an alternative. -/
def atEnd (style : Style) (text : Text) : Bool :=
  match signAt style text with
  | none => text.isEmpty
  | some (.closeGroup, _) => true
  | some (.either, _) => true
  | _ => false

mutual

/-- Alternatives up to the end of a group or of the text, and the text after them.  `depth` is the
number of groups around them. -/
def readAlternatives (style : Style) : Nat → Nat → Nat → List Nat → Text →
    Except Fault (Reading × Text)
  | 0, _, _, _, _ => .error .tooBig
  | fuel + 1, depth, opened, closed, text => do
    let (first, rest) ← readParts style fuel depth true [] opened closed text
    match signAt style rest with
    | some (.either, rest) =>
      let (second, rest) ← readAlternatives style fuel depth first.opened first.closed rest
      return ({ second with regex := .either first.regex second.regex }, rest)
    | _ => return (first, rest)

/-- The parts of an alternative, and the text after them.  `fresh` says that nothing stands before
that could be repeated, and `before` holds the parts so far, the last one first. -/
def readParts (style : Style) : Nat → Nat → Bool → List Regex → Nat → List Nat → Text →
    Except Fault (Reading × Text)
  | 0, _, _, _, _, _, _ => .error .tooBig
  | fuel + 1, depth, fresh, before, opened, closed, text =>
    let done : Except Fault (Reading × Text) := .ok (⟨all before.reverse, opened, closed⟩, text)
    let goOn (part : Regex) (rest : Text) : Except Fault (Reading × Text) := do
      let (part, rest) ← withRepetitions style (rest.length + 1) false part rest
      readParts style fuel depth false (part :: before) opened closed rest
    let bare (edge : Edge) (fresh : Bool) (rest : Text) : Except Fault (Reading × Text) :=
      readParts style fuel depth fresh (.edge edge :: before) opened closed rest
    /- A repetition sign with nothing before it. -/
    let idle (c : Char) (rest : Text) : Except Fault (Reading × Text) :=
      if ¬ style.extended then goOn (.char c) rest
      else if style.strict then .error .repetition
      else readParts style fuel depth fresh before opened closed rest
    match signAt style text with
    | none => if text.isEmpty then done else .error .trailingBackslash
    | some (sign, rest) =>
      match sign with
      | .char c => if c = '\\' then .error .trailingBackslash else goOn (.char c) rest
      | .any => goOn .any rest
      | .bracket => do
        let (holds, rest) ← bracketAt rest
        goOn (.one holds) rest
      | .caret =>
        if style.extended || fresh then bare .lineStart true rest else goOn (.char '^') rest
      | .dollar =>
        if style.extended || atEnd style rest then
          if style.extended then goOn (.edge .lineEnd) rest else bare .lineEnd false rest
        else goOn (.char '$') rest
      | .escaped c =>
        if c.isDigit ∧ c ≠ '0' then
          let n := c.toNat - '0'.toNat
          if closed.contains n then goOn (.back n) rest else .error .backReference
        else goOn ((escape? c).getD (.char c)) rest
      | .openGroup => do
        let n := opened + 1
        let (inner, rest) ← readAlternatives style fuel (depth + 1) n closed rest
        match signAt style rest with
        | some (.closeGroup, rest) =>
          let (part, rest) ←
            withRepetitions style (rest.length + 1) false (.group n inner.regex) rest
          readParts style fuel depth false (part :: before) inner.opened (n :: inner.closed) rest
        | _ => throw .openGroup
      | .closeGroup =>
        if depth ≠ 0 then done
        else if style.extended ∧ ¬ style.strict then goOn (.char ')') rest
        else .error .closeGroup
      | .either => done
      | .star => if fresh then idle '*' rest else goOn (.char '*') rest
      | .plus => if fresh then idle '+' rest else goOn (.char '+') rest
      | .option => if fresh then idle '?' rest else goOn (.char '?') rest
      | .braces =>
        if ¬ style.strict then goOn (.char '\x7b') rest
        else .error .repetition

end

/-- The expression that a text stands for. -/
def ofText (style : Style) (text : Text) : Except Fault Regex := do
  let (reading, _) ← readAlternatives style (4 * text.length + 4) 0 0 [] text
  return reading.regex

end TaskRunner.Regex
