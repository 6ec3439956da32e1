import TaskRunner.Shell.Syntax

/-! Patterns.  A star stands for any text, a question mark for any character, and a bracket for any
of the characters it lists; a backslash makes the next character stand for itself.  Where groups are
known, a sign before a list of patterns in brackets says how often one of them is there. -/

namespace TaskRunner.Shell

/-- A member of a bracket: the characters of a range, or those of a class. -/
inductive Member where
  | range (low high : Char)
  | ofClass (holds : Char → Bool)

/-- How often the patterns of a group stand for a part of a text. -/
inductive Often where
  | once
  | atMostOnce
  | anyTimes
  | atLeastOnce
  /-- The group stands for a text that none of its patterns stands for. -/
  | never
deriving DecidableEq, Repr

/-- The meaning of the sign before a group. -/
def Often.ofSign? : Char → Option Often
  | '@' => some .once
  | '?' => some .atMostOnce
  | '*' => some .anyTimes
  | '+' => some .atLeastOnce
  | '!' => some .never
  | _ => none

/-- A part of a pattern. -/
inductive PatternItem where
  | one (c : Char)
  | any
  | many
  | among (negated : Bool) (members : List Member)
  | group (often : Often) (choices : List (List PatternItem))

/-- The class that is named in front of a text, behind its opening mark, and the text after it. -/
def classAt? : Text → Option ((Char → Bool) × Text)
  | ':' :: text =>
    let name := text.takeWhile Char.isAlpha
    match text.drop name.length with
    | ':' :: ']' :: rest => (characterClass? name).map fun holds => (holds, rest)
    | _ => none
  | _ => none

/-- A character of a bracket without the backslash before it, and the text after it. -/
def bracketChar? : Text → Option (Char × Text)
  | [] => none
  | ['\\'] => none
  | '\\' :: c :: rest => some (c, rest)
  | c :: rest => some (c, rest)

/-- The members of a bracket up to its end, and the text after it.  A bracket at the very front is a
member. -/
def bracketMembers : Nat → Bool → Text → Option (List Member × Text)
  | 0, _, _ => none
  | fuel + 1, first, text =>
    match text, first with
    | ']' :: rest, false => some ([], rest)
    | _, _ =>
      match if text.head? = some '[' then classAt? text.tail else none with
      | some (holds, rest) =>
        (bracketMembers fuel false rest).map fun r => (.ofClass holds :: r.1, r.2)
      | none =>
        match bracketChar? text with
        | none => none
        | some (low, rest) =>
          let range := match rest with
            | '-' :: next => if next.head? = some ']' then none else bracketChar? next
            | _ => none
          match range with
          | some (high, rest) =>
            (bracketMembers fuel false rest).map fun r => (.range low high :: r.1, r.2)
          | none => (bracketMembers fuel false rest).map fun r => (.range low low :: r.1, r.2)

/-- A text put before the first choice of a group. -/
def beforeChoices (text : Text) : List Text × Text → List Text × Text
  | ([], rest) => ([text], rest)
  | (choice :: choices, rest) => ((text ++ choice) :: choices, rest)

/-- The choices of a group up to its end, and the text after it.  Groups may be nested to a depth,
and what is between square brackets ends no choice. -/
def choicesIn : Nat → Bool → Text → Option (List Text × Text)
  | _, _, [] => none
  | depth, inside, '\\' :: c :: rest =>
    (choicesIn depth inside rest).map (beforeChoices ['\\', c])
  | depth, true, c :: rest => (choicesIn depth (c != ']') rest).map (beforeChoices [c])
  | depth, false, c :: rest =>
    match depth, c with
    | 0, ')' => some ([[]], rest)
    | 0, '|' => (choicesIn 0 false rest).map fun found => ([] :: found.1, found.2)
    | depth + 1, ')' => (choicesIn depth false rest).map (beforeChoices [')'])
    | depth, '(' => (choicesIn (depth + 1) false rest).map (beforeChoices ['('])
    | depth, c => (choicesIn depth (c == '[') rest).map (beforeChoices [c])

/-- The group at the front of a text: how often its choices are there, the choices, and the text
after it. -/
def groupAt? : Text → Option (Often × List Text × Text)
  | c :: '(' :: rest => do
    let often ← Often.ofSign? c
    let (choices, rest) ← choicesIn 0 false rest
    return (often, choices, rest)
  | _ => none

/-- The parts of a pattern.  In the richer language a caret negates a bracket too. -/
def patternItems (dialect : Dialect) (groups : Bool) : Nat → Text → List PatternItem
  | 0, _ => []
  | _ + 1, [] => []
  | fuel + 1, c :: rest =>
    match if groups then groupAt? (c :: rest) else none with
    | some (often, choices, rest) =>
      .group often (choices.map (patternItems dialect groups fuel)) ::
        patternItems dialect groups fuel rest
    | none =>
      match c with
      | '\\' =>
        match rest with
        | [] => [.one '\\']
        | d :: rest => .one d :: patternItems dialect groups fuel rest
      | '?' => .any :: patternItems dialect groups fuel rest
      | '*' => .many :: patternItems dialect groups fuel rest
      | '[' =>
        let negated := rest.head? == some '!' || (dialect == .rich && rest.head? == some '^')
        match bracketMembers (rest.length + 1) true (if negated then rest.tail else rest) with
        | some (members, rest) => .among negated members :: patternItems dialect groups fuel rest
        | none => .one '[' :: patternItems dialect groups fuel rest
      | c => .one c :: patternItems dialect groups fuel rest

/-- A pattern in parts. -/
abbrev Pattern := List PatternItem

/-- The pattern that a text is, where groups may be known. -/
def Pattern.read (dialect : Dialect) (groups : Bool) (text : Text) : Pattern :=
  patternItems dialect groups (text.length + 1) text

/-- The pattern that a text is, without groups. -/
def Pattern.ofText (dialect : Dialect) (text : Text) : Pattern :=
  Pattern.read dialect false text

/-- The member holds a character. -/
def Member.holds (c : Char) : Member → Bool
  | .range low high => low ≤ c && c ≤ high
  | .ofClass holds => holds c

/-- Something holds for a text or for what is left when its front is taken away. -/
def anySuffix (holds : Text → Bool) : Text → Bool
  | [] => holds []
  | c :: cs => holds (c :: cs) || anySuffix holds cs

/-- The places in a text that steps lead to from some first places. -/
def reached (step : Text → List Nat) (text : Text) (first : List Nat) : List Nat :=
  (List.range (text.length + 1)).foldl
    (fun places n =>
      if places.contains n then
        (places ++ (step (text.drop n)).map (· + n)).eraseDups
      else places)
    first

mutual

/-- How many characters at the front of a text a part of a pattern may stand for. -/
def PatternItem.ends : PatternItem → Text → List Nat
  | .one c, text => if text.head? = some c then [1] else []
  | .any, text => if text.isEmpty then [] else [1]
  | .many, text => List.range (text.length + 1)
  | .among negated members, text =>
    match text with
    | [] => []
    | c :: _ => if members.any (Member.holds c) != negated then [1] else []
  | .group often choices, text =>
    match often with
    | .once => choiceEnds choices text
    | .atMostOnce => 0 :: choiceEnds choices text
    | .anyTimes => reached (fun text => choiceEnds choices text) text [0]
    | .atLeastOnce =>
      reached (fun text => choiceEnds choices text) text (choiceEnds choices text)
    | .never =>
      (List.range (text.length + 1)).filter fun n =>
        !(choiceEnds choices (text.take n)).contains n

/-- How many characters at the front of a text the parts of a pattern may stand for. -/
def itemEnds : List PatternItem → Text → List Nat
  | [], _ => [0]
  | item :: rest, text =>
    ((item.ends text).flatMap fun n => (itemEnds rest (text.drop n)).map (· + n)).eraseDups

/-- How many characters at the front of a text one of some patterns may stand for. -/
def choiceEnds : List (List PatternItem) → Text → List Nat
  | [], _ => []
  | items :: rest, text => itemEnds items text ++ choiceEnds rest text

end

/-- A pattern stands for the whole of a text. -/
def Pattern.fits : Pattern → Text → Bool
  | [], text => text.isEmpty
  | .many :: rest, text => anySuffix (Pattern.fits rest) text
  | .one c :: rest, text =>
    match text with
    | [] => false
    | d :: text => c == d && Pattern.fits rest text
  | .any :: rest, text =>
    match text with
    | [] => false
    | _ :: text => Pattern.fits rest text
  | .among negated members :: rest, text =>
    match text with
    | [] => false
    | d :: text => (members.any (Member.holds d) != negated) && Pattern.fits rest text
  | .group often choices :: rest, text =>
    ((PatternItem.group often choices).ends text).any fun n => Pattern.fits rest (text.drop n)

/-- The text holds a character that need not stand for itself in a pattern, or the sign of a
group where groups are known. -/
def hasWildcard (groups : Bool) : Text → Bool
  | [] => false
  | '\\' :: _ :: rest => hasWildcard groups rest
  | c :: rest =>
    c == '*' || c == '?' || c == '[' ||
      (groups && (c == '@' || c == '+' || c == '!') && rest.head? == some '(') ||
      hasWildcard groups rest

/-- The text without the backslashes that make characters stand for themselves. -/
def withoutEscapes : Text → Text
  | [] => []
  | ['\\'] => ['\\']
  | '\\' :: c :: rest => c :: withoutEscapes rest
  | c :: rest => c :: withoutEscapes rest

/-- The part of a text that a pattern is compared with: what comes before the first NUL. -/
def visiblePart (text : Text) : Text :=
  text.takeWhile (· != '\x00')

/-- The text without the shortest or longest part at one end that a pattern stands for. -/
def Pattern.cut (suffix longest : Bool) (pattern : Pattern) (text : Text) : Text :=
  let lengths := List.range (text.length + 1)
  let fitsFrom (n : Nat) : Bool := pattern.fits (visiblePart (text.drop n))
  let fitsUpTo (n : Nat) : Bool := pattern.fits (visiblePart (text.take n))
  let found := match suffix, longest with
    | true, true => (List.range ((visiblePart text).length + 1)).find? fitsFrom
    | true, false => lengths.reverse.find? fitsFrom
    | false, true => lengths.reverse.find? fitsUpTo
    | false, false => lengths.find? fitsUpTo
  match found with
  | some n => if suffix then text.take n else text.drop n
  | none => text

end TaskRunner.Shell
