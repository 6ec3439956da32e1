import TaskRunner.Text.CharClass
import TaskRunner.Text.Layout

/-! Texts as a shell would read them again.  Each kind of quotes has its use: the plain shell stands
everything between single quotes, and the richer one quotes no more than it has to. -/

namespace TaskRunner.Shell

/-- A text between single quotes.  Quotes in it stand between double ones. -/
def quotedParts : Nat → Text → Text
  | 0, _ => []
  | fuel + 1, text =>
    let part := text.takeWhile (· != '\'')
    let rest := text.drop part.length
    let quotes := rest.takeWhile (· == '\'')
    let rest := rest.drop quotes.length
    ['\''] ++ part ++ ['\''] ++
      (if quotes.isEmpty then [] else ['"'] ++ quotes ++ ['"']) ++
      (if rest.isEmpty then [] else quotedParts fuel rest)

/-- A text as the plain shell would read it between single quotes. -/
def singleQuoted (text : Text) : Text :=
  quotedParts (text.length + 1) text

/-- A text between single quotes.  Quotes in it stand outside, behind a backslash. -/
def closedQuoted (text : Text) : Text :=
  '\'' :: (text.flatMap fun c => if c = '\'' then "'\\''".toList else [c]) ++ ['\'']

/-- A text holds a character that has no shape, or one beyond the first 128. -/
def hasControl (text : Text) : Bool :=
  text.any fun c => c.toNat < 32 || 127 ≤ c.toNat

/-- A text between single quotes with escapes for what has no shape. -/
def escapedQuoted (text : Text) : Text :=
  let part (c : Char) : Text := match c with
    | '\x07' => ['\\', 'a']
    | '\x08' => ['\\', 'b']
    | '\x0b' => ['\\', 'v']
    | '\x0c' => ['\\', 'f']
    | '\n' => ['\\', 'n']
    | '\t' => ['\\', 't']
    | '\r' => ['\\', 'r']
    | '\x1b' => ['\\', 'E']
    | '\'' => ['\\', '\'']
    | '\\' => ['\\', '\\']
    | c =>
      if 32 ≤ c.toNat ∧ c.toNat < 127 then [c]
      else '\\' :: (Layout.mk [] 3 (some 3)).unsigned 'o' c.toNat
  ['$', '\''] ++ text.flatMap part ++ ['\'']

/-- The character with a number.  Beyond the first 128 it is written as an escape, since it has no
shape where letters are bytes. -/
def numberedChar (n : Nat) : Text :=
  if n < 128 then [Char.ofNat n]
  else if n < 65536 then "\\u" ++ (Layout.mk [] 4 (some 4)).unsigned 'X' n
  else "\\U" ++ (Layout.mk [] 8 (some 8)).unsigned 'X' n

/-- A text between double quotes. -/
def doubleQuoted (text : Text) : Text :=
  '"' :: (text.flatMap fun c => if "\"\\$\x60".toList.contains c then ['\\', c] else [c]) ++ ['"']

/-- The characters that mean something to the richer shell wherever they stand. -/
def shellSigns : Text := " \t\n'\"\\|&;()<>!\x7b\x7d*[]?^$\x60".toList

/-- A tilde, or a number sign, means something where it stands in a text: at the front, and the
tilde behind an equals sign or a colon too. -/
def meansPlace (before : Option Char) (c : Char) : Bool :=
  match c with
  | '~' => before.isNone || before == some '=' || before == some ':'
  | '#' => before.isNone
  | _ => false

/-- A text means something else to the richer shell than itself, with the character before it. -/
def hasSigns (before : Option Char) : Text → Bool
  | [] => false
  | c :: cs => shellSigns.contains c || meansPlace before c || hasSigns (some c) cs

/-- A text with a backslash in front of each character that means something, with the character
before it. -/
def backslashed (before : Option Char) : Text → Text
  | [] => []
  | c :: cs =>
    let quoted := shellSigns.contains c || c == ',' || meansPlace before c
    (if quoted then ['\\', c] else [c]) ++ backslashed (some c) cs

/-- A text quoted as shortly as the richer shell can. -/
def quotedForShell (text : Text) : Text :=
  if text.isEmpty then ['\'', '\'']
  else if hasControl text then escapedQuoted text
  else backslashed none text

/-- A text between quotes as the richer shell reads it again. -/
def quotedAgain (text : Text) : Text :=
  if hasControl text then escapedQuoted text else closedQuoted text

/-- A text between double quotes as the richer shell declares it. -/
def quotedValue (text : Text) : Text :=
  if hasControl text then escapedQuoted text else doubleQuoted text

/-- A text as the richer shell shows it where quotes may be left out. -/
def quotedIfNeeded (text : Text) : Text :=
  if hasControl text then escapedQuoted text
  else if hasSigns none text then closedQuoted text
  else text

/-- A word as the richer shell shows it in a trace. -/
def tracedWord (text : Text) : Text :=
  if text.isEmpty then ['\'', '\'']
  else if hasSigns none text then closedQuoted text
  else if hasControl text then escapedQuoted text
  else text

end TaskRunner.Shell
