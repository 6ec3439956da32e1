import TaskRunner.Text.CharClass

/-! How programs show their arguments in what they say.  Quotes stand around an argument, and what
is not visible is escaped; the name of a file is shown as one would write it for a shell. -/

namespace TaskRunner

/-- The letter that stands for a control character after a backslash. -/
def controlLetter? (c : Char) : Option Char :=
  [('\x07', 'a'), ('\x08', 'b'), ('\t', 't'), ('\n', 'n'), ('\x0b', 'v'), ('\x0c', 'f'),
    ('\r', 'r')].lookup c

/-- The three octal digits of a byte. -/
def octalByte (c : Char) : Text :=
  [c.toNat / 64, c.toNat / 8 % 8, c.toNat % 8].map fun digit => Char.ofNat (48 + digit)

/-- A byte that is not visible: a letter or three octal digits after a backslash. -/
def escapedByte (c : Char) : Text :=
  match controlLetter? c with
  | some letter => ['\\', letter]
  | none => '\\' :: octalByte c

/-- An argument between quotes. -/
def quoted (argument : Text) : Text :=
  let shown (c : Char) : Text :=
    if c = '\'' ∨ c = '\\' then ['\\', c] else if isPrinted c then [c] else escapedByte c
  '\'' :: argument.flatMap shown ++ ['\'']

/-- The rest of a name between quotes, after a byte that was escaped or after one that was not. -/
def quotedRest : Bool → Text → Text
  | _, [] => ['\'']
  | escaping, c :: cs =>
    if isPrinted c then
      (if escaping then ['\'', '\''] else []) ++
        (if c = '\'' then ['\'', '\\', '\'', '\''] else [c]) ++ quotedRest false cs
    else
      (if escaping then [] else ['\'', '$', '\'']) ++ escapedByte c ++ quotedRest true cs

/-- A byte that means the same between both kinds of quotes. -/
def isQuoteNeutral (c : Char) : Bool :=
  c.isAlphanum || " '%+,-./:]_".toList.contains c

/-- The name of a file between quotes. -/
def quotedName (name : Text) : Text :=
  if name.contains '\'' ∧ name.all isQuoteNeutral then '"' :: name ++ ['"']
  else '\'' :: quotedRest false name

/-- A name that a shell reads as it is. -/
def isPlainName (name : Text) : Bool :=
  let isPlain (c : Char) : Bool :=
    isPrinted c && !" '!\"$&()*:;<=>?[\\^\x60|".toList.contains c
  match name with
  | [] => false
  | c :: cs =>
    name.all isPlain && c != '#' && c != '~' && !(cs.isEmpty && (c == '\x7b' || c == '\x7d'))

/-- The name of a file, between quotes if a shell would need them. -/
def shownName (name : Text) : Text :=
  if isPlainName name then name else quotedName name

end TaskRunner
