import TaskRunner.Token
import TaskRunner.Text.Hidden

/-! Tokens as a listing shows them.  The text of a token stands between double quotes, with quotes,
backslashes and characters that leave no mark written as escapes. -/

namespace TaskRunner

/-- The code point of `c` in lower-case hexadecimal digits. -/
def hexDigits (c : Char) : List Char :=
  Nat.toDigits 16 c.toNat

/-- A character as it stands between the quotes. -/
def escapeChar (c : Char) : List Char :=
  if c = '"' then ['\\', '"']
  else if c = '\\' then ['\\', '\\']
  else if c = '\n' then ['\\', 'n']
  else if c = '\r' then ['\\', 'r']
  else if c = '\t' then ['\\', 't']
  else if c = '\x00' then ['\\', '0']
  else if isHidden c then ['\\', 'u', '\x7b'] ++ hexDigits c ++ ['\x7d']
  else [c]

/-- Text between quotes, escaped. -/
def quoteEscaped (text : List Char) : List Char :=
  '"' :: text.flatMap escapeChar ++ ['"']

namespace Token

/-- A longer text is cut in a listing. -/
def listedLength : Nat := 50

/-- The number of characters shown of a text that is cut. -/
def shownLength : Nat := 10

/-- The kind, and the text in quotes. -/
def listing (token : Token) : String :=
  let text := token.text.toList
  let shown :=
    if listedLength < text.length then quoteEscaped (text.take shownLength) ++ "...".toList
    else quoteEscaped text
  token.kind.name ++ "(" ++ String.ofList shown ++ ")"

end Token

end TaskRunner
