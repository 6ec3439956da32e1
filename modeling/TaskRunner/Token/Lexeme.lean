import TaskRunner.Text.Letter

/-! Lexemes: the pieces into which a source text falls.  Every character of the text belongs to
exactly one of them, so the spellings of the lexemes, joined, give the text back.

An opening brace is read in one of two ways.  Where a script may follow, everything up to the brace
that closes the block belongs to its lexeme; elsewhere the brace stands alone. -/

namespace TaskRunner

/-- A character that separates tokens and means nothing else. -/
def isSpace (c : Char) : Bool :=
  c == ' ' || c == '\t' || c == '\r' || c == '\n'

/-- A character that a word may begin with. -/
def isWordStart (c : Char) : Bool :=
  c == '$' || isLetter c

/-- A character that a word may go on with. -/
def isWordChar (c : Char) : Bool :=
  isLetter c || isNumeral c || c == '_' || c == '-' || c == '.' || c == '/' || c == '$' || c == ':'

/-- A character that begins and ends quoted text. -/
def isQuote (c : Char) : Bool :=
  c == '"' || c == '\x60'

/-- The number of blocks open after `c`, with `depth` of them open before it. -/
def depthAfter (depth : Nat) (c : Char) : Nat :=
  if c = '\x7b' then depth + 1
  else if c = '\x7d' then depth - 1
  else depth

/-- The text before the brace that closes a block with `depth` further blocks open inside it, and
the text from that brace on.  Without such a brace the text is taken whole. -/
def splitScript : Nat → List Char → List Char × List Char
  | _, [] => ([], [])
  | depth, c :: cs =>
    if c = '\x7d' ∧ depth = 0 then ([], c :: cs)
    else
      let split := splitScript (depthAfter depth c) cs
      (c :: split.1, split.2)

/-- A piece of source text. -/
inductive Lexeme where
  | space (c : Char)
  | comment (text : List Char)
  | openBrace (script : List Char)
  | closeBrace
  | comma
  | quoted (quote : Char) (text : List Char)
  | number (digits : List Char)
  | word (text : List Char)
deriving DecidableEq, Repr

namespace Lexeme

/-- The characters of the text that a lexeme stands for. -/
def spelling : Lexeme → List Char
  | space c => [c]
  | comment text => '#' :: text
  | openBrace script => '\x7b' :: script
  | closeBrace => ['\x7d']
  | comma => [',']
  | quoted quote text => quote :: text ++ [quote]
  | number digits => digits
  | word text => text

/-- Why a text cannot be read on. -/
inductive Refusal where
  | unterminatedString
  | unexpectedCharacter (c : Char)
deriving DecidableEq, Repr

/-- The lexeme that begins with `c`, and the text after it.  With `raw`, an opening brace takes a
script along. -/
def read (raw : Bool) (c : Char) (cs : List Char) : Except Refusal (Lexeme × List Char) :=
  if isSpace c then .ok (space c, cs)
  else if c = '#' then .ok (comment (cs.takeWhile (· != '\n')), cs.dropWhile (· != '\n'))
  else if c = '\x7b' then
    if raw then
      let split := splitScript 0 cs
      .ok (openBrace split.1, split.2)
    else .ok (openBrace [], cs)
  else if c = '\x7d' then .ok (closeBrace, cs)
  else if c = ',' then .ok (comma, cs)
  else if isQuote c then
    match cs.dropWhile (· != c) with
    | [] => .error .unterminatedString
    | _ :: rest => .ok (quoted c (cs.takeWhile (· != c)), rest)
  else if c.isDigit then
    .ok (number (c :: cs.takeWhile Char.isDigit), cs.dropWhile Char.isDigit)
  else if isWordStart c then
    .ok (word (c :: cs.takeWhile isWordChar), cs.dropWhile isWordChar)
  else .error (.unexpectedCharacter c)

end Lexeme

theorem splitScript_append (depth : Nat) (cs : List Char) :
    (splitScript depth cs).1 ++ (splitScript depth cs).2 = cs := by
  induction cs generalizing depth with
  | nil => rfl
  | cons c cs ih =>
    rw [splitScript]
    split
    · rfl
    · simp [ih]

namespace Lexeme

theorem spelling_ne_nil_of_read {raw : Bool} {c : Char} {cs rest : List Char} {lexeme : Lexeme}
    (h : read raw c cs = .ok (lexeme, rest)) : lexeme.spelling ≠ [] := by
  unfold read at h
  repeat' split at h
  all_goals cases h
  all_goals simp [spelling]

/-- Reading loses nothing. -/
theorem spelling_append_of_read {raw : Bool} {c : Char} {cs rest : List Char} {lexeme : Lexeme}
    (h : read raw c cs = .ok (lexeme, rest)) : lexeme.spelling ++ rest = c :: cs := by
  unfold read at h
  split at h
  · cases h; rfl
  split at h
  next hc => cases h; simp [spelling, hc, List.takeWhile_append_dropWhile]
  split at h
  next hc =>
    split at h
    · cases h; simp [spelling, hc, splitScript_append]
    · cases h; simp [spelling, hc]
  split at h
  next hc => cases h; simp [spelling, hc]
  split at h
  next hc => cases h; simp [spelling, hc]
  split at h
  · split at h
    · cases h
    next d tail hd =>
      cases h
      have hq : d = c := by
        have := List.head?_dropWhile_not (· != c) cs
        rw [hd] at this
        simpa using this
      have := List.takeWhile_append_dropWhile (p := (· != c)) (l := cs)
      rw [hd, hq] at this
      simp [spelling, this]
  split at h
  · cases h; simp [spelling, List.takeWhile_append_dropWhile]
  split at h
  · cases h; simp [spelling, List.takeWhile_append_dropWhile]
  · cases h

theorem length_rest_of_read {raw : Bool} {c : Char} {cs rest : List Char} {lexeme : Lexeme}
    (h : read raw c cs = .ok (lexeme, rest)) : rest.length < (c :: cs).length := by
  have hlen := congrArg List.length (spelling_append_of_read h)
  have hpos := List.length_pos_iff.2 (spelling_ne_nil_of_read h)
  rw [List.length_append] at hlen
  omega

end Lexeme

end TaskRunner
