import TaskRunner.Shell.Syntax

/-! The characters of scripts, and what can be told from them without a look at the grammar. -/

namespace TaskRunner.Shell

/-- Why a script cannot be read, the line where that shows, and the status of the shell after it.
The line may be `shown` itself, and what is `unclosed` shows where it was opened. -/
structure SyntaxFault where
  line : Nat
  message : String
  status : Nat
  shown : Bool
  unclosed : Bool
deriving DecidableEq, Repr

/-- A fault that is told by a message alone. -/
def SyntaxFault.said (line : Nat) (message : String) : SyntaxFault :=
  ⟨line, message, 2, false, false⟩

/-- The complaint about a script of its own that cannot be read, without what stands in front of it.
-/
def SyntaxFault.complaint (fault : SyntaxFault) (text : Text) : Text :=
  let label : Text := "line " ++ toString fault.line ++ ": "
  let line := (text.splitOn '\n').getD (fault.line - 1) []
  label ++ ofString fault.message ++
    if fault.shown then '\n' :: label ++ '\x60' :: line ++ ['\''] else []

/-- A character that ends a bare word. -/
def isMeta (c : Char) : Bool :=
  c == ' ' || c == '\t' || c == '\n' || c == ';' || c == '&' || c == '|' || c == '<' || c == '>' ||
    c == '(' || c == ')'

/-- The character is a parameter of its own. -/
def isSpecial (c : Char) : Bool :=
  c == '@' || c == '*' || c == '#' || c == '?' || c == '-' || c == '$' || c == '!'

/-- A character that means nothing but itself wherever it stands in a word. -/
def isOrdinary (c : Char) : Bool :=
  !(isMeta c || c == '\\' || c == '\'' || c == '"' || c == '$' || c == '\x60' || c == '\x7d' ||
    c == '/' || c == ':' || c == ']')

/-- How many line feeds a text holds. -/
def lineCount (text : Text) : Nat :=
  text.count '\n'

/-- A word with more text in front. -/
def consText (quoted : Bool) (text : Text) : Word → Word
  | .text q content :: rest =>
    if q = quoted then .text q (text ++ content) :: rest
    else .text quoted text :: .text q content :: rest
  | word => .text quoted text :: word

/-- The text before the backquote that closes a command, and the text after it. -/
def closeBackquote (quoted : Bool) : Text → Option (Text × Text)
  | [] => none
  | '\x60' :: cs => some ([], cs)
  | '\\' :: c :: cs =>
    let dropped := c = '$' ∨ c = '\x60' ∨ c = '\\' ∨ (quoted ∧ c = '"')
    (closeBackquote quoted cs).map fun r =>
      (if dropped then c :: r.1 else '\\' :: c :: r.1, r.2)
  | c :: cs => (closeBackquote quoted cs).map fun r => (c :: r.1, r.2)

/-- The fallback that a character stands for. -/
def Fallback.of? (c : Char) : Option Fallback :=
  if c = '-' then some .use
  else if c = '=' then some .assign
  else if c = '?' then some .complain
  else if c = '+' then some .replace
  else none

/-- A token of a script.  A document is a redirection with what it is to be read from; an array is
an assignment of several words. -/
inductive Token where
  | word (word : Word)
  | operator (symbol : String)
  | redirect (descriptor : Option Nat) (symbol : String)
  | document (descriptor : Option Nat) (content : Word)
  | array (name : String) (appends : Bool) (words : List Word)
  | newline
  | finish

/-- The operator at the front of a text. -/
def operatorAt? (dialect : Dialect) : Text → Option (String × Text)
  | '&' :: '&' :: cs => some ("&&", cs)
  | '|' :: '|' :: cs => some ("||", cs)
  | ';' :: ';' :: '&' :: cs => if dialect = .rich then some (";;&", cs) else some (";;", '&' :: cs)
  | ';' :: '&' :: cs => if dialect = .rich then some (";&", cs) else some (";", '&' :: cs)
  | ';' :: ';' :: cs => some (";;", cs)
  | '|' :: '&' :: cs => if dialect = .rich then some ("|&", cs) else some ("|", '&' :: cs)
  | '&' :: '>' :: cs => if dialect = .rich then none else some ("&", '>' :: cs)
  | '&' :: cs => some ("&", cs)
  | '|' :: cs => some ("|", cs)
  | ';' :: cs => some (";", cs)
  | '(' :: cs => some ("(", cs)
  | ')' :: cs => some (")", cs)
  | _ => none

/-- The sign of a redirection at the front of a text. -/
def redirectAt? (dialect : Dialect) : Text → Option (String × Text)
  | '<' :: '<' :: '<' :: cs => if dialect = .rich then some ("<<<", cs) else some ("<<", '<' :: cs)
  | '<' :: '<' :: '-' :: cs => some ("<<-", cs)
  | '<' :: '<' :: cs => some ("<<", cs)
  | '<' :: '&' :: cs => some ("<&", cs)
  | '<' :: '>' :: cs => some ("<>", cs)
  | '<' :: cs => some ("<", cs)
  | '>' :: '>' :: cs => some (">>", cs)
  | '>' :: '&' :: cs => some (">&", cs)
  | '>' :: '|' :: cs => some (">|", cs)
  | '>' :: cs => some (">", cs)
  | '&' :: '>' :: '>' :: cs => some ("&>>", cs)
  | '&' :: '>' :: cs => some ("&>", cs)
  | _ => none

/-- The lines of a document up to the delimiter, the text after it, and how many lines the document
takes up.  With `stripTabs`, tabs at the front of the lines do not count. -/
def documentLines (stripTabs : Bool) (delimiter : Text) : Nat → Text → Text × Text × Nat
  | 0, text => (text, [], 0)
  | _ + 1, [] => ([], [], 0)
  | fuel + 1, text =>
    let line := text.takeWhile (· != '\n')
    let rest := text.drop line.length
    let line := if stripTabs then line.dropWhile (· == '\t') else line
    if line = delimiter then ([], rest.drop 1, 1)
    else
      let feed := rest.take 1
      let more := documentLines stripTabs delimiter fuel (rest.drop 1)
      (line ++ feed ++ more.1, more.2.1, more.2.2 + 1)

/-- The rest of a line and the text from its line feed on.  A line feed between quotes or in a
comment does not end it; `bare` says that a comment may begin. -/
def restOfLine : Nat → Bool → Text → Text × Text
  | 0, _, text => (text, [])
  | _ + 1, _, [] => ([], [])
  | _ + 1, _, '\n' :: cs => ([], '\n' :: cs)
  | fuel + 1, bare, '\\' :: c :: cs =>
    let more := restOfLine fuel (bare && c == '\n') cs
    ('\\' :: c :: more.1, more.2)
  | fuel + 1, bare, c :: cs =>
    let inside := cs.takeWhile (· != c)
    let taken :=
      if c = '#' ∧ bare then cs.takeWhile (· != '\n')
      else if (c = '\'' ∨ c = '"') ∧ inside.length ≠ cs.length then inside ++ [c]
      else []
    let more := restOfLine fuel (isMeta c) (cs.drop taken.length)
    (c :: taken ++ more.1, more.2)

/-- The characters of a word without its quotes, and whether there were quotes. -/
def delimiterOf (word : Word) : Text × Bool :=
  word.foldl (fun found piece =>
    match piece with
    | .text quoted content => (found.1 ++ content, found.2 || quoted)
    | .parameter _ name _ _ => (found.1 ++ '$' :: name.toList, found.2)
    | _ => found) ([], false)

/-- The text of a word that holds nothing quoted and nothing to expand. -/
def bareText? : Word → Option String
  | [.text false content] => some (String.ofList content)
  | _ => none

/-- The reserved words. -/
def reservedWords : List String :=
  ["if", "then", "else", "elif", "fi", "do", "done", "case", "esac", "in", "while", "until", "for",
    "\x7b", "\x7d", "!"]

/-- The reserved words of a dialect. -/
def Dialect.reserved (dialect : Dialect) : List String :=
  if dialect = .rich then ["[[", "function", "select", "time"] ++ reservedWords else reservedWords

end TaskRunner.Shell
