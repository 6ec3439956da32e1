import TaskRunner.Shell.Word

/-! From words to commands.  A script is read one line of commands at a time, so that a mistake
further on does not keep the lines before it from running. -/

namespace TaskRunner.Shell

open Reading

/-- A text between double quotes. -/
def inQuotes (text : String) : String := "\"" ++ text ++ "\""

/-- The reserved word or operator that a token is. -/
def Token.mark? (dialect : Dialect) : Token → Option String
  | .word content => (bareText? content).filter (dialect.reserved.contains ·)
  | .operator symbol => some symbol
  | _ => none

/-- How a message names a token. -/
def Token.described (dialect : Dialect) (token : Token) : String :=
  match token.mark? dialect, token with
  | some mark, _ => inQuotes mark
  | none, .word _ => "word"
  | none, .newline => "newline"
  | none, .finish => "end of file"
  | none, _ => "redirection"

/-- Marks that end a list of commands. -/
def endMarks : List String :=
  ["then", "else", "elif", "fi", "do", "done", "esac", "\x7d", ")", ";;", ";&", ";;&"]

/-- Utilities that no function may be named after. -/
def specialNames : List String :=
  [".", ":", "break", "continue", "eval", "exec", "exit", "export", "readonly", "return", "set",
    "shift", "source", "times", "trap", "unset"]

/-- What comes before a list of commands may end: nothing, at least one command, or the end of the
line. -/
inductive ListKind where
  | loose
  | strict
  | line
deriving DecidableEq, Repr

/-- The parts of a simple command: assignments, words and redirections, with the lines where the
first part and what follows it end. -/
structure SimpleParts where
  assignments : List Assignment
  words : List Word
  redirections : List Redirection
  first : Nat
  second : Nat

/-- The command that runs in the background. -/
def inBackground : Command → Command
  | .pipeline _ commands => .pipeline true commands
  | .redirected line command redirections => .background line command redirections
  | command => .background 0 command []

/-- The two parts of a word that its first equals sign parts, as far as nothing is quoted or
expanded before it. -/
def splitAssignment? : Word → Option (Text × Word)
  | .text false content :: rest =>
    let name := content.takeWhile (· != '=')
    match content.drop name.length with
    | _ :: value => some (name, if value.isEmpty then rest else .text false value :: rest)
    | [] => none
  | _ => none

/-- The words between the bracket that opens a word's subscript and the one that closes it, and what
stands behind it. -/
def splitIndex? : Word → Option (Word × Word)
  | [] => none
  | .text false content :: rest =>
    let inside := content.takeWhile (· != ']')
    match content.drop inside.length with
    | _ :: behind => some ([.text false inside], .text false behind :: rest)
    | [] => (splitIndex? rest).map fun r => (.text false content :: r.1, r.2)
  | piece :: rest => (splitIndex? rest).map fun r => (piece :: r.1, r.2)

/-- The assignment that a word makes, if it is one. -/
def assignment? (dialect : Dialect) (word : Word) : Option Assignment :=
  let plain : Option Assignment := do
    let (name, value) ← splitAssignment? word
    if isName name then return .to (String.ofList name) none false (.word value)
    else if dialect = .rich ∧ name.getLast? = some '+' ∧ isName name.dropLast then
      return .to (String.ofList name.dropLast) none true (.word value)
    else none
  let indexed : Option Assignment := do
    match word with
    | .text false content :: rest =>
      let name := content.takeWhile isNameChar
      if dialect = .plain ∨ ¬ isName name ∨ content[name.length]? ≠ some '[' then none
      else
        let (index, behind) ← splitIndex? (.text false (content.drop (name.length + 1)) :: rest)
        let (sign, value) ← splitAssignment? behind
        if sign = [] then return .to (String.ofList name) (some index) false (.word value)
        else if sign = ['+'] then return .to (String.ofList name) (some index) true (.word value)
        else none
    | _ => none
  plain <|> indexed

/-- The descriptor that a word names, or what it stands for when it is expanded. -/
def isDescriptorWord : Word → Bool
  | [.text _ content] => content == ['-'] || (content.length == 1 && content.all Char.isDigit)
  | word => word.any fun piece =>
    match piece with
    | .text _ _ => false
    | _ => true

/-- Leaves blanks and a comment behind. -/
def skipBlanks : Reading Unit := do
  go (← read).room
where
  /-- Leaves blanks and a comment behind, with a bound on their number. -/
  go : Nat → Reading Unit
    | 0 => return
    | room + 1 => do
      match ← ahead with
      | ' ' :: _ =>
        skip 1
        go room
      | '\t' :: _ =>
        skip 1
        go room
      | '#' :: rest => skip (1 + (rest.takeWhile (· != '\n')).length)
      | _ => return

/-- Reads the document that a redirection names, from behind its sign. -/
def readDocument (descriptor : Option Nat) (stripTabs : Bool) : Reading Token := do
  skipBlanks
  let word ← readWord .delimiter
  if word.isEmpty then return .redirect descriptor "<<"
  else
    let (delimiter, quoted) := delimiterOf word
    let cursor ← get
    let (line, after) := restOfLine (cursor.rest.length + 1) true cursor.rest
    let (body, rest, count) := documentLines stripTabs delimiter (after.length + 1) (after.drop 1)
    let first := cursor.line + lineCount line + 1 + cursor.held
    let lacking :=
      if count = lineCount body + 1 then cursor.lacking
      else cursor.lacking ++ [(cursor.line, first + count - 1, delimiter)]
    set { cursor with
      rest := line ++ after.take 1 ++ rest, held := cursor.held + count, lacking }
    if quoted then return .document descriptor [.text true body]
    else
      let (content, _) ← (readWord .document).run (← read) |>.run (Cursor.start body first)
      return .document descriptor content

/-- Reads a redirection from its sign on, if there is one. -/
def readRedirect (descriptor : Option Nat) (text : Text) : Reading (Option Token) := do
  match redirectAt? (← dialect) text with
  | none => return none
  | some (symbol, rest) =>
    skip (text.length - rest.length)
    if symbol = "<<" ∨ symbol = "<<-" then
      return some (← readDocument descriptor (symbol == "<<-"))
    else return some (.redirect descriptor symbol)

/-- The fault of the richer language about a token that is not expected. -/
def unexpectedFault (line : Nat) (token : Text) : SyntaxFault :=
  ⟨line, "syntax error near unexpected token \x60" ++ String.ofList token ++ "'", 2, true, false⟩

/-- Reads the words of an array, from behind the opening parenthesis to behind the closing one. -/
def readMembers : Reading (List Word) := do
  go (← read).room
where
  /-- Reads the words of an array, with a bound on their number. -/
  go : Nat → Reading (List Word)
    | 0 => reject "out of room"
    | room + 1 => do
      skipBlanks
      match ← ahead with
      | '\n' :: _ =>
        skip 1
        go room
      | ')' :: _ =>
        skip 1
        return []
      | [] => rejectUnclosed "unexpected end of file" ')'
      | c :: _ =>
        if isMeta c ∧ ¬ ((c = '<' ∨ c = '>') ∧ (← ahead)[1]? = some '(') then
          throw { unexpectedFault (← get).line [c] with status := 1 }
        else
          let word ← readWord .bare
          return word :: (← go room)

/-- The digits of a descriptor at the front of a text, where the sign of a redirection follows. -/
def descriptorDigits (dialect : Dialect) (text : Text) : Text :=
  let digits := text.takeWhile Char.isDigit
  let fits := dialect = .rich ∨ digits.length = 1
  match text.drop digits.length with
  | '<' :: _ => if fits then digits else []
  | '>' :: _ => if fits then digits else []
  | _ => []

/-- Reads a token that begins here. -/
def readTokenHere : Reading Token := do
  let text ← ahead
  let dialect ← dialect
  let stream := dialect == .rich &&
    match text with
    | '<' :: '(' :: _ => true
    | '>' :: '(' :: _ => true
    | _ => false
  let digits := descriptorDigits dialect text
  match text with
  | [] => return .finish
  | '\n' :: _ =>
    skip 1
    modify fun cursor => { cursor with line := cursor.line + cursor.held, held := 0 }
    return .newline
  | _ =>
    match operatorAt? dialect text with
    | some (symbol, rest) =>
      skip (text.length - rest.length)
      return .operator symbol
    | none =>
      if ¬ stream ∧ (digits ≠ [] ∨ (redirectAt? dialect text).isSome) then
        skip digits.length
        let descriptor := if digits = [] then none else some (digitsValue digits)
        match ← readRedirect descriptor (← ahead) with
        | some token => return token
        | none => return .word (← readWord .bare)
      else
        let word ← readWord .bare
        match dialect, word, (← get).rest with
        | .rich, [.text false content], '(' :: _ =>
          let name := (content.reverse.drop 1).reverse
          let appends := name.getLast? == some '+'
          let name := if appends then name.dropLast else name
          if content.getLast? = some '=' ∧ isName name then
            skip 1
            return .array (String.ofList name) appends (← readMembers)
          else return .word word
        | _, _, _ => return .word word

/-- Looks at the next token. -/
def peek : Reading Lexed := do
  match (← get).token with
  | some lexed => return lexed
  | none =>
    skipBlanks
    let before ← get
    let watched := before.watch.any fun length => before.rest.length ≤ length
    let held := before.held
    let token ← readTokenHere
    let plain := (← dialect) == .plain
    modify fun cursor =>
      let line := match token with
        | .newline => cursor.line - held - (if plain then 0 else 1)
        | _ => cursor.line
      let watch := if watched then none else cursor.watch
      let source := before.rest.take (before.rest.length - cursor.rest.length)
      { cursor with token := some ⟨token, line, source, watched⟩, watch }
    match (← get).token with
    | some lexed => return lexed
    | none => reject "out of room"

/-- Leaves the token that was looked at behind. -/
def advance : Reading Unit :=
  modify fun cursor => { cursor with token := none }

/-- The reserved word or operator that comes next. -/
def nextMark? : Reading (Option String) := do
  return (← peek).token.mark? (← dialect)

/-- The text of a token as the richer shell shows it. -/
def Lexed.shown (lexed : Lexed) : Text :=
  match lexed.token with
  | .newline => "newline"
  | _ => (lexed.source.reverse.dropWhile fun c => c == ' ' || c == '\t').reverse

/-- The complaint about the next token. -/
def unexpected {α : Type} (wanted : Option String) : Reading α := do
  let lexed ← peek
  match ← dialect, lexed.token with
  | .plain, token =>
    let expecting := match wanted with
      | some text => " (expecting " ++ text ++ ")"
      | none => ""
    throw (.said lexed.line
      ("Syntax error: " ++ token.described .plain ++ " unexpected" ++ expecting))
  | .rich, .finish => throw (.said lexed.line "syntax error: unexpected end of file")
  | .rich, _ => throw (unexpectedFault lexed.line lexed.shown)

/-- Leaves an expected mark behind. -/
def expect (mark : String) : Reading Unit := do
  if (← nextMark?) = some mark then advance
  else unexpected (some (inQuotes mark))

/-- Leaves newlines behind. -/
def skipNewlines : Reading Unit := do
  go (← read).room
where
  /-- Leaves newlines behind, with a bound on their number. -/
  go : Nat → Reading Unit
    | 0 => return
    | room + 1 => do
      match (← peek).token with
      | .newline =>
        advance
        go room
      | _ => return

/-- Puts the text that the next word stands for in its place, if it is an alias. -/
def replaceAlias : Reading Unit := do
  go (← read).room
where
  /-- Puts the text of an alias in its place, as long as the next word is an alias. -/
  go : Nat → Reading Unit
    | 0 => return
    | room + 1 => do
      let lexed ← peek
      match lexed.token with
      | .word word =>
        let name := (bareText? word).getD ""
        match (← read).setting.aliases.lookup name with
        | none => return
        | some text =>
          let cursor ← get
          let left := cursor.rest.length
          let isActive := cursor.active.any fun entry => entry.1 == name && entry.2 ≤ left
          if isActive ∨ (lexed.token.mark? (← dialect)).isSome then return
          let endsBlank := text.getLast? == some ' ' || text.getLast? == some '\t'
          set { cursor with
            token := none
            rest := text ++ cursor.rest
            active := (name, left) :: cursor.active
            watch := if endsBlank then some left else cursor.watch }
          go room
      | _ => return

/-- Comes to the beginning of a command. -/
def settleCommand (newlines : Bool) : Reading Unit := do
  if newlines then skipNewlines
  replaceAlias
  if newlines then skipNewlines

/-- Reads the redirection that comes next, if one does. -/
def redirection? : Reading (Option Redirection) := do
  match (← peek).token with
  | .document descriptor content =>
    advance
    return some (.here (descriptor.getD 0) content)
  | .redirect descriptor symbol =>
    advance
    let lexed ← peek
    match lexed.token with
    | .word word =>
      let copying := symbol = "<&" ∨ symbol = ">&"
      if copying ∧ ¬ isDescriptorWord word ∧ (← dialect) = .plain then
        throw (.said lexed.line "Syntax error: Bad fd number")
      advance
      return some <| match symbol with
        | "<" => .read (descriptor.getD 0) word
        | "<>" => .both (descriptor.getD 0) word
        | ">" => .write (descriptor.getD 1) word false
        | ">|" => .write (descriptor.getD 1) word true
        | ">>" => .append (descriptor.getD 1) word
        | "<&" => .copy (descriptor.getD 0) word
        | "<<<" => .here (descriptor.getD 0) (word ++ [.text true ['\n']])
        | "&>" => .writeAll word false
        | "&>>" => .writeAll word true
        | _ =>
          if descriptor.isNone ∧ ¬ isDescriptorWord word then .writeAll word false
          else .copy (descriptor.getD 1) word
    | _ => unexpected none
  | _ => return none

/-- Reads redirections one after the other. -/
def redirectionList : Reading (List Redirection) := do
  go (← read).room
where
  /-- Reads redirections, with a bound on their number. -/
  go : Nat → Reading (List Redirection)
    | 0 => return []
    | room + 1 => do
      match ← redirection? with
      | none => return []
      | some first => return first :: (← go room)

/-- Reads the parts of a simple command.  Once it is named, words are no assignments any more. -/
def simpleParts : Nat → Bool → Reading SimpleParts
  | 0, _ => reject "out of room"
  | fuel + 1, named => do
    let lexed ← peek
    if ¬ named ∨ lexed.watched then replaceAlias
    let line := (← peek).line
    let behind (more : SimpleParts) : SimpleParts :=
      { more with first := line, second := more.first }
    match ← redirection? with
    | some redirection =>
      let more ← simpleParts fuel named
      return behind { more with redirections := redirection :: more.redirections }
    | none =>
      match (← peek).token with
      | .word word =>
        advance
        let dialect ← dialect
        match if named then none else assignment? dialect word with
        | some assignment =>
          let more ← simpleParts fuel false
          return behind { more with assignments := assignment :: more.assignments }
        | none =>
          let more ← simpleParts fuel true
          return behind { more with words := word :: more.words }
      | .array name appends words =>
        advance
        let more ← simpleParts fuel named
        return behind { more with
          assignments := .to name none appends (.members words) :: more.assignments
          words := if named then [.text false name.toList] :: more.words else more.words }
      | _ => return ⟨[], [], [], line, line⟩

/-- Reads words up to a token of another kind, with the text of each. -/
def wordList : Reading (List (Word × Text)) := do
  go (← read).room
where
  /-- Reads words, with a bound on their number. -/
  go : Nat → Reading (List (Word × Text))
    | 0 => return []
    | room + 1 => do
      let lexed ← peek
      match lexed.token with
      | .word word =>
        advance
        return (word, lexed.source) :: (← go room)
      | _ => return []

/-- Reads the patterns of a clause, and the parenthesis behind them. -/
def patternList : Reading (List Word) := do
  go (← read).room
where
  /-- Reads patterns, with a bound on their number. -/
  go : Nat → Reading (List Word)
    | 0 => reject "out of room"
    | room + 1 => do
      let word : Word ← match (← peek).token, ← dialect with
        | .word word, _ => pure word
        | _, .plain => pure [.text true []]
        | _, .rich => unexpected none
      advance
      match ← nextMark? with
      | some "|" =>
        advance
        return word :: (← go room)
      | some ")" =>
        advance
        return [word]
      | _ => unexpected (some (inQuotes ")"))

/-! ### Conditions of the richer language -/

/-- The signs that compare two words in a condition. -/
def comparisons : List String :=
  ["=", "==", "!=", "=~", "<", ">", "-eq", "-ne", "-lt", "-le", "-gt", "-ge", "-nt", "-ot", "-ef"]

/-- The word asks something about the one that follows it in a condition. -/
def isUnarySign (word : String) : Bool :=
  match word.toList with
  | ['-', c] => "abcdefghknoprstuvwxzGLNORS".toList.contains c
  | _ => false

/-- The setting in which patterns may hold groups. -/
def allowGroups (grammar : Grammar) : Grammar :=
  { grammar with setting := { grammar.setting with groups := true } }

/-- The complaint about a condition, with the next token between the two parts of the message unless
the first one stands alone. -/
def failCondition {α : Type} (reason behind : String) : Reading α := do
  let lexed ← peek
  match lexed.token with
  | .finish => throw (.said lexed.line "syntax error: unexpected end of file")
  | _ =>
    let token := String.ofList lexed.shown
    let about := if behind.isEmpty then "" else " \x60" ++ token ++ "'" ++ behind
    let message := reason ++ about ++ "\nsyntax error near \x60" ++ token ++ "'"
    throw ⟨lexed.line, message, 2, true, false⟩

/-- The text of a token that can compare two words. -/
def comparison? : Token → Option String
  | .word word => (bareText? word).filter (comparisons.contains ·)
  | .redirect none symbol => if symbol = "<" ∨ symbol = ">" then some symbol else none
  | _ => none

mutual

/-- Reads a condition: parts of which one must hold. -/
def readEither : Nat → Reading Test
  | 0 => reject "out of room"
  | fuel + 1 => do
    let first ← readBoth fuel
    skipNewlines
    if (← nextMark?) = some "||" then
      advance
      return .either first (← readEither fuel)
    else return first

/-- Reads parts of a condition that must all hold. -/
def readBoth : Nat → Reading Test
  | 0 => reject "out of room"
  | fuel + 1 => do
    let first ← readOne fuel
    skipNewlines
    if (← nextMark?) = some "&&" then
      advance
      return .both first (← readBoth fuel)
    else return first

/-- Reads one part of a condition. -/
def readOne : Nat → Reading Test
  | 0 => reject "out of room"
  | fuel + 1 => do
    skipNewlines
    let lexed ← peek
    match lexed.token.mark? (← dialect), lexed.token with
    | some "!", _ =>
      advance
      return .not (← readOne fuel)
    | some "(", _ =>
      advance
      let inside ← readEither fuel
      expect ")"
      return inside
    | _, .word word =>
      advance
      let next ← peek
      match comparison? next.token with
      | some sign =>
        advance
        skipBlanks
        let second ←
          if sign = "=~" then readWord .matching
          else withReader allowGroups (readWord .bare)
        if second.isEmpty then failCondition "unexpected argument" " to conditional binary operator"
        return .compare word sign second
      | none =>
        match next.token with
        | .word second =>
          if bareText? second = some "]]" then
            if (bareText? word).any isUnarySign then
              failCondition "unexpected argument" " to conditional unary operator"
            return .words [word]
          else if (bareText? word).any isUnarySign then
            advance
            return .words [word, second]
          else failCondition "conditional binary operator expected" ""
        | _ => return .words [word]
    | _, _ => failCondition "unexpected token" " in conditional command"

end

/-! ### Commands -/

/-- Reads a command that says for itself which language it belongs to: an expression. -/
def readReckon : Reading Word := do
  let expression ← openedAt (← get).line (readWord (.sum 0))
  skip 2
  return expression

/-- The parts of an expression that semicolons part. -/
def splitParts (word : Word) : List Word :=
  word.foldr (fun piece parts =>
    match piece with
    | .text q content =>
      match content.splitOn ';' with
      | [] => parts
      | [only] => (.text q only :: parts.headD []) :: parts.tail
      | pieces =>
        match pieces.reverse with
        | last :: others =>
          ((others.reverse.map fun part => [Piece.text q part]) ++
            [Piece.text q last :: parts.headD []]) ++ parts.tail
        | [] => parts
    | piece => (piece :: parts.headD []) :: parts.tail) [[]]

/-- The command with the redirections that follow it. -/
def withRedirections (line : Nat) (command : Command) : Reading Command := do
  match ← redirectionList with
  | [] => return command
  | redirections => return .redirected line command redirections

/-- The command that consists of commands joined by pipes. -/
def joinPiped : List Command → Command
  | [command] => command
  | commands => .pipeline false commands

/-- A command and those that follow it, if any do. -/
def before (first : Command) : Command → Command
  | .nothing => first
  | rest => .sequence first rest

/-- Nothing is left of a pipeline. -/
def endsPipeline : Reading Bool := do
  match (← peek).token, ← nextMark? with
  | .newline, _ => return true
  | .finish, _ => return true
  | _, mark => return mark = some ";"

mutual

/-- Reads commands up to a mark that ends the list, or to the end of the line. -/
def commandList : Nat → ListKind → Reading Command
  | 0, _ => reject "out of room"
  | fuel + 1, kind => do
    settleCommand (kind != .line)
    let lexed ← peek
    match lexed.token with
    | .newline =>
      advance
      return .nothing
    | .finish => return .nothing
    | token =>
      let isEnd := (token.mark? (← dialect)).any endMarks.contains
      if kind = .loose ∧ isEnd then return .nothing
      else
        let first ← andOr fuel
        let next := if kind = .line then .line else .loose
        match (← peek).token with
        | .newline => return before first (← commandList fuel next)
        | .finish => return first
        | token =>
          match token.mark? (← dialect) with
          | some ";" =>
            advance
            return before first (← commandList fuel next)
          | some "&" =>
            advance
            return before (inBackground first) (← commandList fuel next)
          | _ =>
            if kind = .line then unexpected none else return first

/-- Reads pipelines joined by `&&` and `||`. -/
def andOr : Nat → Reading Command
  | 0 => reject "out of room"
  | fuel + 1 => do
    andOrMore fuel (← pipeline fuel)

/-- Reads what is joined to a first pipeline. -/
def andOrMore : Nat → Command → Reading Command
  | 0, _ => reject "out of room"
  | fuel + 1, first => do
    match ← nextMark? with
    | some "&&" =>
      advance
      settleCommand true
      andOrMore fuel (.both first (← pipeline fuel))
    | some "||" =>
      advance
      settleCommand true
      andOrMore fuel (.either first (← pipeline fuel))
    | _ => return first

/-- Reads commands joined by pipes. -/
def pipeline : Nat → Reading Command
  | 0 => reject "out of room"
  | fuel + 1 => do
    match ← nextMark? with
    | some "!" =>
      advance
      settleCommand false
      match ← dialect with
      | .plain => return .negation (joinPiped (← piped fuel))
      | .rich =>
        if ← endsPipeline then return .negation .nothing
        else return .negation (← pipeline fuel)
    | some "time" =>
      advance
      let brief ← match (← peek).token with
        | .word [.text false ['-', 'p']] => do
          advance
          pure true
        | _ => pure false
      if ← endsPipeline then return .timed brief .nothing
      else return .timed brief (← pipeline fuel)
    | _ => return joinPiped (← piped fuel)

/-- Reads the commands of a pipeline. -/
def piped : Nat → Reading (List Command)
  | 0 => reject "out of room"
  | fuel + 1 => do
    let first ← command fuel
    match ← nextMark? with
    | some "|" =>
      advance
      settleCommand true
      return first :: (← piped fuel)
    | some "|&" =>
      advance
      settleCommand true
      return .redirected 0 first [.copy 2 [.text false ['1']]] :: (← piped fuel)
    | _ => return [first]

/-- Reads one command. -/
def command : Nat → Reading Command
  | 0 => reject "out of room"
  | fuel + 1 => do
    let lexed ← peek
    match lexed.token.mark? (← dialect) with
    | some "(" =>
      advance
      match (← dialect), (← get).rest with
      | .rich, '(' :: _ =>
        skip 1
        let expression ← readReckon
        withRedirections lexed.line (.reckon (← get).line expression)
      | _, _ =>
        let body ← commandList fuel .strict
        expect ")"
        return .subshell lexed.line body (← redirectionList)
    | some "\x7b" =>
      advance
      let body ← commandList fuel .strict
      expect "\x7d"
      withRedirections lexed.line body
    | some "if" =>
      advance
      withRedirections lexed.line (← conditional fuel)
    | some "while" =>
      advance
      withRedirections lexed.line (← loop fuel false)
    | some "until" =>
      advance
      withRedirections lexed.line (← loop fuel true)
    | some "for" =>
      advance
      withRedirections lexed.line (← forEach fuel lexed.line)
    | some "select" =>
      advance
      match ← forEach fuel lexed.line with
      | .forEach line _ name words body =>
        withRedirections lexed.line (.select line name words body)
      | command => return command
    | some "case" =>
      advance
      withRedirections lexed.line (← choice fuel lexed.line)
    | some "function" =>
      advance
      match (← peek).token with
      | .word word =>
        advance
        if (← nextMark?) = some "(" then
          advance
          expect ")"
        skipNewlines
        let body ← command fuel
        return .function lexed.line ((bareText? word).getD "") body
      | _ => unexpected none
    | some "[[" =>
      advance
      let test ← readEither fuel
      match (← peek).token with
      | .word word =>
        if bareText? word = some "]]" then
          advance
          withRedirections lexed.line (.test lexed.line test)
        else unexpected none
      | _ => unexpected none
    | some _ => unexpected none
    | none =>
      match lexed.token with
      | .newline => unexpected none
      | .finish => unexpected none
      | _ => simple fuel lexed.line

/-- Reads a simple command, or the definition of a function. -/
def simple : Nat → Nat → Reading Command
  | 0, _ => reject "out of room"
  | fuel + 1, first => do
    let parts ← simpleParts (← read).room false
    let plain := (← dialect) == .plain
    let line := if plain then first else parts.second
    match parts, ← nextMark? with
    | ⟨[], [word], [], _, _⟩, some "(" =>
      advance
      expect ")"
      let here := (← get).line
      let name := (bareText? word).getD ""
      if ¬ isName name.toList ∧ plain ∨ specialNames.contains name ∨ name = "" then
        reject "Bad function name"
      skipNewlines
      replaceAlias
      return .function here name (← command fuel)
    | parts, _ => return .simple line parts.assignments parts.words parts.redirections

/-- Reads what follows the word `if` or `elif`. -/
def conditional : Nat → Reading Command
  | 0 => reject "out of room"
  | fuel + 1 => do
    let condition ← commandList fuel .strict
    expect "then"
    let body ← commandList fuel .strict
    match ← nextMark? with
    | some "elif" =>
      advance
      return .conditional condition body (← conditional fuel)
    | some "else" =>
      advance
      let otherwise ← commandList fuel .strict
      expect "fi"
      return .conditional condition body otherwise
    | _ =>
      expect "fi"
      return .conditional condition body .nothing

/-- Reads what follows the word `while` or `until`. -/
def loop : Nat → Bool → Reading Command
  | 0, _ => reject "out of room"
  | fuel + 1, whileFails => do
    let condition ← commandList fuel .strict
    return .loop whileFails condition (← loopBody fuel)

/-- Reads the body of a loop. -/
def loopBody : Nat → Reading Command
  | 0 => reject "out of room"
  | fuel + 1 => do
    expect "do"
    let body ← commandList fuel .strict
    expect "done"
    return body

/-- Reads what follows the word `for`. -/
def forEach : Nat → Nat → Reading Command
  | 0, _ => reject "out of room"
  | fuel + 1, line => do
    match (← peek).token with
    | .word word =>
      let name := (bareText? word).getD ""
      if ¬ isName name.toList ∧ (← dialect) = .plain then reject "Bad for loop variable"
      advance
      skipNewlines
      match ← nextMark? with
      | some "in" =>
        advance
        let words ← wordList
        let lexed ← peek
        match lexed.token, lexed.token.mark? (← dialect) with
        | .newline, _ => advance
        | _, some ";" => advance
        | _, _ => unexpected none
        skipNewlines
        let head := ofString name ++ " in " ++ List.intercalate [' '] (words.map Prod.snd)
        return .forEach line head name (some (words.map Prod.fst)) (← loopBody fuel)
      | mark =>
        if mark = some ";" then advance
        skipNewlines
        return .forEach line (ofString name ++ " in \"$@\"") name none (← loopBody fuel)
    | token =>
      match (← dialect), token.mark? (← dialect), (← get).rest with
      | .rich, some "(", '(' :: _ =>
        skip 1
        advance
        match splitParts (← readReckon) with
        | [first, condition, step] =>
          if (← nextMark?) = some ";" then advance
          skipNewlines
          return .count line first condition step (← loopBody fuel)
        | _ => reject "arithmetic expression required"
      | .plain, _, _ => reject "Bad for loop variable"
      | .rich, _, _ => unexpected none

/-- Reads what follows the word `case`. -/
def choice : Nat → Nat → Reading Command
  | 0, _ => reject "out of room"
  | fuel + 1, line => do
    let lexed ← peek
    match lexed.token with
    | .word subject =>
      advance
      skipNewlines
      expect "in"
      skipNewlines
      return .choice line (lexed.source ++ " in") subject (← clauses fuel)
    | _ => unexpected (some "word")

/-- Reads the clauses of a choice, up to the word `esac`. -/
def clauses : Nat → Reading (List (List Word × Command × Sequel))
  | 0 => reject "out of room"
  | fuel + 1 => do
    match ← nextMark? with
    | some "esac" =>
      advance
      return []
    | mark =>
      if mark = some "(" then advance
      let patterns ← patternList
      let body ← commandList fuel .loose
      skipNewlines
      let mark ← nextMark?
      if mark = some "esac" then
        advance
        return [(patterns, body, .nothing)]
      else
        let sequel : Sequel := match mark with
          | some ";&" => .nextBody
          | some ";;&" => .nextFit
          | _ => .nothing
        if sequel = .nothing then expect ";;" else advance
        skipNewlines
        return (patterns, body, sequel) :: (← clauses fuel)

end

/-- A script as it is read: the richer shell ends the last line of one with a line feed. -/
def scriptText (dialect : Dialect) (text : Text) : Text :=
  match dialect, text.getLast? with
  | .plain, _ => text
  | .rich, some '\n' => text
  | .rich, some '\\' => text
  | .rich, _ => text ++ ['\n']

/-- More than the parts of a text can be nested. -/
def roomFor (text : Text) : Nat :=
  16 * text.length + 256

/-- How deep substitutions may stand in one another. -/
def maxDepth : Nat := 200

mutual

/-- Reads the commands of a substitution, and the parenthesis that closes it. -/
def substituted (setting : Setting) : Nat → Stepping Command
  | 0 => throw (.said 1 "out of room")
  | depth + 1 => do
    let room := roomFor (← get).rest
    let inside : Reading Command := do
      let body ← commandList room .loose
      match setting.dialect, (← peek).token with
      | .rich, .finish =>
        throw (.said (← peek).line "unexpected EOF while looking for matching \x60)'")
      | _, _ => expect ")"
      return body
    try inside.run ⟨setting, substituted setting depth, quotedScript setting depth, room⟩
    catch fault => throw (if fault.shown then { fault with status := 127 } else fault)

/-- The commands of a script between backquotes. -/
def quotedScript (setting : Setting) : Nat → Text → Except SyntaxFault Command
  | 0, _ => .error (.said 1 "out of room")
  | depth + 1, text =>
    let room := roomFor text
    let grammar := ⟨setting, substituted setting depth, quotedScript setting depth, room⟩
    ((commandList room .loose).run grammar).run' (.start (scriptText setting.dialect text) 1)

end

/-- Reads the commands of the next line of a script, if anything is left. -/
def readLine (setting : Setting) (cursor : Cursor) :
    Except SyntaxFault (Option (Command × Cursor)) := do
  let room := roomFor cursor.rest
  let grammar := ⟨setting, substituted setting maxDepth, quotedScript setting maxDepth, room⟩
  let (lexed, cursor) ← (peek.run grammar).run cursor
  match lexed.token with
  | .finish => return none
  | _ => return some (← ((commandList room .line).run grammar).run cursor)

end TaskRunner.Shell
