import TaskRunner.Program.Input
import TaskRunner.Records.Token

/-! Records, which input is cut into, and fields, which records are cut into. -/

namespace TaskRunner.Records

/-! ### Fields -/

/-- What separates fields: blanks, a character, what an expression fits, or nothing at all. -/
inductive Splitter where
  | blanks
  | char (c : Char)
  | regex (matcher : Regex.Matcher)
  | everywhere

instance : Inhabited Splitter := ⟨.blanks⟩

namespace Splitter

/-- The separator that a text stands for. -/
def ofText (text : Text) : Except RegexFault Splitter :=
  match text with
  | [] => .ok .everywhere
  | [' '] => .ok .blanks
  | [c] => .ok (.char c)
  | text => (matcherOf text).map .regex

/-- The words of a text, which ends with a blank if `word` is what has been read of one, the last
character first. -/
def words : Text → Text → List Text
  | word, [] => if word.isEmpty then [] else [word.reverse]
  | word, c :: rest =>
    if c = ' ' ∨ c = '\t' ∨ c = '\n' then
      if word.isEmpty then words [] rest else word.reverse :: words [] rest
    else words (c :: word) rest

/-- The parts of a text between places. -/
def between (subject : Array Char) : Nat → List Regex.Hit → List Text
  | start, [] => [(subject.extract start subject.size).toList]
  | start, hit :: hits =>
    (subject.extract start hit.start).toList :: between subject hit.stop hits

/-- The fields of a text. -/
def split (splitter : Splitter) (text : Text) : List Text :=
  if text.isEmpty then []
  else
    match splitter with
    | blanks => words [] text
    | char c => text.splitOn c
    | everywhere => text.map fun c => [c]
    | regex matcher =>
      let subject := text.toArray
      let hits := matcher.findAll subject (2 * subject.size + 2) 0 none
      between subject 0 (hits.filter fun hit => hit.start < hit.stop)

end Splitter

/-! ### Records -/

/-- A record.  Its fields are there once they were asked for. -/
structure Record where
  text : Text
  fields : Option (Array Value)

namespace Record

/-- The record that a text is. -/
def ofText (text : Text) : Record := ⟨text, none⟩

/-- The fields of a record. -/
def fieldsBy (splitter : Splitter) (record : Record) : Array Value :=
  match record.fields with
  | some fields => fields
  | none => ((splitter.split record.text).map Value.input).toArray

end Record

/-- What separates records: a character, what an expression fits, or empty lines. -/
inductive Divider where
  | char (c : Char)
  | regex (matcher : Regex.Matcher)
  | emptyLines

namespace Divider

/-- The separator that a text stands for. -/
def ofText (text : Text) : Except RegexFault Divider :=
  match text with
  | [] => .ok .emptyLines
  | [c] => .ok (.char c)
  | text => (matcherOf text).map .regex

/-- The text up to the first empty line, without the line feed before it, and the text after it. -/
def paragraph : Text → Text → Text × Text
  | taken, [] => (taken, [])
  | taken, c :: rest =>
    if c = '\n' ∧ rest.head? = some '\n' then (taken, rest.dropWhile (· == '\n'))
    else paragraph (c :: taken) rest

/-- The first record of a text, and the text after it. -/
def cut? (divider : Divider) (text : Text) : Option (Text × Text) :=
  match divider with
  | char c =>
    if text.isEmpty then none
    else
      let record := text.takeWhile (· != c)
      some (record, text.drop (record.length + 1))
  | regex matcher =>
    if text.isEmpty then none
    else
      let subject := text.toArray
      match (matcher.findAll subject (2 * subject.size + 2) 0 none).find? fun hit =>
          hit.start < hit.stop with
      | some hit =>
        some ((subject.extract 0 hit.start).toList, (subject.extract hit.stop subject.size).toList)
      | none => some (text, [])
  | emptyLines =>
    let text := text.dropWhile (· == '\n')
    if text.isEmpty then none
    else
      let (taken, rest) := paragraph [] text
      let taken := if taken.head? = some '\n' then taken.tail else taken
      some (taken.reverse, rest)

/-- The next record of a source, of which there is none at the end, and the source after it. -/
def next (divider : Divider) (source : Source) : Act (Option Text × Source) := do
  match divider with
  | char c =>
    let (found, source) ← source.line c Source.block
    match found with
    | .ok (some line) => return (some line.text, source)
    | _ => return (none, source)
  | divider =>
    let source ←
      if source.ended then pure source
      else do
        let (text, _) ← Act.readAll source.descriptor
        pure { source with ahead := source.ahead ++ text, ended := true }
    match divider.cut? source.ahead with
    | some (text, rest) => return (some text, { source with ahead := rest })
    | none => return (none, { source with ahead := [] })

end Divider

end TaskRunner.Records
