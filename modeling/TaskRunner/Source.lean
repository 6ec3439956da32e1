import TaskRunner.Token.Scan
import TaskRunner.Statement.Parse

/-! Source texts read as statements in one step. -/

namespace TaskRunner

/-- Why a source text cannot be read. -/
inductive SourceError where
  | scan (error : ScanError)
  | parse (error : ParseError)
deriving DecidableEq, Repr

namespace SourceError

/-- The text shown to a user. -/
def message : SourceError → String
  | scan error => "lex error: " ++ error.message
  | parse error => "parse error: " ++ error.message

end SourceError

/-- The statements of a source text. -/
def parseSource (source : String) : Except SourceError (List Statement) :=
  match scan source with
  | .error error => .error (.scan error)
  | .ok tokens =>
    match parse tokens with
    | .error error => .error (.parse error)
    | .ok statements => .ok statements

end TaskRunner
