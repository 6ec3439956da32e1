import TaskRunner.Shell.Arithmetic
import TaskRunner.Shell.Quote
import TaskRunner.Text.Calendar
import TaskRunner.Text.Fraction
import TaskRunner.Text.Label

/-! The texts that `echo` and `printf` write. -/

namespace TaskRunner.Shell

/-! ### Escapes -/

/-- The digit is octal. -/
def isOctal (c : Char) : Bool := '0' ≤ c && c ≤ '7'

/-- The character with the given number, of which one byte counts. -/
def byteChar (n : Nat) : Char := Char.ofNat (n % 256)

/-- The character that a letter after a backslash stands for. -/
def escapedLetter? (c : Char) : Option Char :=
  match c with
  | 'a' => some '\x07'
  | 'b' => some '\x08'
  | 'e' => some '\x1b'
  | 'f' => some '\x0c'
  | 'n' => some '\n'
  | 'r' => some '\r'
  | 't' => some '\t'
  | 'v' => some '\x0b'
  | '\\' => some '\\'
  | _ => none

/-- The character with a number of some hexadecimal digits at the front of a text, and the text
after it. -/
def hexadecimalAt? (most : Nat) (isByte : Bool) (text : Text) : Option (Text × Text) :=
  let digits := (text.take most).takeWhile fun c => (hexDigit? c).isSome
  if digits.isEmpty then none
  else
    let n := baseValue 16 digits
    some (if isByte then [byteChar n] else numberedChar n, text.drop digits.length)

/-- Which escapes there are: only those that all programs know, those with hexadecimal digits too,
or also those of characters by their numbers; and whether there is one for a quote. -/
structure Escapes where
  hexadecimal : Bool
  numbered : Bool
  quotes : Bool
deriving DecidableEq, Repr

/-- The escapes that all programs know. -/
def Escapes.few : Escapes := ⟨false, false, false⟩

/-- What stands after a backslash at the front of a text, by a letter or by digits, and the text
after it. -/
def escapeAt? (escapes : Escapes) : Text → Option (Text × Text)
  | [] => none
  | c :: cs =>
    if isOctal c then
      let digits := ((c :: cs).take 3).takeWhile isOctal
      some ([byteChar (baseValue 8 digits)], (c :: cs).drop digits.length)
    else
      match escapedLetter? c with
      | some d => some ([d], cs)
      | none =>
        match c with
        | 'x' => if escapes.hexadecimal then hexadecimalAt? 2 true cs else none
        | 'u' => if escapes.numbered then hexadecimalAt? 4 false cs else none
        | 'U' => if escapes.numbered then hexadecimalAt? 8 false cs else none
        | 'E' => if escapes.numbered then some (['\x1b'], cs) else none
        | '"' => if escapes.quotes then some (['"'], cs) else none
        | _ => none

/-- A zero that only begins an octal number is left out. -/
def skipZero : Text → Text
  | '0' :: c :: cs => if isOctal c then c :: cs else '0' :: c :: cs
  | text => text

/-- A text with its escapes resolved, and whether one of them ends all output.  What has been
resolved already stands in front, the last character first. -/
def resolveFrom (escapes : Escapes) : Nat → Text → Text → Text × Bool
  | 0, done, text => (done.reverse ++ text, false)
  | _ + 1, done, [] => (done.reverse, false)
  | fuel + 1, done, '\\' :: cs =>
    if cs.head? = some 'c' then (done.reverse, true)
    else
      match escapeAt? escapes (skipZero cs) with
      | some (found, rest) => resolveFrom escapes fuel (found.reverse ++ done) rest
      | none => resolveFrom escapes fuel ('\\' :: done) cs
  | fuel + 1, done, c :: cs => resolveFrom escapes fuel (c :: done) cs

/-- A text with its escapes resolved, and whether one of them ends all output. -/
def resolveEscapes (escapes : Escapes) (text : Text) : Text × Bool :=
  if text.contains '\\' then resolveFrom escapes (text.length + 1) [] text else (text, false)

/-! ### Echo -/

/-- What `echo` writes: escapes are resolved, and with `-n` in front the line does not end. -/
def echoText (arguments : List Text) : Text :=
  let quiet := arguments.head? = some ['-', 'n']
  let joined := List.intercalate [' '] (if quiet then arguments.tail else arguments)
  let (resolved, stops) := resolveEscapes .few joined
  if stops ∨ quiet then resolved else resolved ++ ['\n']

/-- What other programs of the name `echo` write: escapes are resolved only after `-e`. -/
def plainEchoText (numbered : Bool) (arguments : List Text) : Text :=
  let isOption (argument : Text) : Bool := match argument with
    | '-' :: c :: cs => (c :: cs).all fun d => d == 'n' || d == 'e' || d == 'E'
    | _ => false
  let letters := (arguments.takeWhile isOption).flatten.filter (· != '-')
  let quiet := 'n' ∈ letters
  let resolving := (letters.filter (· != 'n')).getLast? = some 'e'
  let joined := List.intercalate [' '] (arguments.dropWhile isOption)
  let (resolved, stops) :=
    if resolving then resolveEscapes ⟨true, numbered, false⟩ joined else (joined, false)
  if stops ∨ quiet then resolved else resolved ++ ['\n']

/-! ### Formats -/

/-- The programs that write by a format: the commands of the two shells, and the program outside. -/
inductive Printer where
  | plain
  | rich
  | outside
deriving DecidableEq, Repr

/-- The escapes that a program knows. -/
def Printer.escapes : Printer → Escapes
  | plain => .few
  | _ => ⟨true, true, true⟩

/-- The status when a format cannot be followed. -/
def Printer.refusal : Printer → Nat
  | plain => 2
  | _ => 1

/-- What is wrong with an argument that should be a number. -/
inductive NumberFault where
  | none
  | notNumeric
  | notConverted
  | outOfRange
deriving DecidableEq, Repr

/-- The complaint about an argument that should be a number. -/
def NumberFault.complaints (printer : Printer) (argument : Text) : NumberFault → List Text
  | none => []
  | notNumeric =>
    match printer with
    | .plain => [argument ++ ": expected numeric value"]
    | .rich => [argument ++ ": invalid number"]
    | .outside => ["'" ++ argument ++ "': expected a numeric value"]
  | notConverted =>
    match printer with
    | .plain => [argument ++ ": not completely converted"]
    | .rich => [argument ++ ": invalid number"]
    | .outside => ["'" ++ argument ++ "': value not completely converted"]
  | outOfRange =>
    match printer with
    | .plain => [argument ++ ": Numerical result out of range"]
    | .rich => ["warning: " ++ argument ++ ": Numerical result out of range"]
    | .outside => ["'" ++ argument ++ "': Numerical result out of range"]

/-- The whole number that an argument stands for, between two bounds, and what is wrong with it. -/
def argumentNumber (low high : Int) (argument : Text) : Int × NumberFault :=
  match argument with
  | [] => (0, .none)
  | '\'' :: rest => ((rest.headD '\x00').toNat, .none)
  | '"' :: rest => ((rest.headD '\x00').toNat, .none)
  | text =>
    let (negative, digits) := unsigned (text.dropWhile isSpaceChar)
    if digits.head?.any Char.isDigit then
      let (n, rest) := numberAt digits
      let n : Int := if negative then -n else n
      let bounded := max low (min high n)
      (bounded,
        if rest ≠ [] then .notConverted else if bounded ≠ n then .outOfRange else .none)
    else (0, .notNumeric)

/-- The number with a fraction that an argument stands for, and what is wrong with it. -/
def argumentFraction (argument : Text) : Float × NumberFault :=
  match argument with
  | [] => (0, .none)
  | '\'' :: rest => (Float.ofNat (rest.headD '\x00').toNat, .none)
  | '"' :: rest => (Float.ofNat (rest.headD '\x00').toNat, .none)
  | text =>
    match Fraction.read? text with
    | some (x, []) => (x, .none)
    | some (x, _) => (x, .notConverted)
    | none => (0, .notNumeric)

/-- The least and the greatest number of 64 bits with a sign. -/
def signedBounds : Int × Int := (-9223372036854775808, 9223372036854775807)

/-- A part of what comes of a format: something to be written, or a complaint. -/
inductive FormatPart where
  | output (text : Text)
  | complaint (text : Text)
deriving DecidableEq, Repr

/-- What has become of a format: the parts, the last one first, the arguments that are left, whether
any was used, whether the output ends here, the status, and what time it is. -/
structure Formatted where
  parts : List FormatPart
  arguments : List Text
  used : Bool
  stopped : Bool
  status : Nat
  now : Int

namespace Formatted

/-- What has been written. -/
def output (formatted : Formatted) : Text :=
  formatted.parts.reverse.flatMap fun part =>
    match part with
    | .output text => text
    | .complaint _ => []

/-- The complaints. -/
def complaints (formatted : Formatted) : List Text :=
  formatted.parts.reverse.filterMap fun part =>
    match part with
    | .output _ => none
    | .complaint text => some text

/-- One more part of the output. -/
def add (formatted : Formatted) (text : Text) : Formatted :=
  { formatted with parts := .output text :: formatted.parts }

/-- The end of all output because the format cannot be followed. -/
def refuse (formatted : Formatted) (printer : Printer) (complaint : Text) : Formatted :=
  { formatted with
    stopped := true
    parts := .complaint complaint :: formatted.parts
    status := printer.refusal }

/-- More complaints, if there are any. -/
def note (formatted : Formatted) (complaints : List Text) : Formatted :=
  if complaints.isEmpty then formatted
  else
    { formatted with
      parts := complaints.map .complaint ++ formatted.parts
      status := max formatted.status 1 }

/-- Takes an argument. -/
def take (formatted : Formatted) : Text × Formatted :=
  (formatted.arguments.headD [],
    { formatted with arguments := formatted.arguments.tail, used := true })

/-- Takes a number for the layout, if a star asks for one at the front of a format, or reads it
there. -/
def takeNumber (formatted : Formatted) (format : Text) : Option Int × Text × Formatted :=
  match format with
  | '*' :: rest =>
    let (argument, formatted) := formatted.take
    (some (argumentNumber signedBounds.1 signedBounds.2 argument).1, rest, formatted)
  | _ =>
    let digits := format.takeWhile Char.isDigit
    let width := if digits.isEmpty then none else some (digitsValue digits)
    (width, format.drop digits.length, formatted)

end Formatted

/-- The complaint about a conversion that there is not. -/
def Printer.unknown (printer : Printer) (directive : Text) (conversion : Char) : Text :=
  match printer with
  | .plain => directive ++ ": invalid directive"
  | .rich => "\x60" ++ [conversion] ++ "': invalid format character"
  | .outside => directive ++ ": invalid conversion specification"

/-- The complaint about a format that ends within a conversion. -/
def Printer.missing (printer : Printer) (directive : Text) : Text :=
  match printer with
  | .plain => "missing format character"
  | .rich => "\x60" ++ directive ++ "': missing format character"
  | .outside => directive ++ ": invalid conversion specification"

/-- Adds the next argument, laid out as a conversion says.  There is nothing if there is no such
conversion. -/
def convert (printer : Printer) (conversion : Char) (layout : Layout) (formatted : Formatted) :
    Option Formatted :=
  let (argument, taken) := formatted.take
  let whole (low high : Int) (write : Int → Text) : Option Formatted :=
    let (n, fault) := argumentNumber low high argument
    some ((taken.note (fault.complaints printer argument)).add (write n))
  let natural : Option Formatted :=
    whole (-18446744073709551615) 18446744073709551615 fun n =>
      layout.unsigned conversion (n % 18446744073709551616).toNat
  match conversion with
  | 's' => some (taken.add (layout.text argument))
  | 'b' =>
    let (resolved, stops) := resolveEscapes printer.escapes argument
    some { taken.add (layout.text resolved) with stopped := stops }
  | 'c' => some (taken.add (layout.fill [argument.headD '\x00']))
  | 'd' => whole signedBounds.1 signedBounds.2 layout.signed
  | 'i' => whole signedBounds.1 signedBounds.2 layout.signed
  | 'u' => natural
  | 'o' => natural
  | 'x' => natural
  | 'X' => natural
  | 'q' =>
    match printer with
    | .plain => none
    | .rich => some (taken.add (layout.fill (quotedForShell argument)))
    | .outside => some (taken.add (layout.fill (shownName argument)))
  | _ =>
    if conversion.toLower ∈ ['e', 'f', 'g'] then
      let (x, fault) := argumentFraction argument
      some ((taken.note (fault.complaints printer argument)).add
        (Fraction.write layout conversion x))
    else none

/-- Adds the time that the next argument gives, in seconds, or the time that it is, written by a
format of its own. -/
def convertTime (layout : Layout) (moment : Text) (formatted : Formatted) : Formatted :=
  let (argument, taken) := formatted.take
  let (n, fault) :=
    if argument.isEmpty then (-1, .none)
    else argumentNumber signedBounds.1 signedBounds.2 argument
  let instant := if n < 0 then formatted.now else n * 1000000
  let pattern : Text := if moment.isEmpty then ['%', 'X'] else moment
  (taken.note (fault.complaints .rich argument)).add
    (layout.text ((Moment.ofInstant instant).write pattern))

/-- The layout at the front of a conversion, and the rest of the format.  Where numbers may be
`grouped` a quote asks for that, which changes nothing. -/
def layoutAt (grouped : Bool) (formatted : Formatted) (format : Text) :
    Layout × Text × Formatted :=
  let flags := format.takeWhile fun d =>
    d == '-' || d == '+' || d == ' ' || d == '#' || d == '0' || (d == '\'' && grouped)
  let (width, rest, formatted) := formatted.takeNumber (format.drop flags.length)
  let width := width.getD 0
  let (precision, rest, formatted) : Option Int × Text × Formatted :=
    match rest with
    | '.' :: rest =>
      let (precision, rest, formatted) := formatted.takeNumber rest
      (some (precision.getD 0), rest, formatted)
    | _ => (none, rest, formatted)
  (⟨if width < 0 then '-' :: flags else flags, width.natAbs,
    (precision.filter (0 ≤ ·)).map Int.toNat⟩, rest, formatted)

/-- One pass over a format. -/
def formatOnce (printer : Printer) : Nat → Text → Formatted → Formatted
  | 0, _, formatted => { formatted with stopped := true }
  | _ + 1, [], formatted => formatted
  | fuel + 1, '\\' :: cs, formatted =>
    if printer = .outside ∧ cs.head? = some 'c' then { formatted with stopped := true }
    else
      match escapeAt? printer.escapes cs with
      | some (found, rest) => formatOnce printer fuel rest (formatted.add found)
      | none => formatOnce printer fuel cs (formatted.add ['\\'])
  | fuel + 1, '%' :: '%' :: cs, formatted => formatOnce printer fuel cs (formatted.add ['%'])
  | fuel + 1, '%' :: cs, formatted =>
    let (layout, rest, formatted) := layoutAt (printer != .plain) formatted cs
    let isModifier (c : Char) : Bool :=
      printer != .plain && ['h', 'j', 'l', 'L', 't', 'z'].contains c
    match layout, rest.dropWhile isModifier, formatted with
    | _, [], formatted => formatted.refuse printer (printer.missing ('%' :: cs))
    | layout, '(' :: rest, formatted =>
      match printer, rest.takeWhile (· != ')'), rest.dropWhile (· != ')') with
      | .rich, moment, ')' :: 'T' :: rest =>
        formatOnce printer fuel rest (convertTime layout moment formatted)
      | _, _, _ => formatted.refuse printer (printer.unknown ('%' :: cs) '(')
    | layout, conversion :: rest, formatted =>
      match convert printer conversion layout formatted with
      | none =>
        formatted.refuse printer
          (printer.unknown ('%' :: cs.take (cs.length - rest.length)) conversion)
      | some converted =>
        if converted.stopped then converted else formatOnce printer fuel rest converted
  | fuel + 1, c :: cs, formatted =>
    let run := (c :: cs).takeWhile fun d => d != '\\' && d != '%'
    formatOnce printer fuel ((c :: cs).drop run.length) (formatted.add run)

/-- A format gone over until the arguments are used up. -/
def formatAll (printer : Printer) (format : Text) : Nat → Formatted → Formatted
  | 0, formatted => formatted
  | fuel + 1, formatted =>
    let next := formatOnce printer (format.length + 1) format { formatted with used := false }
    if next.stopped ∨ ¬ next.used ∨ next.arguments.isEmpty then next
    else formatAll printer format fuel next

/-- What `printf` writes, with its complaints and its status. -/
def printfText (printer : Printer) (now : Int) (format : Text) (arguments : List Text) :
    Formatted :=
  let formatted :=
    formatAll printer format (arguments.length + 1) ⟨[], arguments, false, false, 0, now⟩
  match formatted.arguments with
  | extra :: _ =>
    if printer = .outside ∧ ¬ formatted.stopped then
      let complaint : Text :=
        "warning: ignoring excess arguments, starting with '" ++ extra ++ "'"
      { formatted with parts := .complaint complaint :: formatted.parts }
    else formatted
  | [] => formatted

end TaskRunner.Shell
