import TaskRunner.Program.Link
import TaskRunner.Program.Make
import TaskRunner.Shell.Condition
import TaskRunner.Shell.Format
import TaskRunner.Text.Calendar

/-! Programs that write what they are told to, or what they know of the surroundings, and programs
that only end with a status. -/

namespace TaskRunner.Program

open Tool

/-! ### Nothing but a status -/

/-- The program `true`. -/
def succeed (_ : Call) : Task := .exit 0

/-- The program `false`. -/
def refuse (_ : Call) : Task := .exit 1

/-- The program `test`, or with brackets around its operands the program `[`. -/
def test (bracketed : Bool) (call : Call) : Task :=
  task 2 call do
    if bracketed ∧ call.arguments.getLast? ≠ some [']'] then
      fail 2 "missing ']'".toList
    let operands := if bracketed then call.arguments.dropLast else call.arguments
    match ← act (Shell.testCondition .outside operands).run with
    | .ok true => return
    | .ok false => setStatus 1
    | .error complaint => complain 2 complaint

/-! ### What they are told to -/

/-- The program `echo`. -/
def echo (call : Call) : Task :=
  task 1 call (say (Shell.plainEchoText false call.arguments))

/-- The program `printf`. -/
def printf (call : Call) : Task :=
  task 1 call do
    let arguments := match call.arguments with
      | ['-', '-'] :: rest => rest
      | rest => rest
    match arguments with
    | [] => missingOperand
    | format :: arguments =>
      let written := Shell.printfText .outside 0 format arguments
      Tool.each (fun part =>
        match part with
        | .output text => say text
        | .complaint text => warn text) written.parts.reverse
      setStatus written.status

/-! ### Where and who -/

/-- The program `pwd`. -/
def pwd (call : Call) : Task :=
  withOptions 1 1 ⟨"LP", "", "", [("logical", .nothing, "L"), ("physical", .nothing, "P")], false⟩
    call fun options => do
      if ¬ options.operands.isEmpty then warn "ignoring non-option arguments".toList
      let logical := environmentValue? call "PWD"
      let here ← lookAt ['.'] true
      let there ← lookAt (logical.getD []) true
      match options.lastOf ["L", "P"], logical, here, there with
      | some "L", some path, .ok here, .ok there =>
        if path.head? = some '/' ∧ here.number = there.number then
          return ← sayLine path
      | _, _, _, _ => pure ()
      match ← ask .directory with
      | .ok path => sayLine path
      | .error refusal => fail 1 ("error retrieving current directory: " ++ refusal.message)

/-- The program `whoami`. -/
def whoami (call : Call) : Task :=
  withOptions 1 1 (.letters "" "") call fun options => do
    if let some extra := options.operands.head? then extraOperand extra
    sayLine "root".toList

/-- The program `id`. -/
def id (call : Call) : Task :=
  withOptions 1 1 ⟨"agGnruz", "", "",
    [("group", .nothing, "g"), ("groups", .nothing, "G"), ("name", .nothing, "n"),
      ("real", .nothing, "r"), ("user", .nothing, "u")], false⟩ call fun options => do
    let person := options.operands.headD "root".toList
    if person ≠ "root".toList ∧ person ≠ ['0'] then
      fail 1 (quoted person ++ ": no such user")
    if options.has "u" ∨ options.has "g" ∨ options.has "G" then
      sayLine (if options.has "n" then "root".toList else ['0'])
    else if options.has "n" ∨ options.has "r" then
      fail 1 "cannot print only names or real IDs in default format".toList
    else sayLine "uid=0(root) gid=0(root) groups=0(root)".toList

/-- The program `groups`. -/
def groups (call : Call) : Task :=
  withOptions 1 1 (.letters "" "") call fun _ => sayLine "root".toList

/-- The program `uname`. -/
def uname (call : Call) : Task :=
  withOptions 1 1 ⟨"asnrvmpio", "", "",
    [("all", .nothing, "a"), ("kernel-name", .nothing, "s"), ("nodename", .nothing, "n"),
      ("kernel-release", .nothing, "r"), ("kernel-version", .nothing, "v"),
      ("machine", .nothing, "m"), ("processor", .nothing, "p"),
      ("hardware-platform", .nothing, "i"), ("operating-system", .nothing, "o")], false⟩ call
    fun options => do
      if let some extra := options.operands.head? then extraOperand extra
      let parts : List (String × String) :=
        [("s", "Linux"), ("n", "localhost"), ("r", "6.8.0"), ("v", "#1 SMP"), ("m", "x86_64"),
          ("p", "x86_64"), ("i", "x86_64"), ("o", "GNU/Linux")]
      let wanted := parts.filter fun part => options.has part.1 || options.has "a"
      let shown := if wanted.isEmpty then parts.take 1 else wanted
      sayLine (List.intercalate [' '] (shown.map fun part => part.2.toList))

/-- The program `hostname`. -/
def hostname (call : Call) : Task :=
  withOptions 1 1 (.letters "fsiIdA" "") call fun _ => sayLine "localhost".toList

/-- The program `arch`. -/
def arch (call : Call) : Task :=
  withOptions 1 1 (.letters "" "") call fun _ => sayLine "x86_64".toList

/-- The program `nproc`. -/
def nproc (call : Call) : Task :=
  withOptions 1 1 ⟨"", "", "", [("all", .nothing, "a"), ("ignore", .value, "i")], false⟩ call
    fun _ => sayLine ['4']

/-- The program `tty`. -/
def tty (call : Call) : Task :=
  withOptions 2 3 ⟨"s", "", "", [("silent", .nothing, "s"), ("quiet", .nothing, "s")], false⟩ call
    fun options => do
      if ¬ options.has "s" then sayLine "not a tty".toList
      setStatus 1

/-- The programs `who` and `users`, where nobody is logged in. -/
def nobody (call : Call) : Task :=
  withOptions 1 1 (.letters "" "") call fun _ => return

/-- The program `logname`, where nobody is logged in. -/
def logname (call : Call) : Task :=
  withOptions 1 1 (.letters "" "") call fun _ => fail 1 "no login name"

/-- The program `sync`. -/
def sync (call : Call) : Task :=
  withOptions 1 1 ⟨"df", "", "", [], false⟩ call fun _ => return

/-- The program `which`: where programs are found. -/
def which (call : Call) : Task :=
  task 1 call do
    let options ← match (⟨"as", "", "", [], true⟩ : Switches).read call.arguments with
      | .ok options => pure options
      | .error message => do
        writeError ("Illegal option -" ++ message.reverse.tail.take 1 ++
          "\nUsage: /usr/bin/which [-as] args\n")
        setStatus 2
        finish 2
    let all := options.has "a"
    let names := options.operands
    if names.isEmpty then setStatus 1
    let search := (environmentValue? call "PATH").getD []
    Tool.each (fun name => do
      let paths := if name.contains '/' then [name]
        else (search.splitOn ':').map fun directory =>
          below (if directory.isEmpty then ['.'] else directory) name
      let found ← Tool.fold (fun found path => do
        if ¬ found.isEmpty ∧ ¬ all then return found
        match ← lookAt path true with
        | .ok info =>
          if info.kind = .regular && info.permissions &&& 0o111 != 0 then return path :: found
          else return found
        | .error _ => return found) [] paths
      if found.isEmpty then setStatus 1
      if ¬ options.has "s" then Tool.each sayLine found.reverse) names

/-! ### Time -/

/-- The words of a date, which letters and digits make up by turns.  A sign belongs to the number
behind it. -/
def dateWords : Nat → Text → List Text
  | 0, _ => []
  | _ + 1, [] => []
  | fuel + 1, c :: cs =>
    if isSpaceChar c ∨ c = ',' then dateWords fuel cs
    else if c.isAlpha then
      let word := (c :: cs).takeWhile Char.isAlpha
      word.map Char.toLower :: dateWords fuel ((c :: cs).drop word.length)
    else if c = '+' ∨ c = '-' then
      let rest := cs.dropWhile isSpaceChar
      let digits := rest.takeWhile fun d => d.isDigit || d == ':'
      (c :: digits) :: dateWords fuel (rest.drop digits.length)
    else if c.isDigit ∨ c = '@' then
      let word := c :: cs.takeWhile fun d =>
        d.isDigit || d == ':' || d == '-' || d == '.' || d == '/'
      word :: dateWords fuel ((c :: cs).drop word.length)
    else [c] :: dateWords fuel cs

/-- A whole number with or without a sign. -/
def signedNumber? (text : Text) : Option Int :=
  match text with
  | '-' :: digits => (wholeNumber? digits).map fun n => -(n : Int)
  | '+' :: digits => (wholeNumber? digits).map fun n => (n : Int)
  | digits => (wholeNumber? digits).map fun n => (n : Int)

/-- How many seconds a unit of time has, how many days, and how many months. -/
def unitOf? (word : Text) : Option (Int × Int × Int) :=
  let word := if word.getLast? = some 's' ∧ 3 < word.length then word.dropLast else word
  ([("second", (1, 0, 0)), ("sec", (1, 0, 0)), ("minute", (60, 0, 0)), ("min", (60, 0, 0)),
    ("hour", (3600, 0, 0)), ("day", (0, 1, 0)), ("week", (0, 7, 0)), ("fortnight", (0, 14, 0)),
    ("month", (0, 0, 1)), ("year", (0, 0, 12))] :
      List (String × Int × Int × Int)).lookup (String.ofList word)

/-- What the words of a date have said so far: an instant in seconds with its fraction in
millionths, a day, a time of day, a day of the week, a distance from universal time in seconds, and
how many seconds, days and months are to be added. -/
structure DateParts where
  instant : Option (Int × Nat)
  day : Option Int
  time : Option (Nat × Nat)
  weekday : Option Nat
  zone : Int
  later : Int × Int × Int

namespace DateParts

/-- Nothing has been said. -/
def none_ : DateParts := ⟨none, none, none, none, 0, (0, 0, 0)⟩

/-- Some units of time are to be added. -/
def add (parts : DateParts) (n : Int) (unit : Int × Int × Int) : DateParts :=
  let (seconds, days, months) := parts.later
  { parts with
    later := (seconds + n * unit.1, days + n * unit.2.1, months + n * unit.2.2) }

/-- A date with the number of its year, its month and its day has been named, if there is that day.
-/
def onDay? (parts : DateParts) (year : Int) (month day : Nat) : Option DateParts :=
  let days := Moment.daysTo year month day
  if 1 ≤ month ∧ month ≤ 12 ∧ Moment.dateOf days = (year, month, day) then
    some { parts with day := some days }
  else none

/-- The instant that is meant, in millionths of a second. -/
def instantFrom (parts : DateParts) (now : Nat) : Int :=
  match parts.instant with
  | some (seconds, micro) => seconds * 1000000 + micro
  | none =>
    let present : Int := ((now / 1000000 : Nat) : Int)
    let today := present.fdiv 86400
    let dated := parts.day.isSome || parts.weekday.isSome
    let (time, micro) : Int × Nat := match parts.time with
      | some (time, micro) => ((time : Int), micro)
      | none => if dated then (0, 0) else (present - today * 86400, now % 1000000)
    let day := parts.day.getD today
    let day := match parts.day, parts.weekday with
      | none, some weekday => day + ((weekday : Int) - (day + 4)).fmod 7
      | _, _ => day
    let (seconds, days, months) := parts.later
    let (year, month, ofMonth) := Moment.dateOf day
    let total := year * 12 + (month : Int) - 1 + months
    let day := Moment.daysTo (total.fdiv 12) ((total.fmod 12).toNat + 1) ofMonth + days
    (day * 86400 + time + seconds - parts.zone) * 1000000 + micro

end DateParts

/-- The three numbers of a date with dashes or slashes. -/
def dateNumbers? (word : Text) : Option (Int × Nat × Nat) :=
  match (word.splitOn '-').map wholeNumber?, (word.splitOn '/').map wholeNumber? with
  | [some y, some m, some d], _ => some (y, m, d)
  | _, [some a, some b, some c] => if 31 < a then some (a, b, c) else some (c, a, b)
  | _, _ => none

/-- Some digits of a second as millionths. -/
def millionths (digits : Text) : Nat :=
  digitsValue (digits.take 6 ++ List.replicate (6 - digits.length) '0')

/-- The time of day with colons between its numbers. -/
def timeNumbers? (word : Text) : Option (Nat × Nat) :=
  let (whole, fraction) := (word.takeWhile (· != '.'), word.dropWhile (· != '.'))
  match (whole.splitOn ':').map wholeNumber? with
  | [some h, some m] => if h < 24 ∧ m < 60 then some (h * 3600 + m * 60, 0) else none
  | [some h, some m, some s] =>
    if h < 24 ∧ m < 60 ∧ s < 61 then
      some (h * 3600 + m * 60 + s, millionths (fraction.drop 1))
    else none
  | _ => none

/-- The distance from universal time, in seconds, that a sign with digits means. -/
def zoneOffset? (word : Text) : Option Int :=
  match word with
  | sign :: rest =>
    let digits := rest.filter (· != ':')
    if (sign = '+' ∨ sign = '-') ∧ digits.all Char.isDigit ∧
        (digits.length = 4 ∨ digits.length = 2) then
      let h := digitsValue (digits.take 2)
      let m := digitsValue (digits.drop 2)
      let offset : Int := h * 3600 + m * 60
      some (if sign = '-' then -offset else offset)
    else none
  | [] => none

/-- A name is the one that a word means, in full or by its first letters. -/
def isNamed (word : Text) (name : String) : Bool :=
  let name := name.toList.map Char.toLower
  word == name || word == name.take 3

/-- Reads the words of a date, with a bound on how many there are. -/
def readDate (now : Nat) : Nat → DateParts → List Text → Option DateParts
  | 0, _, _ => none
  | _ + 1, parts, [] => some parts
  | fuel + 1, parts, word :: rest =>
    let thisYear := (Moment.ofInstant now).year
    let next (parts : DateParts) (rest : List Text) : Option DateParts :=
      readDate now fuel parts rest
    /- a day of a month, with a year behind it or not -/
    let dated (month : Nat) (day : Text) (rest : List Text) : Option DateParts :=
      (wholeNumber? day).bind fun day =>
        match rest with
        | word :: more =>
          match if word.length = 4 then wholeNumber? word else none with
          | some year => (parts.onDay? year month day).bind fun parts => next parts more
          | none => (parts.onDay? thisYear month day).bind fun parts => next parts rest
        | [] => parts.onDay? thisYear month day
    match String.ofList word, rest with
    | "now", rest => next parts rest
    | "today", rest => next parts rest
    | "utc", rest => next parts rest
    | "gmt", rest => next parts rest
    | "z", rest => next parts rest
    | "t", rest => next parts rest
    | "yesterday", rest => next (parts.add (-1) (0, 1, 0)) rest
    | "tomorrow", rest => next (parts.add 1 (0, 1, 0)) rest
    | "midnight", rest => next { parts with time := some (0, 0) } rest
    | "noon", rest => next { parts with time := some (43200, 0) } rest
    | "next", unit :: rest => (unitOf? unit).bind fun unit => next (parts.add 1 unit) rest
    | "last", unit :: rest => (unitOf? unit).bind fun unit => next (parts.add (-1) unit) rest
    | _, rest =>
      let month := Moment.monthNames.findIdx? (isNamed word)
      let weekday := Moment.dayNames.findIdx? (isNamed word)
      match word, month, weekday, rest with
      | '@' :: digits, _, _, rest =>
        let whole := digits.takeWhile (· != '.')
        (signedNumber? whole).bind fun n =>
          next { parts with instant := some (n, millionths (digits.drop (whole.length + 1))) } rest
      | _, some month, _, day :: rest => dated (month + 1) day rest
      | word, _, some weekday, rest =>
        if unitOf? word = none then next { parts with weekday := some weekday } rest
        else none
      | word, _, _, rest =>
        match dateNumbers? word, timeNumbers? word, signedNumber? word, unitOf? word with
        | some (y, m, d), _, _, _ => (parts.onDay? y m d).bind fun parts => next parts rest
        | _, some time, _, _ => next { parts with time := some time } rest
        | _, _, some n, _ =>
          match rest.head?.bind unitOf?, rest with
          | some unit, _ :: ['a', 'g', 'o'] :: rest => next (parts.add (-n) unit) rest
          | some unit, _ :: rest => next (parts.add n unit) rest
          | _, rest =>
            match rest.head?.bind fun name => Moment.monthNames.findIdx? (isNamed name),
                zoneOffset? word with
            | some month, _ => dated (month + 1) word (rest.drop 1)
            | none, some zone => next { parts with zone } rest
            | none, none =>
              let part (from_ count : Nat) : Nat := digitsValue ((word.drop from_).take count)
              if word.length = 8 then
                (parts.onDay? (part 0 4) (part 4 2) (part 6 2)).bind fun parts => next parts rest
              else if word.length = 4 ∧ part 0 2 < 24 ∧ part 2 2 < 60 then
                next { parts with time := some (part 0 2 * 3600 + part 2 2 * 60, 0) } rest
              else none
        | _, _, _, some unit =>
          match rest with
          | ['a', 'g', 'o'] :: rest => next (parts.add (-1) unit) rest
          | rest => next (parts.add 1 unit) rest
        | _, _, _, none =>
          match zoneOffset? word with
          | some zone => next { parts with zone } rest
          | none => none

/-- The instant that a date means, in millionths of a second, where another instant is the present.
-/
def instantOf? (now : Nat) (text : Text) : Option Int :=
  let words := dateWords (text.length + 1) text
  let start : DateParts :=
    if words.isEmpty then { DateParts.none_ with time := some (0, 0) } else .none_
  (readDate now (words.length + 1) start words).map fun parts => parts.instantFrom now

/-- The switches of `date`. -/
def dateSwitches : Switches :=
  ⟨"uR", "drsf", "I",
    [("utc", .nothing, "u"), ("universal", .nothing, "u"), ("date", .value, "d"),
      ("reference", .value, "r"), ("set", .value, "s"), ("file", .value, "f"),
      ("iso-8601", .maybe, "I"), ("rfc-3339", .value, "rfc"), ("rfc-email", .nothing, "R")], false⟩

/-- The program `date`. -/
def date (call : Call) : Task :=
  withOptions 1 1 dateSwitches call fun options => do
    let now := match ← ask .clock with
      | .ok now => now
      | .error _ => 0
    let instant : Int ← match options.value? "d", options.value? "r" with
      | some text, _ =>
        match instantOf? now text with
        | some instant => pure instant
        | none => fail 1 ("invalid date " ++ quoted text)
      | none, some path =>
        match ← lookAt path true with
        | .ok info => pure (info.modified : Int)
        | .error refusal => fail 1 (about path refusal)
      | none, none => pure (now : Int)
    let moment := Moment.ofInstant instant
    let isoFormat (kind : Text) : Text :=
      if kind = "hours".toList then "%Y-%m-%dT%H+00:00".toList
      else if kind = "minutes".toList then "%Y-%m-%dT%H:%M+00:00".toList
      else if kind = "seconds".toList then "%Y-%m-%dT%H:%M:%S+00:00".toList
      else if kind = "ns".toList then "%Y-%m-%dT%H:%M:%S,%N+00:00".toList
      else "%Y-%m-%d".toList
    let format : Text ← match options.operands with
      | _ :: extra :: _ => extraOperand extra
      | ('+' :: format) :: _ => pure format
      | operand :: _ => fail 1 ("invalid date " ++ quoted operand)
      | [] =>
        if options.has "R" then pure "%a, %d %b %Y %H:%M:%S +0000".toList
        else if options.has "I" then pure (isoFormat ((options.value? "I").getD []))
        else
          match options.value? "rfc" with
          | some kind =>
            if kind = "date".toList then pure "%Y-%m-%d".toList
            else if kind = "ns".toList then pure "%Y-%m-%d %H:%M:%S.%N+00:00".toList
            else pure "%Y-%m-%d %H:%M:%S+00:00".toList
          | none => pure "%a %b %e %H:%M:%S UTC %Y".toList
    sayLine (moment.write format)

/-! ### `touch` -/

/-- The instant that a stamp of digits means. -/
def stampInstant? (now : Nat) (stamp : Text) : Option Int := do
  let digits := stamp.takeWhile Char.isDigit
  let seconds ← match stamp.drop digits.length with
    | [] => some 0
    | '.' :: rest => if rest.length = 2 then wholeNumber? rest else none
    | _ => none
  let year : Int ←
    if digits.length = 8 then some (Moment.ofInstant now).year
    else if digits.length = 10 then
      let y := digitsValue (digits.take 2)
      some (if y < 69 then 2000 + y else 1900 + y)
    else if digits.length = 12 then some (digitsValue (digits.take 4))
    else none
  let rest := digits.drop (digits.length - 8)
  let part (n : Nat) : Nat := digitsValue ((rest.drop (2 * n)).take 2)
  if part 0 = 0 ∨ 12 < part 0 ∨ part 1 = 0 ∨ 31 < part 1 ∨ 23 < part 2 ∨ 59 < part 3 then none
  else
    return (Moment.daysTo year (part 0) (part 1) * 86400 + part 2 * 3600 + part 3 * 60 + seconds) *
      1000000

/-- The switches of `touch`. -/
def touchSwitches : Switches :=
  ⟨"acfhm", "drt", "",
    [("no-create", .nothing, "c"), ("date", .value, "d"), ("no-dereference", .nothing, "h"),
      ("reference", .value, "r"), ("time", .value, "time")], false⟩

/-- Makes a file if it is not there, and sets the time when it was changed. -/
def touchAt (options : Options) (time : Option Nat) (path : Text) : Tool Unit := do
  let opened ←
    if options.has "c" ∨ options.has "h" then pure none
    else do
      match ← ask (.openFile path ⟨false, true, true, false, false, false⟩
          Disk.plainPermissions) with
      | .ok descriptor =>
        let _ ← ask (.close descriptor)
        pure none
      | .error .isDirectory => pure none
      | .error refusal => pure (some refusal)
  let changed ←
    if options.has "a" ∧ ¬ options.has "m" then
      match ← lookAt path true with
      | .ok _ => pure (.ok ())
      | .error refusal => pure (.error refusal)
    else ask (.setTime path time)
  match changed, opened with
  | .ok (), _ => return
  | .error _, some refusal => complain 1 (aboutQuoted "cannot touch " path refusal)
  | .error refusal, none =>
    if options.has "c" ∧ refusal = .noEntry then return
    complain 1 (aboutQuoted "setting times of " path refusal)

/-- The program `touch`. -/
def touch (call : Call) : Task :=
  withOptions 1 1 touchSwitches call fun options => do
    let now := match ← ask .clock with
      | .ok now => now
      | .error _ => 0
    let instant : Option Int ← match options.value? "t", options.value? "d", options.value? "r" with
      | some stamp, _, _ =>
        match stampInstant? now stamp with
        | some instant => pure (some instant)
        | none => fail 1 ("invalid date format " ++ quoted stamp)
      | none, some text, _ =>
        match instantOf? now text with
        | some instant => pure (some instant)
        | none => fail 1 ("invalid date format " ++ quoted text)
      | none, none, some path =>
        match ← lookAt path true with
        | .ok info => pure (some (info.modified : Int))
        | .error refusal =>
          fail 1 (aboutQuoted "failed to get attributes of " path refusal)
      | none, none, none => pure none
    if options.operands.isEmpty then misuse 1 "missing file operand".toList
    Tool.each (touchAt options (instant.map Int.toNat)) options.operands

end TaskRunner.Program
