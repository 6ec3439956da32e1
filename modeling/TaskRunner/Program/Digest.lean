import TaskRunner.Program.Input
import TaskRunner.Text.Digest

/-! Programs that tell the digests of files and check them: `md5sum` and its kin, `cksum` and
`sum`. -/

namespace TaskRunner.Program

open Tool

/-- A kind of digest: what it is called, how many bytes it has, and what it is of a text. -/
structure DigestKind where
  label : Text
  size : Nat
  digest : Text → List UInt8

namespace DigestKind

/-- MD5. -/
def md5 : DigestKind := ⟨"MD5", 16, Digest.md5⟩

/-- SHA-1. -/
def sha1 : DigestKind := ⟨"SHA1", 20, Digest.sha1⟩

/-- SHA-224. -/
def sha224 : DigestKind := ⟨"SHA224", 28, Digest.sha224⟩

/-- SHA-256. -/
def sha256 : DigestKind := ⟨"SHA256", 32, Digest.sha256⟩

/-- SHA-384. -/
def sha384 : DigestKind := ⟨"SHA384", 48, Digest.sha384⟩

/-- SHA-512. -/
def sha512 : DigestKind := ⟨"SHA512", 64, Digest.sha512⟩

/-- BLAKE2b with a number of bytes. -/
def blake2b (size : Nat) : DigestKind :=
  ⟨if size = 64 then "BLAKE2b" else "BLAKE2b-" ++ decimal (8 * size), size, Digest.blake2b size⟩

/-- The digest of a text in letters. -/
def shown (kind : DigestKind) (text : Text) : Text :=
  Digest.hexadecimal (kind.digest text)

end DigestKind

/-! ### Names in lists -/

/-- A name on one line: what would break it is escaped. -/
def escapedName (name : Text) : Text :=
  name.flatMap fun c =>
    if c = '\\' then ['\\', '\\']
    else if c = '\n' then ['\\', 'n']
    else if c = '\r' then ['\\', 'r']
    else [c]

/-- The name that was escaped, if it is one. -/
def unescapedName? : Text → Option Text
  | [] => some []
  | '\\' :: 'n' :: rest => (unescapedName? rest).map ('\n' :: ·)
  | '\\' :: 'r' :: rest => (unescapedName? rest).map ('\r' :: ·)
  | '\\' :: '\\' :: rest => (unescapedName? rest).map ('\\' :: ·)
  | c :: rest => if c = '\\' then none else (unescapedName? rest).map (c :: ·)

/-- A digest as a list has it: with the name behind, or with the kind and the name in front. -/
def digestLine (kind : DigestKind) (tagged binary zero : Bool) (name digest : Text) : Text :=
  let escaped := if zero then name else escapedName name
  let front : Text := if escaped = name then [] else ['\\']
  let line :=
    if tagged then kind.label ++ " (" ++ escaped ++ ") = " ++ digest
    else digest ++ [' ', if binary then '*' else ' '] ++ escaped
  front ++ line ++ [if zero then '\x00' else '\n']

/-! ### Lists that are checked -/

/-- An entry of a list: the digest and the name of the file. -/
structure DigestEntry where
  digest : Text
  name : Text
deriving DecidableEq, Repr

/-- A name with what is before its last bracket, and what comes after. -/
def beforeBracket? (text : Text) : Option (Text × Text) :=
  let after := text.reverse.takeWhile (· != ')')
  match text.reverse.drop after.length with
  | [] => none
  | _ :: name => some (name.reverse, after.reverse)

/-- The entry of a list with the kind in front. -/
def taggedEntry? (size : Nat) (text : Text) : Option DigestEntry := do
  let (name, after) ← beforeBracket? text
  match after.dropWhile isBlankChar with
  | '=' :: digest =>
    let digest := digest.dropWhile isBlankChar
    if digest.length = 2 * size ∧ digest.all fun c => (hexDigit? c).isSome then
      some ⟨digest, name⟩
    else none
  | _ => none

/-- The entry of a list with the name behind, and whether a single space stands before the name.
All entries of a list agree about that. -/
def namedEntry? (size : Nat) (single : Option Bool) (text : Text) :
    Option (DigestEntry × Bool) :=
  let digest := text.takeWhile fun c => (hexDigit? c).isSome
  if digest.length ≠ 2 * size then none
  else
    match text.drop digest.length with
    | c :: rest =>
      if ¬ isBlankChar c then none
      else if rest.length = 1 ∨ (rest.head? ≠ some ' ' ∧ rest.head? ≠ some '*') then
        if single = some false then none else some (⟨digest, rest⟩, true)
      else if single = some true then some (⟨digest, rest⟩, true)
      else some (⟨digest, rest.tail⟩, false)
    | [] => none

/-- The entry on a line of a list, and what it says of the spaces before names. -/
def digestEntry? (kind : DigestKind) (single : Option Bool) (line : Text) :
    Option (DigestEntry × Option Bool) := do
  let text := line.dropWhile isBlankChar
  let escaped := text.head? == some '\\'
  let text := if escaped then text.tail else text
  let finish (entry : DigestEntry) : Option DigestEntry :=
    if escaped then (unescapedName? entry.name).map fun name => { entry with name } else some entry
  if kind.label.isPrefixOf text then
    let rest := text.drop kind.label.length
    match if rest.head? = some ' ' then rest.tail else rest with
    | '(' :: rest => return (← finish (← taggedEntry? kind.size rest), single)
    | _ => none
  else
    let (entry, isSingle) ← namedEntry? kind.size single text
    return (← finish entry, some isSingle)

/-- How the checking of a list has come out so far: how many lines were wrong and right, how many
files had another digest, had the right one, or could not be read; and how names are spaced. -/
structure CheckState where
  number : Nat
  malformed : Nat
  formed : Nat
  mismatched : Nat
  matched : Nat
  unread : Nat
  single : Option Bool

/-- All that can be read under a name. -/
def readNamed (path : Text) : Tool (Except Refusal Text) := do
  let descriptor ← if path = standardInput then pure (.ok 0) else openInput path
  match descriptor with
  | .error refusal => return .error refusal
  | .ok descriptor => do
    let (text, outcome) ← act (Act.readAll descriptor)
    if path ≠ standardInput then
      let _ ← ask (.close descriptor)
    match outcome with
    | .ok () => return .ok text
    | .error refusal => return .error refusal

/-- The name of a list in complaints. -/
def listName (path : Text) : Text :=
  if path = standardInput then "'standard input'" else shownName path

/-- Checks a file against its entry in a list. -/
def checkEntry (kind : DigestKind) (options : Options) (state : CheckState)
    (entry : DigestEntry) : Tool CheckState := do
  let silent := options.has "status"
  let escaped := escapedName entry.name
  let name : Text := if escaped = entry.name then entry.name else '\\' :: escaped
  match ← readNamed entry.name with
  | .error refusal => do
    if options.has "ignore-missing" ∧ refusal = .noEntry then return state
    warn (about entry.name refusal)
    if ¬ silent then sayLine (name ++ ": FAILED open or read")
    return { state with unread := state.unread + 1 }
  | .ok text => do
    if kind.shown text = entry.digest.map Char.toLower then
      if ¬ silent ∧ ¬ options.has "quiet" then sayLine (name ++ ": OK")
      return { state with matched := state.matched + 1 }
    else
      if ¬ silent then sayLine (name ++ ": FAILED")
      return { state with mismatched := state.mismatched + 1 }

/-- Checks what stands on a line of a list. -/
def checkLine (kind : DigestKind) (options : Options) (path : Text) (state : CheckState)
    (line : Line) : Tool CheckState := do
  let state := { state with number := state.number + 1 }
  let text := if line.text.getLast? = some '\r' then line.text.dropLast else line.text
  if text.isEmpty ∨ text.head? = some '#' then return state
  match digestEntry? kind state.single text with
  | none => do
    if options.has "w" then
      warn (listName path ++ ": " ++ decimal state.number ++ ": improperly formatted " ++
        kind.label ++ " checksum line")
    return { state with malformed := state.malformed + 1 }
  | some (entry, single) =>
    checkEntry kind options { state with formed := state.formed + 1, single } entry

/-- Tells of something that there is a number of. -/
def warnCount (count : Nat) (one many : String) : Tool Unit := do
  if count ≠ 0 then
    warn ("WARNING: " ++ decimal count ++ ofString (if count = 1 then one else many))

/-- Checks the files in a list. -/
def checkList (kind : DigestKind) (options : Options) (path : Text) (descriptor : Nat) :
    Tool Unit := do
  let (outcome, state) ← eachLine (.ofDescriptor descriptor) '\n'
    (⟨0, 0, 0, 0, 0, 0, none⟩ : CheckState) (checkLine kind options path)
  match outcome with
  | .error refusal => complain 1 (listName path ++ ": " ++ refusal.message)
  | .ok () =>
    if state.formed = 0 then
      complain 1 (listName path ++ ": no properly formatted checksum lines found")
    else
      if ¬ options.has "status" then
        warnCount state.malformed " line is improperly formatted" " lines are improperly formatted"
        warnCount state.unread " listed file could not be read" " listed files could not be read"
        warnCount state.mismatched " computed checksum did NOT match"
          " computed checksums did NOT match"
        if options.has "ignore-missing" ∧ state.matched = 0 then
          warn (listName path ++ ": no file was verified")
      if state.matched = 0 ∨ state.mismatched ≠ 0 ∨ state.unread ≠ 0 ∨
          (options.has "strict" ∧ state.malformed ≠ 0) then
        setStatus 1

/-! ### The programs -/

/-- The switches that mean something only when a list is checked. -/
def checkingSwitches : List String :=
  ["ignore-missing", "status", "w", "quiet", "strict"]

/-- The switches of the programs that tell digests, with more letters that have values. -/
def digestSwitches (flags valued : String) (more : List (String × Need × String)) : Switches :=
  ⟨flags, valued, "",
    [("binary", .nothing, "b"), ("check", .nothing, "c"),
      ("ignore-missing", .nothing, "ignore-missing"), ("quiet", .nothing, "quiet"),
      ("status", .nothing, "status"), ("strict", .nothing, "strict"), ("tag", .nothing, "tag"),
      ("text", .nothing, "t"), ("warn", .nothing, "w"), ("zero", .nothing, "z")] ++ more,
    false⟩

/-- Tells or checks digests of a kind. -/
def tellDigests (kind : DigestKind) (tagged : Bool) (options : Options) : Tool Unit := do
  if options.has "c" then
    if options.has "tag" then
      misuse 1 "the --tag option is meaningless when verifying checksums"
    if options.has "b" ∨ options.has "t" then
      misuse 1 "the --binary and --text options are meaningless when verifying checksums"
    eachInput 1 about options.operands (checkList kind options)
  else
    match checkingSwitches.find? options.has with
    | some key =>
      let name := if key = "w" then "warn" else key
      misuse 1 ("the --" ++ name ++ " option is meaningful only when verifying checksums" : String)
    | none => pure ()
    let binary := options.lastOf ["b", "t"] == some "b"
    eachInput 1 about options.operands fun path descriptor => do
      let (text, outcome) ← act (Act.readAll descriptor)
      match outcome with
      | .error refusal => complain 1 (about path refusal)
      | .ok () =>
        say (digestLine kind tagged binary (options.has "z") path (kind.shown text))

/-- The program that tells digests of a kind. -/
def digestsAs (kind : DigestKind) (call : Call) : Task :=
  withOptions 1 1 (digestSwitches "bctwz" "" []) call fun options =>
    tellDigests kind (options.has "tag") options

/-- The program `b2sum`. -/
def b2sum (call : Call) : Task :=
  withOptions 1 1 (digestSwitches "bctwz" "l" [("length", .value, "l")]) call fun options => do
    let bits ← match options.value? "l" with
      | none => pure 512
      | some text =>
        match wholeNumber? text with
        | some n => pure (if n = 0 then 512 else n)
        | none => fail 1 ("invalid length: " ++ quoted text)
    if bits % 8 ≠ 0 ∨ 512 < bits then
      let shown : Text := quoted ((options.value? "l").getD [])
      warn ("invalid length: " ++ shown)
      if 512 < bits then fail 1 "maximum digest length for 'BLAKE2b' is 512 bits"
      else fail 1 "length is not a multiple of 8"
    tellDigests (.blake2b (bits / 8)) (options.has "tag") options

/-- What is said of a text that is summed up. -/
abbrev SumLine := Text → Text

/-- The line of `cksum`: the rest by division, and the number of bytes. -/
def divisionLine : SumLine := fun text =>
  decimal (Digest.divisionSum text) ++ ' ' :: decimal text.length

/-- The line of `sum`: the sum that is turned, and the number of blocks of 1024 bytes. -/
def turningLine : SumLine := fun text =>
  let sum := decimal (Digest.turningSum text)
  List.replicate (5 - sum.length) '0' ++ sum ++
    ' ' :: padLeft 5 (decimal ((text.length + 1023) / 1024))

/-- The line of `sum -s`: the plain sum, and the number of blocks of 512 bytes. -/
def plainLine : SumLine := fun text =>
  decimal (Digest.plainSum text) ++ ' ' :: decimal ((text.length + 511) / 512)

/-- Tells the sums of files. -/
def tellSums (line : SumLine) (options : Options) : Tool Unit :=
  eachInput 1 about options.operands fun path descriptor => do
    let (text, outcome) ← act (Act.readAll descriptor)
    match outcome with
    | .error refusal => complain 1 (about path refusal)
    | .ok () =>
      sayLine (line text ++ if options.operands.isEmpty then [] else ' ' :: path)

/-- The program `sum`. -/
def sum (call : Call) : Task :=
  let switches : Switches := ⟨"rs", "", "", [("sysv", .nothing, "s")], false⟩
  withOptions 1 1 switches call fun options =>
    tellSums (if options.lastOf ["r", "s"] = some "s" then plainLine else turningLine) options

/-- What `cksum` can be asked for. -/
inductive Algorithm where
  | sums (line : SumLine)
  | digests (kind : DigestKind)

/-- The algorithms of `cksum` by name. -/
def algorithms : List (String × Algorithm) :=
  [("bsd", .sums turningLine), ("sysv", .sums plainLine), ("crc", .sums divisionLine),
    ("md5", .digests .md5), ("sha1", .digests .sha1), ("sha224", .digests .sha224),
    ("sha256", .digests .sha256), ("sha384", .digests .sha384), ("sha512", .digests .sha512),
    ("blake2b", .digests (.blake2b 64))]

/-- The program `cksum`. -/
def cksum (call : Call) : Task :=
  let switches := digestSwitches "cwz" "a"
    [("algorithm", .value, "a"), ("untagged", .nothing, "untagged")]
  withOptions 1 1 switches call fun options => do
    let name := options.value? "a" |>.getD "crc"
    match algorithms.find? fun entry => ofString entry.1 == name with
    | some (_, .sums line) =>
      if options.has "c" then
        fail 1 "--check is not supported with --algorithm=\x7bbsd,sysv,crc\x7d"
      else tellSums line options
    | some (_, .digests kind) =>
      tellDigests kind (options.lastOf ["tag", "untagged"] != some "untagged") options
    | none => do
      warn ("invalid argument " ++ quoted name ++ " for '--algorithm'")
      writeError "Valid arguments are:\n"
      each (fun entry => writeError ("  - '" ++ entry.1 ++ "'\n" : String))
        (algorithms ++ [("sm3", .sums divisionLine)])
      writeError ("Try '" ++ call.name ++ " --help' for more information.\n")
      setStatus 1
      finish 1

end TaskRunner.Program
