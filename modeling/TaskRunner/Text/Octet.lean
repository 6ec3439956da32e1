import TaskRunner.Text.Utf8

/-! Rows of bytes as text.  What programs and files hold is handled as a list of characters, each of
which stands for one byte. -/

namespace TaskRunner

/-- A text in which every character stands for one byte. -/
abbrev Text := List Char

/-- The character that stands for a byte. -/
def octetChar (b : UInt8) : Char :=
  Char.ofNat b.toNat

/-- The byte that a character stands for. -/
def charOctet (c : Char) : UInt8 :=
  c.toNat.toUInt8

/-- The text that stands for a row of bytes. -/
def ofBytes (bytes : Bytes) : Text :=
  bytes.map octetChar

/-- The bytes that a text stands for. -/
def toBytes (text : Text) : Bytes :=
  text.map charOctet

/-- The bytes of ordinary text, as a text of bytes. -/
def ofString (text : String) : Text :=
  ofBytes (utf8 text)

/-- Ordinary text stands for its bytes. -/
instance : Coe String Text := ⟨ofString⟩

/-- A text stands before another one in the order of bytes, or is the same. -/
def isNotAfter (a b : Text) : Bool :=
  !decide (String.ofList b < String.ofList a)

/-- The bytes of a text, read as ordinary text. -/
def toOrdinary (text : Text) : String :=
  String.ofList (decodeLossy (toBytes text))

/-- The text that stands for the bytes of an array from `start` up to `stop`. -/
def ofByteArray (bytes : ByteArray) (start stop : Nat) : Text :=
  ofBytes (bytes.extract start stop).data.toList

/-- The bytes of a text as an array. -/
def toByteArray (text : Text) : ByteArray :=
  text.foldl (fun bytes c => bytes.push (charOctet c)) .empty

end TaskRunner
