/-! Bytes read as text in UTF-8.  Bytes that encode no character are read as the replacement
character, one for every longest beginning of an encoding and one for every byte that begins
none. -/

namespace TaskRunner

/-- A row of bytes. -/
abbrev Bytes := List UInt8

/-- The bytes of a text. -/
def utf8 (text : String) : Bytes :=
  text.toByteArray.data.toList

/-- A first byte of several: its share of the code point, the number of bytes to follow, and the
bounds of the second byte. -/
structure LeadByte where
  share : Nat
  following : Nat
  low : UInt8
  high : UInt8

/-- What a byte begins.  The bounds leave out longer encodings than needed, surrogates, and code
points past the last one. -/
def LeadByte.of? (b : UInt8) : Option LeadByte :=
  let n := b.toNat
  if b < 0x80 then some ⟨n, 0, 0x80, 0xbf⟩
  else if b < 0xc2 then none
  else if b < 0xe0 then some ⟨n - 0xc0, 1, 0x80, 0xbf⟩
  else if b = 0xe0 then some ⟨n - 0xe0, 2, 0xa0, 0xbf⟩
  else if b = 0xed then some ⟨n - 0xe0, 2, 0x80, 0x9f⟩
  else if b < 0xf0 then some ⟨n - 0xe0, 2, 0x80, 0xbf⟩
  else if b = 0xf0 then some ⟨n - 0xf0, 3, 0x90, 0xbf⟩
  else if b < 0xf4 then some ⟨n - 0xf0, 3, 0x80, 0xbf⟩
  else if b = 0xf4 then some ⟨n - 0xf0, 3, 0x80, 0x8f⟩
  else none

/-- Completes a code point with the bytes that follow, as far as they can. -/
def completeCode (code : Nat) (low high : UInt8) : Nat → Bytes → Option Nat × Bytes
  | 0, bytes => (some code, bytes)
  | _ + 1, [] => (none, [])
  | n + 1, b :: bytes =>
    if low ≤ b ∧ b ≤ high then completeCode (64 * code + b.toNat % 64) 0x80 0xbf n bytes
    else (none, b :: bytes)

theorem length_completeCode (code : Nat) (low high : UInt8) (n : Nat) (bytes : Bytes) :
    (completeCode code low high n bytes).2.length ≤ bytes.length := by
  induction bytes generalizing code low high n with
  | nil => cases n <;> simp [completeCode]
  | cons b bytes ih =>
    cases n with
    | zero => simp [completeCode]
    | succ n =>
      rw [completeCode]
      split
      · exact Nat.le_succ_of_le (ih ..)
      · exact Nat.le_refl _

/-- The characters that the bytes encode, with nothing for bytes that encode none. -/
def decodeEach : Bytes → List (Option Char)
  | [] => []
  | b :: bytes =>
    match LeadByte.of? b with
    | none => none :: decodeEach bytes
    | some lead =>
      let completed := completeCode lead.share lead.low lead.high lead.following bytes
      completed.1.map Char.ofNat :: decodeEach completed.2
termination_by bytes => bytes.length
decreasing_by
  · simp
  · exact Nat.lt_succ_of_le (length_completeCode ..)

/-- The text of the bytes, if all of them encode characters. -/
def decode? (bytes : Bytes) : Option (List Char) :=
  (decodeEach bytes).mapM id

/-- The text of the bytes, with replacement characters where they encode none. -/
def decodeLossy (bytes : Bytes) : List Char :=
  (decodeEach bytes).map fun c => c.getD '\ufffd'

end TaskRunner
