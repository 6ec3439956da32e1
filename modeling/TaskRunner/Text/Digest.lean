import TaskRunner.Text.Octet

/-! Digests of texts: short rows of bytes that differ for different texts.  The text is filled up to
whole blocks, and each block is stirred into a few words. -/

namespace TaskRunner.Digest

/-! ### Words and blocks -/

/-- The number that bytes stand for, the highest first. -/
def numberOf (bytes : List UInt8) : Nat :=
  bytes.foldl (fun n b => n * 256 + b.toNat) 0

/-- The lowest bytes of a number, the highest of them first. -/
def bytesOf (count n : Nat) : List UInt8 :=
  (List.range count).reverse.map fun i => (n >>> (8 * i)).toUInt8

/-- The bytes from a place on, in their order or the other way round. -/
def slice (bytes : ByteArray) (reversed : Bool) (start count : Nat) : List UInt8 :=
  let found := (bytes.extract start (start + count)).data.toList
  if reversed then found.reverse else found

/-- The words of 32 bits in a block. -/
def words (bytes : ByteArray) (reversed : Bool) (start count : Nat) : Array UInt32 :=
  (Array.range count).map fun i => (numberOf (slice bytes reversed (start + 4 * i) 4)).toUInt32

/-- The words of 64 bits in a block. -/
def longWords (bytes : ByteArray) (reversed : Bool) (start count : Nat) : Array UInt64 :=
  (Array.range count).map fun i => (numberOf (slice bytes reversed (start + 8 * i) 8)).toUInt64

/-- A text with a mark behind it, filled up with zeros and its number of bits to whole blocks. -/
def padded (reversed : Bool) (block lengthSize : Nat) (text : Text) : ByteArray :=
  let bytes := toByteArray text
  let used := (bytes.size + 1 + lengthSize) % block
  let zeros := List.replicate ((block - used) % block) (0 : UInt8)
  let length := bytesOf lengthSize (8 * bytes.size)
  (0x80 :: zeros ++ if reversed then length.reverse else length).foldl ByteArray.push bytes

/-- What becomes of words when all blocks are stirred in. -/
def overBlocks {σ : Type} (block : Nat) (bytes : ByteArray) (start : σ)
    (step : σ → Nat → σ) : σ :=
  (List.range (bytes.size / block)).foldl (fun state i => step state (i * block)) start

/-- A word turned to the left. -/
def turned (n : UInt32) (x : UInt32) : UInt32 :=
  x <<< n ||| x >>> (32 - n)

/-- A word turned to the right. -/
def turnedBack (n : UInt32) (x : UInt32) : UInt32 :=
  x >>> n ||| x <<< (32 - n)

/-- A long word turned to the right. -/
def longTurnedBack (n : UInt64) (x : UInt64) : UInt64 :=
  x >>> n ||| x <<< (64 - n)

/-- The bits of one word where a third has ones, and of the other where it has zeros. -/
def chosen (x y z : UInt32) : UInt32 :=
  (x &&& y) ||| (~~~x &&& z)

/-- The bits that most of three words have. -/
def majority (x y z : UInt32) : UInt32 :=
  (x &&& y) ||| (x &&& z) ||| (y &&& z)

/-- The bits of one long word where a third has ones, and of the other where it has zeros. -/
def longChosen (x y z : UInt64) : UInt64 :=
  (x &&& y) ||| (~~~x &&& z)

/-- The bits that most of three long words have. -/
def longMajority (x y z : UInt64) : UInt64 :=
  (x &&& y) ||| (x &&& z) ||| (y &&& z)

/-! ### MD5 -/

/-- The sines of the numbers from 1 on, as fractions of a word. -/
def sines : Array UInt32 :=
  #[0xd76aa478, 0xe8c7b756, 0x242070db, 0xc1bdceee, 0xf57c0faf, 0x4787c62a, 0xa8304613, 0xfd469501,
    0x698098d8, 0x8b44f7af, 0xffff5bb1, 0x895cd7be, 0x6b901122, 0xfd987193, 0xa679438e, 0x49b40821,
    0xf61e2562, 0xc040b340, 0x265e5a51, 0xe9b6c7aa, 0xd62f105d, 0x02441453, 0xd8a1e681, 0xe7d3fbc8,
    0x21e1cde6, 0xc33707d6, 0xf4d50d87, 0x455a14ed, 0xa9e3e905, 0xfcefa3f8, 0x676f02d9, 0x8d2a4c8a,
    0xfffa3942, 0x8771f681, 0x6d9d6122, 0xfde5380c, 0xa4beea44, 0x4bdecfa9, 0xf6bb4b60, 0xbebfbc70,
    0x289b7ec6, 0xeaa127fa, 0xd4ef3085, 0x04881d05, 0xd9d4d039, 0xe6db99e5, 0x1fa27cf8, 0xc4ac5665,
    0xf4292244, 0x432aff97, 0xab9423a7, 0xfc93a039, 0x655b59c3, 0x8f0ccc92, 0xffeff47d, 0x85845dd1,
    0x6fa87e4f, 0xfe2ce6e0, 0xa3014314, 0x4e0811a1, 0xf7537e82, 0xbd3af235, 0x2ad7d2bb, 0xeb86d391]

/-- How far words are turned in the four rounds of MD5. -/
def md5Turns : Array UInt32 :=
  #[7, 12, 17, 22, 5, 9, 14, 20, 4, 11, 16, 23, 6, 10, 15, 21]

/-- A step of MD5. -/
def md5Step (block : Array UInt32) (state : UInt32 × UInt32 × UInt32 × UInt32) (i : Nat) :
    UInt32 × UInt32 × UInt32 × UInt32 :=
  let (a, b, c, d) := state
  let (mixed, place) : UInt32 × Nat := match i / 16 with
    | 0 => (chosen b c d, i)
    | 1 => (chosen d b c, 5 * i + 1)
    | 2 => (b ^^^ c ^^^ d, 3 * i + 5)
    | _ => (c ^^^ (b ||| ~~~d), 7 * i)
  let sum := a + mixed + sines[i]! + block[place % 16]!
  (d, b + turned md5Turns[i / 16 * 4 + i % 4]! sum, b, c)

/-- The digest MD5. -/
def md5 (text : Text) : List UInt8 :=
  let bytes := padded true 64 8 text
  let (a, b, c, d) := overBlocks 64 bytes
    ((0x67452301 : UInt32), (0xefcdab89 : UInt32), (0x98badcfe : UInt32), (0x10325476 : UInt32))
    fun (a, b, c, d) start =>
      let (a', b', c', d') :=
        (List.range 64).foldl (md5Step (words bytes true start 16)) (a, b, c, d)
      (a + a', b + b', c + c', d + d')
  [a, b, c, d].flatMap fun word => (bytesOf 4 word.toNat).reverse

/-! ### SHA-1 -/

/-- The words of a block with more words made of them: each is those that stand some places before
it, turned. -/
def sha1Words (block : Array UInt32) : Array UInt32 :=
  (List.range 64).foldl
    (fun words i => words.push
      (turned 1 (words[i + 13]! ^^^ words[i + 8]! ^^^ words[i + 2]! ^^^ words[i]!)))
    block

/-- A step of SHA-1. -/
def sha1Step (words : Array UInt32) (state : UInt32 × UInt32 × UInt32 × UInt32 × UInt32)
    (i : Nat) : UInt32 × UInt32 × UInt32 × UInt32 × UInt32 :=
  let (a, b, c, d, e) := state
  let (mixed, constant) : UInt32 × UInt32 := match i / 20 with
    | 0 => (chosen b c d, 0x5a827999)
    | 1 => (b ^^^ c ^^^ d, 0x6ed9eba1)
    | 2 => (majority b c d, 0x8f1bbcdc)
    | _ => (b ^^^ c ^^^ d, 0xca62c1d6)
  (turned 5 a + mixed + e + constant + words[i]!, a, turned 30 b, c, d)

/-- The digest SHA-1. -/
def sha1 (text : Text) : List UInt8 :=
  let bytes := padded false 64 8 text
  let (a, b, c, d, e) := overBlocks 64 bytes
    ((0x67452301 : UInt32), (0xefcdab89 : UInt32), (0x98badcfe : UInt32), (0x10325476 : UInt32),
      (0xc3d2e1f0 : UInt32))
    fun (a, b, c, d, e) start =>
      let (a', b', c', d', e') :=
        (List.range 80).foldl (sha1Step (sha1Words (words bytes false start 16))) (a, b, c, d, e)
      (a + a', b + b', c + c', d + d', e + e')
  [a, b, c, d, e].flatMap fun word => bytesOf 4 word.toNat

/-! ### SHA-2 -/

/-- The fractions of the cube roots of the first primes. -/
def cubeRoots : Array UInt64 :=
  #[0x428a2f98d728ae22, 0x7137449123ef65cd, 0xb5c0fbcfec4d3b2f, 0xe9b5dba58189dbbc,
    0x3956c25bf348b538, 0x59f111f1b605d019, 0x923f82a4af194f9b, 0xab1c5ed5da6d8118,
    0xd807aa98a3030242, 0x12835b0145706fbe, 0x243185be4ee4b28c, 0x550c7dc3d5ffb4e2,
    0x72be5d74f27b896f, 0x80deb1fe3b1696b1, 0x9bdc06a725c71235, 0xc19bf174cf692694,
    0xe49b69c19ef14ad2, 0xefbe4786384f25e3, 0x0fc19dc68b8cd5b5, 0x240ca1cc77ac9c65,
    0x2de92c6f592b0275, 0x4a7484aa6ea6e483, 0x5cb0a9dcbd41fbd4, 0x76f988da831153b5,
    0x983e5152ee66dfab, 0xa831c66d2db43210, 0xb00327c898fb213f, 0xbf597fc7beef0ee4,
    0xc6e00bf33da88fc2, 0xd5a79147930aa725, 0x06ca6351e003826f, 0x142929670a0e6e70,
    0x27b70a8546d22ffc, 0x2e1b21385c26c926, 0x4d2c6dfc5ac42aed, 0x53380d139d95b3df,
    0x650a73548baf63de, 0x766a0abb3c77b2a8, 0x81c2c92e47edaee6, 0x92722c851482353b,
    0xa2bfe8a14cf10364, 0xa81a664bbc423001, 0xc24b8b70d0f89791, 0xc76c51a30654be30,
    0xd192e819d6ef5218, 0xd69906245565a910, 0xf40e35855771202a, 0x106aa07032bbd1b8,
    0x19a4c116b8d2d0c8, 0x1e376c085141ab53, 0x2748774cdf8eeb99, 0x34b0bcb5e19b48a8,
    0x391c0cb3c5c95a63, 0x4ed8aa4ae3418acb, 0x5b9cca4f7763e373, 0x682e6ff3d6b2b8a3,
    0x748f82ee5defb2fc, 0x78a5636f43172f60, 0x84c87814a1f0ab72, 0x8cc702081a6439ec,
    0x90befffa23631e28, 0xa4506cebde82bde9, 0xbef9a3f7b2c67915, 0xc67178f2e372532b,
    0xca273eceea26619c, 0xd186b8c721c0c207, 0xeada7dd6cde0eb1e, 0xf57d4f7fee6ed178,
    0x06f067aa72176fba, 0x0a637dc5a2c898a6, 0x113f9804bef90dae, 0x1b710b35131c471b,
    0x28db77f523047d84, 0x32caab7b40c72493, 0x3c9ebe0a15c9bebc, 0x431d67c49c100d4c,
    0x4cc5d4becb3e42b6, 0x597f299cfc657e2a, 0x5fcb6fab3ad6faec, 0x6c44198c4a475817]

/-- The fractions of the square roots of the first eight primes. -/
def squareRoots : Array UInt64 :=
  #[0x6a09e667f3bcc908, 0xbb67ae8584caa73b, 0x3c6ef372fe94f82b, 0xa54ff53a5f1d36f1,
    0x510e527fade682d1, 0x9b05688c2b3e6c1f, 0x1f83d9abfb41bd6b, 0x5be0cd19137e2179]

/-- The fractions of the square roots of the next eight primes. -/
def laterSquareRoots : Array UInt64 :=
  #[0xcbbb9d5dc1059ed8, 0x629a292a367cd507, 0x9159015a3070dd17, 0x152fecd8f70e5939,
    0x67332667ffc00b31, 0x8eb44a8768581511, 0xdb0c2e0d64f98fa7, 0x47b5481dbefa4fa4]

/-- The higher half of a long word. -/
def highHalf (x : UInt64) : UInt32 :=
  (x >>> 32).toUInt32

/-- The words of a block with more words made of them. -/
def sha2Words (block : Array UInt32) : Array UInt32 :=
  (List.range 48).foldl
    (fun words i =>
      let a := words[i + 1]!
      let b := words[i + 14]!
      words.push (words[i]! + (turnedBack 7 a ^^^ turnedBack 18 a ^^^ a >>> 3) + words[i + 9]! +
        (turnedBack 17 b ^^^ turnedBack 19 b ^^^ b >>> 10)))
    block

/-- A step of SHA-2 with words of 32 bits. -/
def sha2Step (words roots state : Array UInt32) (i : Nat) : Array UInt32 :=
  let a := state[0]!
  let e := state[4]!
  let first := state[7]! + (turnedBack 6 e ^^^ turnedBack 11 e ^^^ turnedBack 25 e) +
    chosen e state[5]! state[6]! + roots[i]! + words[i]!
  let second := (turnedBack 2 a ^^^ turnedBack 13 a ^^^ turnedBack 22 a) +
    majority a state[1]! state[2]!
  #[first + second, a, state[1]!, state[2]!, state[3]! + first, e, state[5]!, state[6]!]

/-- SHA-2 with words of 32 bits, from some words on: as many bytes as are wanted. -/
def sha2 (start : Array UInt32) (size : Nat) (text : Text) : List UInt8 :=
  let bytes := padded false 64 8 text
  let roots := cubeRoots.map highHalf
  let last := overBlocks 64 bytes start fun state place =>
    let stirred :=
      (List.range 64).foldl (sha2Step (sha2Words (words bytes false place 16)) roots) state
    state.zipWith (· + ·) stirred
  (last.toList.flatMap fun word => bytesOf 4 word.toNat).take size

/-- The words of a block with more words made of them, with long words. -/
def longSha2Words (block : Array UInt64) : Array UInt64 :=
  (List.range 64).foldl
    (fun words i =>
      let a := words[i + 1]!
      let b := words[i + 14]!
      words.push
        (words[i]! + (longTurnedBack 1 a ^^^ longTurnedBack 8 a ^^^ a >>> 7) + words[i + 9]! +
          (longTurnedBack 19 b ^^^ longTurnedBack 61 b ^^^ b >>> 6)))
    block

/-- A step of SHA-2 with long words. -/
def longSha2Step (words state : Array UInt64) (i : Nat) : Array UInt64 :=
  let a := state[0]!
  let e := state[4]!
  let first := state[7]! + (longTurnedBack 14 e ^^^ longTurnedBack 18 e ^^^ longTurnedBack 41 e) +
    longChosen e state[5]! state[6]! + cubeRoots[i]! + words[i]!
  let second := (longTurnedBack 28 a ^^^ longTurnedBack 34 a ^^^ longTurnedBack 39 a) +
    longMajority a state[1]! state[2]!
  #[first + second, a, state[1]!, state[2]!, state[3]! + first, e, state[5]!, state[6]!]

/-- SHA-2 with long words, from some words on: as many bytes as are wanted. -/
def longSha2 (start : Array UInt64) (size : Nat) (text : Text) : List UInt8 :=
  let bytes := padded false 128 16 text
  let last := overBlocks 128 bytes start fun state place =>
    let stirred :=
      (List.range 80).foldl (longSha2Step (longSha2Words (longWords bytes false place 16))) state
    state.zipWith (· + ·) stirred
  (last.toList.flatMap fun word => bytesOf 8 word.toNat).take size

/-- The digest SHA-224. -/
def sha224 : Text → List UInt8 :=
  sha2 (laterSquareRoots.map UInt64.toUInt32) 28

/-- The digest SHA-256. -/
def sha256 : Text → List UInt8 :=
  sha2 (squareRoots.map highHalf) 32

/-- The digest SHA-384. -/
def sha384 : Text → List UInt8 :=
  longSha2 laterSquareRoots 48

/-- The digest SHA-512. -/
def sha512 : Text → List UInt8 :=
  longSha2 squareRoots 64

/-! ### BLAKE2b -/

/-- The order in which the words of a block are used in ten rounds of BLAKE2b. -/
def blakeOrder : Array (Array Nat) :=
  #[#[0, 1, 2, 3, 4, 5, 6, 7, 8, 9, 10, 11, 12, 13, 14, 15],
    #[14, 10, 4, 8, 9, 15, 13, 6, 1, 12, 0, 2, 11, 7, 5, 3],
    #[11, 8, 12, 0, 5, 2, 15, 13, 10, 14, 3, 6, 7, 1, 9, 4],
    #[7, 9, 3, 1, 13, 12, 11, 14, 2, 6, 5, 10, 4, 0, 15, 8],
    #[9, 0, 5, 7, 2, 4, 10, 15, 14, 1, 11, 12, 6, 8, 3, 13],
    #[2, 12, 6, 10, 0, 11, 8, 3, 4, 13, 7, 5, 15, 14, 1, 9],
    #[12, 5, 1, 15, 14, 13, 4, 10, 0, 7, 6, 3, 9, 2, 8, 11],
    #[13, 11, 7, 14, 12, 1, 3, 9, 5, 0, 15, 4, 8, 6, 2, 10],
    #[6, 15, 14, 9, 11, 3, 0, 8, 12, 2, 13, 7, 1, 4, 10, 5],
    #[10, 2, 8, 4, 7, 6, 1, 5, 15, 11, 9, 14, 3, 12, 13, 0]]

/-- The places that are stirred together in a round of BLAKE2b: the columns of a square and then
its diagonals. -/
def blakePlaces : List (Nat × Nat × Nat × Nat) :=
  [(0, 4, 8, 12), (1, 5, 9, 13), (2, 6, 10, 14), (3, 7, 11, 15), (0, 5, 10, 15), (1, 6, 11, 12),
    (2, 7, 8, 13), (3, 4, 9, 14)]

/-- Four of the words of BLAKE2b stirred together with two words of the block. -/
def blakeStir (v : Array UInt64) (places : Nat × Nat × Nat × Nat) (x y : UInt64) :
    Array UInt64 :=
  let (i, j, k, l) := places
  let a := v[i]! + v[j]! + x
  let d := longTurnedBack 32 (v[l]! ^^^ a)
  let c := v[k]! + d
  let b := longTurnedBack 24 (v[j]! ^^^ c)
  let a := a + b + y
  let d := longTurnedBack 16 (d ^^^ a)
  let c := c + d
  let b := longTurnedBack 63 (b ^^^ c)
  (((v.set! i a).set! j b).set! k c).set! l d

/-- A round of BLAKE2b. -/
def blakeRound (block v : Array UInt64) (round : Nat) : Array UInt64 :=
  let order := blakeOrder[round % 10]!
  (blakePlaces.zip (List.range 8)).foldl
    (fun v (places, i) => blakeStir v places block[order[2 * i]!]! block[order[2 * i + 1]!]!) v

/-- The digest BLAKE2b with a number of bytes. -/
def blake2b (size : Nat) (text : Text) : List UInt8 :=
  let length := text.length
  let blocks := max 1 ((length + 127) / 128)
  let bytes := (List.replicate (blocks * 128 - length) (0 : UInt8)).foldl ByteArray.push
    (toByteArray text)
  let start := squareRoots.modify 0 (· ^^^ 0x01010000 ^^^ size.toUInt64)
  let last := (List.range blocks).foldl
    (fun state i =>
      let done := min length ((i + 1) * 128)
      let v := state ++ squareRoots
      let v := v.modify 12 (· ^^^ done.toUInt64)
      let v := if i + 1 = blocks then v.modify 14 (fun w => ~~~w) else v
      let v := (List.range 12).foldl (blakeRound (longWords bytes true (i * 128) 16)) v
      (Array.range 8).map fun j => state[j]! ^^^ v[j]! ^^^ v[j + 8]!)
    start
  (last.toList.flatMap fun word => (bytesOf 8 word.toNat).reverse).take size

/-! ### Sums -/

/-- What eight bits become in the sum by division. -/
def divided (c : UInt32) : UInt32 :=
  (List.range 8).foldl
    (fun c _ => if c &&& 0x80000000 = 0 then c <<< 1 else c <<< 1 ^^^ 0x04c11db7) c

/-- What each byte becomes in the sum by division. -/
def dividedBytes : Array UInt32 :=
  (Array.range 256).map fun n => divided (UInt32.ofNat n <<< 24)

/-- A byte added to the sum by division. -/
def divisionStep (sum : UInt32) (b : UInt8) : UInt32 :=
  sum <<< 8 ^^^ dividedBytes[((sum >>> 24).toUInt8 ^^^ b).toNat]!

/-- The bytes of a number that are needed, the lowest first, with a bound on how many. -/
def neededBytes : Nat → Nat → List UInt8
  | 0, _ => []
  | fuel + 1, n => if n = 0 then [] else n.toUInt8 :: neededBytes fuel (n / 256)

/-- The rest that a text and its length leave when they are divided by a polynomial. -/
def divisionSum (text : Text) : Nat :=
  let sum := text.foldl (fun sum c => divisionStep sum (charOctet c)) 0
  (~~~((neededBytes 16 text.length).foldl divisionStep sum)).toNat

/-- The sum of the bytes in 16 bits that are turned at each byte. -/
def turningSum (text : Text) : Nat :=
  text.foldl (fun sum c => (sum / 2 + sum % 2 * 32768 + c.toNat) % 65536) 0

/-- The sum of the bytes, folded to 16 bits. -/
def plainSum (text : Text) : Nat :=
  let sum := text.foldl (fun sum c => (sum + c.toNat) % 4294967296) 0
  let sum := sum % 65536 + sum / 65536
  sum % 65536 + sum / 65536

/-- Bytes as pairs of hexadecimal digits. -/
def hexadecimal (bytes : List UInt8) : Text :=
  bytes.flatMap fun b => [Nat.digitChar (b.toNat / 16), Nat.digitChar (b.toNat % 16)]

end TaskRunner.Digest
