import VariantRepair.Number.Power
import VariantRepair.Text.Digit

/-!
The digests MD5 and SHA-256. A message is padded to whole blocks of 64 bytes, each block is read as
sixteen words, and a digest is written in hexadecimal.
-/

namespace VariantRepair.Digest

/-- The order of the bytes in a word. -/
inductive ByteOrder where
  | lowFirst
  | highFirst
deriving Repr, DecidableEq

/-- A word as bytes. -/
def wordBytes (order : ByteOrder) (w : UInt32) : List UInt8 :=
  let low := [w, w >>> 8, w >>> 16, w >>> 24].map UInt32.toUInt8
  match order with
  | .lowFirst => low
  | .highFirst => low.reverse

/-- Four bytes as a word. -/
def wordOf (order : ByteOrder) (bytes : List UInt8) : UInt32 :=
  let high :=
    match order with
    | .lowFirst => bytes.reverse
    | .highFirst => bytes
  high.foldl (fun w b => w <<< 8 ||| b.toUInt32) 0

/-- Bytes as words; fewer than four bytes at the end are dropped. -/
def wordsOf (order : ByteOrder) : List UInt8 → List UInt32
  | a :: b :: c :: d :: rest => wordOf order [a, b, c, d] :: wordsOf order rest
  | _ => []

/-- The message length in bits, as eight bytes. -/
def lengthBytes (order : ByteOrder) (size : Nat) : List UInt8 :=
  let bits := 8 * size
  let low := UInt32.ofNat (bits % Number.twoTo 32)
  let high := UInt32.ofNat (bits / Number.twoTo 32 % Number.twoTo 32)
  match order with
  | .lowFirst => wordBytes order low ++ wordBytes order high
  | .highFirst => wordBytes order high ++ wordBytes order low

/-- The message, a marker byte, as many zeros as fill the last block, and the length. -/
def pad (order : ByteOrder) (message : List UInt8) : List UInt8 :=
  let size := message.length
  message ++ 0x80 :: List.replicate ((119 - size % 64) % 64) 0 ++ lengthBytes order size

/-- Words in groups of sixteen. -/
def blocksOf : (count : Nat) → List UInt32 → List (List UInt32)
  | 0, _ => []
  | n + 1, ws => ws.take 16 :: blocksOf n (ws.drop 16)

/-- The blocks of the padded message. -/
def blocks (order : ByteOrder) (message : List UInt8) : List (List UInt32) :=
  let ws := wordsOf order (pad order message)
  blocksOf (ws.length / 16) ws

/-- Rotate the bits of a word to the left, by a number of places between 1 and 31. -/
def rotateLeft (w n : UInt32) : UInt32 :=
  (w <<< n) ||| (w >>> (32 - n))

/-- Words in hexadecimal, in the order of their bytes. -/
def hexText (order : ByteOrder) (ws : List UInt32) : String :=
  String.ofList ((ws.flatMap (wordBytes order)).flatMap fun b => Text.hexDigits 2 b.toNat)

end VariantRepair.Digest

/-! ### MD5 -/

namespace VariantRepair.Digest.Md5

/-- The round constants: the fractions of the sines of 1, 2, … 64. -/
def roundConstants : Array UInt32 := #[
  0xD76AA478, 0xE8C7B756, 0x242070DB, 0xC1BDCEEE, 0xF57C0FAF, 0x4787C62A, 0xA8304613, 0xFD469501,
  0x698098D8, 0x8B44F7AF, 0xFFFF5BB1, 0x895CD7BE, 0x6B901122, 0xFD987193, 0xA679438E, 0x49B40821,
  0xF61E2562, 0xC040B340, 0x265E5A51, 0xE9B6C7AA, 0xD62F105D, 0x02441453, 0xD8A1E681, 0xE7D3FBC8,
  0x21E1CDE6, 0xC33707D6, 0xF4D50D87, 0x455A14ED, 0xA9E3E905, 0xFCEFA3F8, 0x676F02D9, 0x8D2A4C8A,
  0xFFFA3942, 0x8771F681, 0x6D9D6122, 0xFDE5380C, 0xA4BEEA44, 0x4BDECFA9, 0xF6BB4B60, 0xBEBFBC70,
  0x289B7EC6, 0xEAA127FA, 0xD4EF3085, 0x04881D05, 0xD9D4D039, 0xE6DB99E5, 0x1FA27CF8, 0xC4AC5665,
  0xF4292244, 0x432AFF97, 0xAB9423A7, 0xFC93A039, 0x655B59C3, 0x8F0CCC92, 0xFFEFF47D, 0x85845DD1,
  0x6FA87E4F, 0xFE2CE6E0, 0xA3014314, 0x4E0811A1, 0xF7537E82, 0xBD3AF235, 0x2AD7D2BB, 0xEB86D391]

/-- How far each round rotates: four amounts in turn, others for each sixteen rounds. -/
def rotation (i : Nat) : UInt32 :=
  let amounts : Array UInt32 := #[7, 12, 17, 22, 5, 9, 14, 20, 4, 11, 16, 23, 6, 10, 15, 21]
  amounts.getD (4 * (i / 16) + i % 4) 0

/-- The four words that a message is folded into. -/
structure State where
  a : UInt32
  b : UInt32
  c : UInt32
  d : UInt32
deriving Repr, DecidableEq

def initialState : State :=
  { a := 0x67452301, b := 0xEFCDAB89, c := 0x98BADCFE, d := 0x10325476 }

/-- Round `i`: how the words mix, and which word of the block is taken. -/
def mix (s : State) (i : Nat) : UInt32 × Nat :=
  if i < 16 then ((s.b &&& s.c) ||| (~~~s.b &&& s.d), i)
  else if i < 32 then ((s.d &&& s.b) ||| (~~~s.d &&& s.c), (5 * i + 1) % 16)
  else if i < 48 then (s.b ^^^ s.c ^^^ s.d, (3 * i + 5) % 16)
  else (s.c ^^^ (s.b ||| ~~~s.d), 7 * i % 16)

/-- One round on the state. -/
def step (block : Array UInt32) (s : State) (i : Nat) : State :=
  let (f, k) := mix s i
  let sum := s.a + f + roundConstants.getD i 0 + block.getD k 0
  { a := s.d, b := s.b + rotateLeft sum (rotation i), c := s.b, d := s.c }

/-- Take one block into the state. -/
def absorb (s : State) (block : List UInt32) : State :=
  let t := (List.range 64).foldl (step block.toArray) s
  { a := s.a + t.a, b := s.b + t.b, c := s.c + t.c, d := s.d + t.d }

/-- The digest of a message, in hexadecimal. -/
def digest (message : List UInt8) : String :=
  let s := (blocks .lowFirst message).foldl absorb initialState
  hexText .lowFirst [s.a, s.b, s.c, s.d]

end VariantRepair.Digest.Md5

/-! ### SHA-256 -/

namespace VariantRepair.Digest.Sha256

/-- The round constants. -/
def roundConstants : Array UInt32 := #[
  0x428A2F98, 0x71374491, 0xB5C0FBCF, 0xE9B5DBA5, 0x3956C25B, 0x59F111F1, 0x923F82A4, 0xAB1C5ED5,
  0xD807AA98, 0x12835B01, 0x243185BE, 0x550C7DC3, 0x72BE5D74, 0x80DEB1FE, 0x9BDC06A7, 0xC19BF174,
  0xE49B69C1, 0xEFBE4786, 0x0FC19DC6, 0x240CA1CC, 0x2DE92C6F, 0x4A7484AA, 0x5CB0A9DC, 0x76F988DA,
  0x983E5152, 0xA831C66D, 0xB00327C8, 0xBF597FC7, 0xC6E00BF3, 0xD5A79147, 0x06CA6351, 0x14292967,
  0x27B70A85, 0x2E1B2138, 0x4D2C6DFC, 0x53380D13, 0x650A7354, 0x766A0ABB, 0x81C2C92E, 0x92722C85,
  0xA2BFE8A1, 0xA81A664B, 0xC24B8B70, 0xC76C51A3, 0xD192E819, 0xD6990624, 0xF40E3585, 0x106AA070,
  0x19A4C116, 0x1E376C08, 0x2748774C, 0x34B0BCB5, 0x391C0CB3, 0x4ED8AA4A, 0x5B9CCA4F, 0x682E6FF3,
  0x748F82EE, 0x78A5636F, 0x84C87814, 0x8CC70208, 0x90BEFFFA, 0xA4506CEB, 0xBEF9A3F7, 0xC67178F2]

/-- The state before the first block. -/
def initialState : Array UInt32 := #[
  0x6A09E667, 0xBB67AE85, 0x3C6EF372, 0xA54FF53A, 0x510E527F, 0x9B05688C, 0x1F83D9AB, 0x5BE0CD19]

def rotateRight (w n : UInt32) : UInt32 :=
  rotateLeft w (32 - n)

/-- The 64 words that a block spreads to. -/
def schedule (block : List UInt32) : Array UInt32 :=
  (List.range 48).foldl (fun ws i =>
    let w (k : Nat) : UInt32 := ws.getD k 0
    let s0 := rotateRight (w (i + 1)) 7 ^^^ rotateRight (w (i + 1)) 18 ^^^ (w (i + 1) >>> 3)
    let s1 := rotateRight (w (i + 14)) 17 ^^^ rotateRight (w (i + 14)) 19 ^^^ (w (i + 14) >>> 10)
    ws.push (w i + s0 + w (i + 9) + s1)) block.toArray

/-- One round on the state. -/
def step (state : Array UInt32) (constant word : UInt32) : Array UInt32 :=
  let v (k : Nat) : UInt32 := state.getD k 0
  let s1 := rotateRight (v 4) 6 ^^^ rotateRight (v 4) 11 ^^^ rotateRight (v 4) 25
  let choice := (v 4 &&& v 5) ^^^ (~~~(v 4) &&& v 6)
  let t1 := v 7 + s1 + choice + constant + word
  let s0 := rotateRight (v 0) 2 ^^^ rotateRight (v 0) 13 ^^^ rotateRight (v 0) 22
  let majority := (v 0 &&& v 1) ^^^ (v 0 &&& v 2) ^^^ (v 1 &&& v 2)
  #[t1 + s0 + majority, v 0, v 1, v 2, v 3 + t1, v 4, v 5, v 6]

/-- Take one block into the state. -/
def absorb (state : Array UInt32) (block : List UInt32) : Array UInt32 :=
  let ws := schedule block
  let after :=
    (List.range 64).foldl (fun s i => step s (roundConstants.getD i 0) (ws.getD i 0)) state
  Array.zipWith (· + ·) state after

/-- The digest of a message, in hexadecimal. -/
def digest (message : List UInt8) : String :=
  hexText .highFirst ((blocks .highFirst message).foldl absorb initialState).toList

end VariantRepair.Digest.Sha256
