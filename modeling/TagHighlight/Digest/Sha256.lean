import TagHighlight.Text.Basic
import TagHighlight.Text.Loose

/-!
# The SHA-256 digest

The message is padded to blocks of sixteen 32-bit words. Each block is stretched to a schedule of
sixty-four words, one for every round, and the eight words of the state after the rounds are added
to the state before them. The digest is the last state, written in hexadecimal.
-/

namespace TagHighlight.Digest

def rotateRight (x n : UInt32) : UInt32 := (x >>> n) ||| (x <<< (32 - n))

/-- The eight words that are carried through the rounds. -/
structure Words where
  a : UInt32
  b : UInt32
  c : UInt32
  d : UInt32
  e : UInt32
  f : UInt32
  g : UInt32
  h : UInt32

def Words.add (s t : Words) : Words :=
  ⟨s.a + t.a, s.b + t.b, s.c + t.c, s.d + t.d, s.e + t.e, s.f + t.f, s.g + t.g, s.h + t.h⟩

def Words.toList (s : Words) : List UInt32 := [s.a, s.b, s.c, s.d, s.e, s.f, s.g, s.h]

/-- The state before the first block: fractions of the square roots of the first eight primes. -/
def initial : Words :=
  ⟨0x6a09e667, 0xbb67ae85, 0x3c6ef372, 0xa54ff53a,
    0x510e527f, 0x9b05688c, 0x1f83d9ab, 0x5be0cd19⟩

/-- One constant for each round: the fractions of the cube roots of the first sixty-four primes. -/
def roundConstants : List UInt32 := [
  0x428a2f98, 0x71374491, 0xb5c0fbcf, 0xe9b5dba5, 0x3956c25b, 0x59f111f1, 0x923f82a4, 0xab1c5ed5,
  0xd807aa98, 0x12835b01, 0x243185be, 0x550c7dc3, 0x72be5d74, 0x80deb1fe, 0x9bdc06a7, 0xc19bf174,
  0xe49b69c1, 0xefbe4786, 0x0fc19dc6, 0x240ca1cc, 0x2de92c6f, 0x4a7484aa, 0x5cb0a9dc, 0x76f988da,
  0x983e5152, 0xa831c66d, 0xb00327c8, 0xbf597fc7, 0xc6e00bf3, 0xd5a79147, 0x06ca6351, 0x14292967,
  0x27b70a85, 0x2e1b2138, 0x4d2c6dfc, 0x53380d13, 0x650a7354, 0x766a0abb, 0x81c2c92e, 0x92722c85,
  0xa2bfe8a1, 0xa81a664b, 0xc24b8b70, 0xc76c51a3, 0xd192e819, 0xd6990624, 0xf40e3585, 0x106aa070,
  0x19a4c116, 0x1e376c08, 0x2748774c, 0x34b0bcb5, 0x391c0cb3, 0x4ed8aa4a, 0x5b9cca4f, 0x682e6ff3,
  0x748f82ee, 0x78a5636f, 0x84c87814, 0x8cc70208, 0x90befffa, 0xa4506ceb, 0xbef9a3f7, 0xc67178f2]

/-- One round, with its constant and its word of the schedule. -/
def round (s : Words) (constant word : UInt32) : Words :=
  let sum1 := rotateRight s.e 6 ^^^ rotateRight s.e 11 ^^^ rotateRight s.e 25
  let choice := (s.e &&& s.f) ^^^ (~~~s.e &&& s.g)
  let t1 := s.h + sum1 + choice + constant + word
  let sum0 := rotateRight s.a 2 ^^^ rotateRight s.a 13 ^^^ rotateRight s.a 22
  let majority := (s.a &&& s.b) ^^^ (s.a &&& s.c) ^^^ (s.b &&& s.c)
  ⟨t1 + (sum0 + majority), s.a, s.b, s.c, s.d + t1, s.e, s.f, s.g⟩

/-- The word that follows a schedule, which is given from its last word on. -/
def nextWord (latest : List UInt32) : UInt32 :=
  let back (i : Nat) := latest.getD i 0
  let low := rotateRight (back 14) 7 ^^^ rotateRight (back 14) 18 ^^^ (back 14 >>> 3)
  let high := rotateRight (back 1) 17 ^^^ rotateRight (back 1) 19 ^^^ (back 1 >>> 10)
  back 15 + low + back 6 + high

/-- A schedule stretched by `n` words; given and answered from its last word on. -/
def stretch : Nat → List UInt32 → List UInt32
  | 0, latest => latest
  | n + 1, latest => stretch n (nextWord latest :: latest)

/-- The state after a block of sixteen words. -/
def compress (s : Words) (block : List UInt32) : Words :=
  let schedule := (stretch 48 block.reverse).reverse
  let rounds := roundConstants.zip schedule
  s.add (rounds.foldl (fun t r => round t r.1 r.2) s)

/-- The last `width` bytes of a number, most significant first. -/
def bigEndian : (width : Nat) → Nat → List UInt8
  | 0, _ => []
  | width + 1, n => bigEndian width (n / 256) ++ [UInt8.ofNat n]

/-- The message with the delimiter, the zeros that fill its last block, and its length in bits. -/
def pad (message : List UInt8) : List UInt8 :=
  let size := message.length
  let zeros := (119 - size % 64) % 64
  message ++ 0x80 :: List.replicate zeros 0 ++ bigEndian 8 (8 * size)

/-- The words of four bytes each. -/
def wordsOf : List UInt8 → List UInt32
  | a :: b :: c :: d :: rest =>
    (a.toUInt32 <<< 24 ||| b.toUInt32 <<< 16 ||| c.toUInt32 <<< 8 ||| d.toUInt32) :: wordsOf rest
  | _ => []

/-- The state after all blocks; `fuel` is a bound on their number. -/
def compressAll (s : Words) : (fuel : Nat) → List UInt32 → Words
  | 0, _ => s
  | _, [] => s
  | fuel + 1, words => compressAll (compress s (words.take 16)) fuel (words.drop 16)

/-- The digest of a message, as sixty-four hexadecimal digits. -/
def sha256 (message : List UInt8) : List Char :=
  let words := wordsOf (pad message)
  (compressAll initial words.length words).toList.flatMap fun w => Text.hex 8 w.toNat

def ofString (s : String) : String := String.ofList (sha256 (s.toList.flatMap String.utf8EncodeChar))

/-- The digest of the UTF-8 form of a text, which only a string has. -/
def ofText (t : LooseText) : Except LoneSurrogates String := t.toString?.map ofString

end TagHighlight.Digest
