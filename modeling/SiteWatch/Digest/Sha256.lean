/-
# SHA-256

The digest of a byte string, block by block: the message is padded to whole blocks of 64 bytes,
each block is expanded to 64 words, and 64 rounds mix them into eight words of state.
-/

namespace SiteWatch.Sha256

/-- The constants of the 64 rounds. -/
def roundConstants : List UInt32 :=
  [0x428a2f98, 0x71374491, 0xb5c0fbcf, 0xe9b5dba5, 0x3956c25b, 0x59f111f1, 0x923f82a4, 0xab1c5ed5,
   0xd807aa98, 0x12835b01, 0x243185be, 0x550c7dc3, 0x72be5d74, 0x80deb1fe, 0x9bdc06a7, 0xc19bf174,
   0xe49b69c1, 0xefbe4786, 0x0fc19dc6, 0x240ca1cc, 0x2de92c6f, 0x4a7484aa, 0x5cb0a9dc, 0x76f988da,
   0x983e5152, 0xa831c66d, 0xb00327c8, 0xbf597fc7, 0xc6e00bf3, 0xd5a79147, 0x06ca6351, 0x14292967,
   0x27b70a85, 0x2e1b2138, 0x4d2c6dfc, 0x53380d13, 0x650a7354, 0x766a0abb, 0x81c2c92e, 0x92722c85,
   0xa2bfe8a1, 0xa81a664b, 0xc24b8b70, 0xc76c51a3, 0xd192e819, 0xd6990624, 0xf40e3585, 0x106aa070,
   0x19a4c116, 0x1e376c08, 0x2748774c, 0x34b0bcb5, 0x391c0cb3, 0x4ed8aa4a, 0x5b9cca4f, 0x682e6ff3,
   0x748f82ee, 0x78a5636f, 0x84c87814, 0x8cc70208, 0x90befffa, 0xa4506ceb, 0xbef9a3f7, 0xc67178f2]

/-- The eight words of state. -/
structure State where
  a : UInt32
  b : UInt32
  c : UInt32
  d : UInt32
  e : UInt32
  f : UInt32
  g : UInt32
  h : UInt32

/-- The state before the first block. -/
def initial : State :=
  ⟨0x6a09e667, 0xbb67ae85, 0x3c6ef372, 0xa54ff53a, 0x510e527f, 0x9b05688c, 0x1f83d9ab, 0x5be0cd19⟩

/-- A word turned right. -/
def turn (x : UInt32) (n : UInt32) : UInt32 := (x >>> n) ||| (x <<< (32 - n))

/-- The next word of the expansion of a block, from the sixteen before it, latest first. -/
def nextWord : List UInt32 → UInt32
  | w1 :: w2 :: w3 :: w4 :: w5 :: w6 :: w7 :: w8 :: w9 :: w10 :: w11 :: w12 :: w13 :: w14 :: w15
      :: w16 :: _ =>
    let _ := (w1, w3, w4, w5, w6, w8, w9, w10, w11, w12, w13, w14)
    let s0 := turn w15 7 ^^^ turn w15 18 ^^^ (w15 >>> 3)
    let s1 := turn w2 17 ^^^ turn w2 19 ^^^ (w2 >>> 10)
    w16 + s0 + w7 + s1
  | _ => 0

/-- The 64 words of a block, latest first, from the first sixteen, latest first. -/
def expand : Nat → List UInt32 → List UInt32
  | 0, words => words
  | more + 1, words => expand more (nextWord words :: words)

/-- One round. -/
def round (s : State) (constant word : UInt32) : State :=
  let s1 := turn s.e 6 ^^^ turn s.e 11 ^^^ turn s.e 25
  let choice := (s.e &&& s.f) ^^^ ((~~~ s.e) &&& s.g)
  let t1 := s.h + s1 + choice + constant + word
  let s0 := turn s.a 2 ^^^ turn s.a 13 ^^^ turn s.a 22
  let majority := (s.a &&& s.b) ^^^ (s.a &&& s.c) ^^^ (s.b &&& s.c)
  ⟨t1 + s0 + majority, s.a, s.b, s.c, s.d + t1, s.e, s.f, s.g⟩

/-- Four bytes as a word, the first one highest. -/
def word (a b c d : UInt8) : UInt32 :=
  (a.toUInt32 <<< 24) ||| (b.toUInt32 <<< 16) ||| (c.toUInt32 <<< 8) ||| d.toUInt32

/-- Bytes as words; a rest of fewer than four bytes is dropped. -/
def words : List UInt8 → List UInt32
  | a :: b :: c :: d :: rest => word a b c d :: words rest
  | _ => []

/-- Mix a block into the state. -/
def absorb (s : State) (block : List UInt8) : State :=
  let schedule := (expand 48 (words block).reverse).reverse
  let t := (roundConstants.zip schedule).foldl (fun t pair => round t pair.1 pair.2) s
  ⟨s.a + t.a, s.b + t.b, s.c + t.c, s.d + t.d, s.e + t.e, s.f + t.f, s.g + t.g, s.h + t.h⟩

/-- The lowest eight bytes of a number, the highest first. -/
def lengthBytes (n : Nat) : List UInt8 :=
  [56, 48, 40, 32, 24, 16, 8, 0].map fun shift => UInt8.ofNat (n / Nat.pow 2 shift)

/-- The message with a one bit, zeros up to eight bytes before the end of a block, and its length
in bits. -/
def padded (message : List UInt8) : List UInt8 :=
  let zeros := (119 - message.length % 64) % 64
  message ++ 0x80 :: List.replicate zeros 0 ++ lengthBytes (8 * message.length)

/-- Mix all blocks of a padded message. -/
def absorbAll : Nat → State → List UInt8 → State
  | 0, s, _ => s
  | blocks + 1, s, bytes => absorbAll blocks (absorb s (bytes.take 64)) (bytes.drop 64)

/-- A word in hexadecimal. -/
def hexWord (w : UInt32) : List Char :=
  [28, 24, 20, 16, 12, 8, 4, 0].map fun shift =>
    let n := (w.toNat / Nat.pow 2 shift) % 16
    if n < 10 then Char.ofNat (48 + n) else Char.ofNat (87 + n)

/-- The digest of a byte string, in hexadecimal. -/
def hexDigest (message : List UInt8) : String :=
  let bytes := padded message
  let s := absorbAll (bytes.length / 64) initial bytes
  String.ofList ([s.a, s.b, s.c, s.d, s.e, s.f, s.g, s.h].flatMap hexWord)

/-- The digest of a text, in hexadecimal. -/
def ofText (text : String) : String := hexDigest text.toUTF8.toList

end SiteWatch.Sha256
