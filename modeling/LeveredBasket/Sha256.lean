/-
The hash function SHA-256.

The message is padded with a one bit, zeros, and its length in bits, to a whole
number of 64-byte blocks. Each block is stretched to 64 words, and these are
mixed into eight words of state, one after another. The digest is the state
after the last block, read as one number of 256 binary digits.
-/
import LeveredBasket.Bytes
import LeveredBasket.Word

set_option autoImplicit false

namespace LeveredBasket.Sha256

/-! ## Constants -/

/-- The first 32 bits of the fractional parts of the cube roots of the first 64 primes. -/
def roundConstants : List UInt32 := [
  0x428a2f98, 0x71374491, 0xb5c0fbcf, 0xe9b5dba5, 0x3956c25b, 0x59f111f1, 0x923f82a4, 0xab1c5ed5,
  0xd807aa98, 0x12835b01, 0x243185be, 0x550c7dc3, 0x72be5d74, 0x80deb1fe, 0x9bdc06a7, 0xc19bf174,
  0xe49b69c1, 0xefbe4786, 0x0fc19dc6, 0x240ca1cc, 0x2de92c6f, 0x4a7484aa, 0x5cb0a9dc, 0x76f988da,
  0x983e5152, 0xa831c66d, 0xb00327c8, 0xbf597fc7, 0xc6e00bf3, 0xd5a79147, 0x06ca6351, 0x14292967,
  0x27b70a85, 0x2e1b2138, 0x4d2c6dfc, 0x53380d13, 0x650a7354, 0x766a0abb, 0x81c2c92e, 0x92722c85,
  0xa2bfe8a1, 0xa81a664b, 0xc24b8b70, 0xc76c51a3, 0xd192e819, 0xd6990624, 0xf40e3585, 0x106aa070,
  0x19a4c116, 0x1e376c08, 0x2748774c, 0x34b0bcb5, 0x391c0cb3, 0x4ed8aa4a, 0x5b9cca4f, 0x682e6ff3,
  0x748f82ee, 0x78a5636f, 0x84c87814, 0x8cc70208, 0x90befffa, 0xa4506ceb, 0xbef9a3f7, 0xc67178f2]

/-- The eight words of state. -/
structure State where
  a : UInt32
  b : UInt32
  c : UInt32
  d : UInt32
  e : UInt32
  f : UInt32
  g : UInt32
  h : UInt32

/-- The first 32 bits of the fractional parts of the square roots of the first eight primes. -/
def State.start : State :=
  ⟨0x6a09e667, 0xbb67ae85, 0x3c6ef372, 0xa54ff53a, 0x510e527f, 0x9b05688c, 0x1f83d9ab, 0x5be0cd19⟩

/-! ## Padding -/

/-- The message with its padding. -/
def pad (message : Bytes) : Bytes :=
  -- one byte for the one bit, and eight for the length
  let used := message.length + 9
  message ++ 0x80 :: List.replicate ((64 - used % 64) % 64) 0 ++
    Bytes.bigEndian 8 (8 * message.length)

/-- Bytes in groups of `size`, as many as there are in `count`. -/
def groups (size : Nat) : Nat → Bytes → List Bytes
  | 0, _ => []
  | count + 1, bytes => bytes.take size :: groups size count (bytes.drop size)

/-! ## One block -/

def rotateRight (x : UInt32) (n : UInt32) : UInt32 := (x >>> n) ||| (x <<< (32 - n))

/-- The next word of the stretched block, from those so far, the newest first. -/
def nextWord (newest : List UInt32) : UInt32 :=
  let w2 := newest.getD 1 0
  let w7 := newest.getD 6 0
  let w15 := newest.getD 14 0
  let w16 := newest.getD 15 0
  let s0 := rotateRight w15 7 ^^^ rotateRight w15 18 ^^^ (w15 >>> 3)
  let s1 := rotateRight w2 17 ^^^ rotateRight w2 19 ^^^ (w2 >>> 10)
  s1 + w7 + s0 + w16

/-- `count` more words in front of those so far. -/
def stretch : Nat → List UInt32 → List UInt32
  | 0, newest => newest
  | count + 1, newest => stretch count (nextWord newest :: newest)

/-- The 64 words of a block. -/
def schedule (block : Bytes) : List UInt32 :=
  -- stretched with the newest word first, where the words that a new one is made of are near
  let words := (groups 4 16 block).map fun g => UInt32.ofNat (Bytes.toNumber g)
  (stretch 48 words.reverse).reverse

/-- One round, with its constant and its word. -/
def round (s : State) (k w : UInt32) : State :=
  let choice := (s.e &&& s.f) ^^^ (~~~s.e &&& s.g)
  let majority := (s.a &&& s.b) ^^^ (s.a &&& s.c) ^^^ (s.b &&& s.c)
  let t1 := s.h + (rotateRight s.e 6 ^^^ rotateRight s.e 11 ^^^ rotateRight s.e 25) + choice + k + w
  let t2 := (rotateRight s.a 2 ^^^ rotateRight s.a 13 ^^^ rotateRight s.a 22) + majority
  ⟨t1 + t2, s.a, s.b, s.c, s.d + t1, s.e, s.f, s.g⟩

/-- The state after a block. -/
def compress (s : State) (block : Bytes) : State :=
  let t := (roundConstants.zip (schedule block)).foldl (fun t kw => round t kw.1 kw.2) s
  ⟨s.a + t.a, s.b + t.b, s.c + t.c, s.d + t.d, s.e + t.e, s.f + t.f, s.g + t.g, s.h + t.h⟩

/-! ## The digest -/

/-- The eight words as one number, the first word the most significant. -/
def State.number (s : State) : Nat :=
  [s.a, s.b, s.c, s.d, s.e, s.f, s.g, s.h].foldl (fun n w => (n <<< 32) + w.toNat) 0

theorem State.number_lt (s : State) : s.number < 1 <<< 256 := by
  have ha := s.a.toNat_lt
  have hb := s.b.toNat_lt
  have hc := s.c.toNat_lt
  have hd := s.d.toNat_lt
  have he := s.e.toNat_lt
  have hf := s.f.toNat_lt
  have hg := s.g.toNat_lt
  have hh := s.h.toNat_lt
  simp only [State.number, List.foldl]
  omega

/-- **The digest of a message.** -/
def digest (message : Bytes) : Word 256 :=
  let padded := pad message
  let final := (groups 64 (padded.length / 64) padded).foldl compress State.start
  ⟨final.number, final.number_lt⟩

end LeveredBasket.Sha256
