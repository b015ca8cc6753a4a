/-!
# SHA-256

The message is padded to whole blocks of 64 bytes, and each block updates eight
words of state in 64 rounds.
-/

namespace GameBundle.Digest.Sha256

structure State where
  a : UInt32
  b : UInt32
  c : UInt32
  d : UInt32
  e : UInt32
  f : UInt32
  g : UInt32
  h : UInt32
deriving DecidableEq, Repr

/-- Square roots of the first eight primes, 32 bits of their fractions. -/
def initial : State :=
  ⟨0x6a09e667, 0xbb67ae85, 0x3c6ef372, 0xa54ff53a, 0x510e527f, 0x9b05688c, 0x1f83d9ab, 0x5be0cd19⟩

/-- Cube roots of the first 64 primes, 32 bits of their fractions. -/
def roundConstants : List UInt32 :=
  [0x428a2f98, 0x71374491, 0xb5c0fbcf, 0xe9b5dba5, 0x3956c25b, 0x59f111f1, 0x923f82a4, 0xab1c5ed5,
    0xd807aa98, 0x12835b01, 0x243185be, 0x550c7dc3, 0x72be5d74, 0x80deb1fe, 0x9bdc06a7, 0xc19bf174,
    0xe49b69c1, 0xefbe4786, 0x0fc19dc6, 0x240ca1cc, 0x2de92c6f, 0x4a7484aa, 0x5cb0a9dc, 0x76f988da,
    0x983e5152, 0xa831c66d, 0xb00327c8, 0xbf597fc7, 0xc6e00bf3, 0xd5a79147, 0x06ca6351, 0x14292967,
    0x27b70a85, 0x2e1b2138, 0x4d2c6dfc, 0x53380d13, 0x650a7354, 0x766a0abb, 0x81c2c92e, 0x92722c85,
    0xa2bfe8a1, 0xa81a664b, 0xc24b8b70, 0xc76c51a3, 0xd192e819, 0xd6990624, 0xf40e3585, 0x106aa070,
    0x19a4c116, 0x1e376c08, 0x2748774c, 0x34b0bcb5, 0x391c0cb3, 0x4ed8aa4a, 0x5b9cca4f, 0x682e6ff3,
    0x748f82ee, 0x78a5636f, 0x84c87814, 0x8cc70208, 0x90befffa, 0xa4506ceb, 0xbef9a3f7, 0xc67178f2]

def rotate (x : UInt32) (places : UInt32) : UInt32 := (x >>> places) ||| (x <<< (32 - places))

/-- Number of zero bytes between the end mark and the length. -/
def fill (length : Nat) : Nat := (119 - length % 64) % 64

/-- The eight bytes of a 64-bit number, most significant first. -/
def lengthBytes (bits : Nat) : List UInt8 :=
  (List.range 8).map fun i => UInt8.ofNat (bits / Nat.pow 256 (7 - i))

/-- The message, an end mark, zeros, and the length of the message in bits. -/
def pad (message : List UInt8) : List UInt8 :=
  message ++ 0x80 :: (List.replicate (fill message.length) 0 ++ lengthBytes (8 * message.length))

/-- Big-endian words of a run of bytes. -/
def words : List UInt8 → List UInt32
  | a :: b :: c :: d :: rest =>
    ((a.toUInt32 <<< 24) ||| (b.toUInt32 <<< 16) ||| (c.toUInt32 <<< 8) ||| d.toUInt32) ::
      words rest
  | _ => []

/-- The word sixteen places on, from the last sixteen words in reverse. -/
def nextWord (recent : Array UInt32) (i : Nat) : UInt32 :=
  let old := recent.getD (i - 16) 0
  let w15 := recent.getD (i - 15) 0
  let w7 := recent.getD (i - 7) 0
  let w2 := recent.getD (i - 2) 0
  let s0 := rotate w15 7 ^^^ rotate w15 18 ^^^ (w15 >>> 3)
  let s1 := rotate w2 17 ^^^ rotate w2 19 ^^^ (w2 >>> 10)
  old + s0 + w7 + s1

/-- The sixteen words of a block, extended to sixty-four. -/
def schedule (block : List UInt32) : Array UInt32 :=
  (List.range 48).foldl (fun known i => known.push (nextWord known (i + 16))) block.toArray

def round (s : State) (constant word : UInt32) : State :=
  let s1 := rotate s.e 6 ^^^ rotate s.e 11 ^^^ rotate s.e 25
  let choice := (s.e &&& s.f) ^^^ ((~~~ s.e) &&& s.g)
  let t1 := s.h + s1 + choice + constant + word
  let s0 := rotate s.a 2 ^^^ rotate s.a 13 ^^^ rotate s.a 22
  let majority := (s.a &&& s.b) ^^^ (s.a &&& s.c) ^^^ (s.b &&& s.c)
  ⟨t1 + (s0 + majority), s.a, s.b, s.c, s.d + t1, s.e, s.f, s.g⟩

def add (s t : State) : State :=
  ⟨s.a + t.a, s.b + t.b, s.c + t.c, s.d + t.d, s.e + t.e, s.f + t.f, s.g + t.g, s.h + t.h⟩

def absorb (s : State) (block : List UInt32) : State :=
  let rounds := roundConstants.zip (schedule block).toList
  add s (rounds.foldl (fun t pair => round t pair.1 pair.2) s)

def absorbAll : Nat → State → List UInt32 → State
  | 0, s, _ => s
  | blocks + 1, s, rest => absorbAll blocks (absorb s (rest.take 16)) (rest.drop 16)

def digest (message : List UInt8) : State :=
  let padded := words (pad message)
  absorbAll (padded.length / 16) initial padded

end GameBundle.Digest.Sha256

namespace GameBundle.Digest

/-- The first four bytes of the SHA-256 digest as a big-endian number. -/
def fingerprint (contents : ByteArray) : Nat := (Sha256.digest contents.toList).a.toNat

end GameBundle.Digest
