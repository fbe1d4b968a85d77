import Countersign.Bytes

/-!
SHA-256: a chain of eight words runs through the blocks of the padded message.
-/

namespace Countersign.Hash.Sha256

/-- The eight words of the chain. -/
structure Chain where
  a : UInt32
  b : UInt32
  c : UInt32
  d : UInt32
  e : UInt32
  f : UInt32
  g : UInt32
  h : UInt32

namespace Chain

/-- The first 32 bits of the fractional parts of the square roots of the first eight primes. -/
def start : Chain where
  a := 0x6a09e667
  b := 0xbb67ae85
  c := 0x3c6ef372
  d := 0xa54ff53a
  e := 0x510e527f
  f := 0x9b05688c
  g := 0x1f83d9ab
  h := 0x5be0cd19

/-- Word by word sum. -/
def add (x y : Chain) : Chain :=
  ⟨x.a + y.a, x.b + y.b, x.c + y.c, x.d + y.d, x.e + y.e, x.f + y.f, x.g + y.g, x.h + y.h⟩

end Chain

/-- The four octets of a word, the most significant first. -/
def wordBytes (w : UInt32) : Bytes :=
  [(w >>> 24).toUInt8, (w >>> 16).toUInt8, (w >>> 8).toUInt8, w.toUInt8]

/-- The 32 octets of a chain. -/
def Chain.toBytes (x : Chain) : Bytes :=
  wordBytes x.a ++ wordBytes x.b ++ wordBytes x.c ++ wordBytes x.d ++
    wordBytes x.e ++ wordBytes x.f ++ wordBytes x.g ++ wordBytes x.h

theorem Chain.length_toBytes (x : Chain) : x.toBytes.length = 32 := rfl

/-- Rotation to the right. -/
@[inline] def rotate (w n : UInt32) : UInt32 := (w >>> n) ||| (w <<< (32 - n))

@[inline] def bigSigma0 (w : UInt32) : UInt32 := rotate w 2 ^^^ rotate w 13 ^^^ rotate w 22
@[inline] def bigSigma1 (w : UInt32) : UInt32 := rotate w 6 ^^^ rotate w 11 ^^^ rotate w 25
@[inline] def smallSigma0 (w : UInt32) : UInt32 := rotate w 7 ^^^ rotate w 18 ^^^ (w >>> 3)
@[inline] def smallSigma1 (w : UInt32) : UInt32 := rotate w 17 ^^^ rotate w 19 ^^^ (w >>> 10)

/-- Each bit of `x` chooses between a bit of `y` and one of `z`. -/
@[inline] def choose (x y z : UInt32) : UInt32 := (x &&& y) ^^^ (~~~x &&& z)

/-- Each bit is the one that at least two of the three have. -/
@[inline] def majority (x y z : UInt32) : UInt32 := (x &&& y) ^^^ (x &&& z) ^^^ (y &&& z)

/-- The first 32 bits of the fractional parts of the cube roots of the first sixty-four primes. -/
def roundConstants : Array UInt32 := #[
  0x428a2f98, 0x71374491, 0xb5c0fbcf, 0xe9b5dba5, 0x3956c25b, 0x59f111f1, 0x923f82a4, 0xab1c5ed5,
  0xd807aa98, 0x12835b01, 0x243185be, 0x550c7dc3, 0x72be5d74, 0x80deb1fe, 0x9bdc06a7, 0xc19bf174,
  0xe49b69c1, 0xefbe4786, 0x0fc19dc6, 0x240ca1cc, 0x2de92c6f, 0x4a7484aa, 0x5cb0a9dc, 0x76f988da,
  0x983e5152, 0xa831c66d, 0xb00327c8, 0xbf597fc7, 0xc6e00bf3, 0xd5a79147, 0x06ca6351, 0x14292967,
  0x27b70a85, 0x2e1b2138, 0x4d2c6dfc, 0x53380d13, 0x650a7354, 0x766a0abb, 0x81c2c92e, 0x92722c85,
  0xa2bfe8a1, 0xa81a664b, 0xc24b8b70, 0xc76c51a3, 0xd192e819, 0xd6990624, 0xf40e3585, 0x106aa070,
  0x19a4c116, 0x1e376c08, 0x2748774c, 0x34b0bcb5, 0x391c0cb3, 0x4ed8aa4a, 0x5b9cca4f, 0x682e6ff3,
  0x748f82ee, 0x78a5636f, 0x84c87814, 0x8cc70208, 0x90befffa, 0xa4506ceb, 0xbef9a3f7, 0xc67178f2]

/-- Word `i` of the message, its first octet the most significant. -/
def wordAt (message : Array UInt8) (i : Nat) : UInt32 :=
  let octet (j : Nat) : UInt32 := (message.getD (i * 4 + j) 0).toUInt32
  (octet 0 <<< 24) ||| (octet 1 <<< 16) ||| (octet 2 <<< 8) ||| octet 3

/-- The sixty-four words of a block's schedule: its sixteen own ones, then a recurrence. -/
def schedule (message : Array UInt8) (block : Nat) : Array UInt32 :=
  let own := (Array.range 16).map fun i => wordAt message (block * 16 + i)
  (List.range 48).foldl (fun w t =>
    w.push (smallSigma1 (w.getD (t + 14) 0) + w.getD (t + 9) 0 +
      smallSigma0 (w.getD (t + 1) 0) + w.getD t 0)) own

/-- One round, with the sum of its constant and its word. -/
def round (x : Chain) (added : UInt32) : Chain :=
  let first := x.h + bigSigma1 x.e + choose x.e x.f x.g + added
  let second := bigSigma0 x.a + majority x.a x.b x.c
  ⟨first + second, x.a, x.b, x.c, x.d + first, x.e, x.f, x.g⟩

/-- Takes one block into the chain. -/
def compress (message : Array UInt8) (x : Chain) (block : Nat) : Chain :=
  let w := schedule message block
  x.add ((List.range 64).foldl (fun y t => round y (roundConstants.getD t 0 + w.getD t 0)) x)

/-- The message, a one bit, zero bits up to 8 octets before a block's end, and its length in bits. -/
def pad (message : Bytes) : Bytes :=
  let zeros := (119 - message.length % 64) % 64
  message ++ 0x80 :: (List.replicate zeros 0 ++ Bytes.ofNat 8 (message.length * 8))

/-- The digest of a message: 32 octets. -/
def digest (message : Bytes) : Bytes :=
  let padded := (pad message).toArray
  ((List.range (padded.size / 64)).foldl (compress padded) .start).toBytes

theorem length_digest (message : Bytes) : (digest message).length = 32 := Chain.length_toBytes _

end Countersign.Hash.Sha256
