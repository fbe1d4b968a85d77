import Countersign.Bytes

/-!
BLAKE2b without a key, for digests of 1 to 64 octets.

The work of a round is done on sixteen words, seen as a square of four rows. `Square.mix` runs one
step down each column and then along each diagonal; what a step does to its four words is a parameter,
since another function shares the square with a step of its own.
-/

namespace Countersign.Hash

/-- Four words of a square that are mixed with each other. -/
structure Quad where
  a : UInt64
  b : UInt64
  c : UInt64
  d : UInt64

/-- Sixteen words, row by row. -/
structure Square where
  w0 : UInt64
  w1 : UInt64
  w2 : UInt64
  w3 : UInt64
  w4 : UInt64
  w5 : UInt64
  w6 : UInt64
  w7 : UInt64
  w8 : UInt64
  w9 : UInt64
  w10 : UInt64
  w11 : UInt64
  w12 : UInt64
  w13 : UInt64
  w14 : UInt64
  w15 : UInt64
deriving Inhabited

/-- Rotation to the right. -/
@[inline] def rotate64 (w n : UInt64) : UInt64 := (w >>> n) ||| (w <<< (64 - n))

/-- Runs the steps 0 to 3 down the columns and the steps 4 to 7 along the diagonals. -/
@[inline] def Square.mix (step : Nat → Quad → Quad) (s : Square) : Square :=
  let c0 := step 0 ⟨s.w0, s.w4, s.w8, s.w12⟩
  let c1 := step 1 ⟨s.w1, s.w5, s.w9, s.w13⟩
  let c2 := step 2 ⟨s.w2, s.w6, s.w10, s.w14⟩
  let c3 := step 3 ⟨s.w3, s.w7, s.w11, s.w15⟩
  let d0 := step 4 ⟨c0.a, c1.b, c2.c, c3.d⟩
  let d1 := step 5 ⟨c1.a, c2.b, c3.c, c0.d⟩
  let d2 := step 6 ⟨c2.a, c3.b, c0.c, c1.d⟩
  let d3 := step 7 ⟨c3.a, c0.b, c1.c, c2.d⟩
  ⟨d0.a, d1.a, d2.a, d3.a, d3.b, d0.b, d1.b, d2.b,
    d2.c, d3.c, d0.c, d1.c, d1.d, d2.d, d3.d, d0.d⟩

namespace Blake2b

/-- The eight words of the chain. -/
structure Chain where
  w0 : UInt64
  w1 : UInt64
  w2 : UInt64
  w3 : UInt64
  w4 : UInt64
  w5 : UInt64
  w6 : UInt64
  w7 : UInt64

/-- The first 64 bits of the fractional parts of the square roots of the first eight primes. -/
def seeds : Chain where
  w0 := 0x6a09e667f3bcc908
  w1 := 0xbb67ae8584caa73b
  w2 := 0x3c6ef372fe94f82b
  w3 := 0xa54ff53a5f1d36f1
  w4 := 0x510e527fade682d1
  w5 := 0x9b05688c2b3e6c1f
  w6 := 0x1f83d9abfb41bd6b
  w7 := 0x5be0cd19137e2179

/-- The order in which each round takes the sixteen words of a block. -/
def orders : Array (Array Nat) := #[
  #[0, 1, 2, 3, 4, 5, 6, 7, 8, 9, 10, 11, 12, 13, 14, 15],
  #[14, 10, 4, 8, 9, 15, 13, 6, 1, 12, 0, 2, 11, 7, 5, 3],
  #[11, 8, 12, 0, 5, 2, 15, 13, 10, 14, 3, 6, 7, 1, 9, 4],
  #[7, 9, 3, 1, 13, 12, 11, 14, 2, 6, 5, 10, 4, 0, 15, 8],
  #[9, 0, 5, 7, 2, 4, 10, 15, 14, 1, 11, 12, 6, 8, 3, 13],
  #[2, 12, 6, 10, 0, 11, 8, 3, 4, 13, 7, 5, 15, 14, 1, 9],
  #[12, 5, 1, 15, 14, 13, 4, 10, 0, 7, 6, 3, 9, 2, 8, 11],
  #[13, 11, 7, 14, 12, 1, 3, 9, 5, 0, 15, 4, 8, 6, 2, 10],
  #[6, 15, 14, 9, 11, 3, 0, 8, 12, 2, 13, 7, 1, 4, 10, 5],
  #[10, 2, 8, 4, 7, 6, 1, 5, 15, 11, 9, 14, 3, 12, 13, 0]]

/-- Mixes four words with two words of the block. -/
def step (x y : UInt64) (q : Quad) : Quad :=
  let a := q.a + q.b + x
  let d := rotate64 (q.d ^^^ a) 32
  let c := q.c + d
  let b := rotate64 (q.b ^^^ c) 24
  let a := a + b + y
  let d := rotate64 (d ^^^ a) 16
  let c := c + d
  let b := rotate64 (b ^^^ c) 63
  ⟨a, b, c, d⟩

/-- One round over the words of a block, taken in the given order. -/
def round (block : Array UInt64) (s : Square) (order : Array Nat) : Square :=
  s.mix fun i q =>
    step (block.getD (order.getD (2 * i) 0) 0) (block.getD (order.getD (2 * i + 1) 0) 0) q

/-- Takes a block of sixteen words into the chain; `count` octets of the message are in by then. -/
def compress (h : Chain) (block : Array UInt64) (count : Nat) (last : Bool) : Chain :=
  let s : Square :=
    ⟨h.w0, h.w1, h.w2, h.w3, h.w4, h.w5, h.w6, h.w7, seeds.w0, seeds.w1, seeds.w2, seeds.w3,
      seeds.w4 ^^^ UInt64.ofNat count, seeds.w5 ^^^ UInt64.ofNat (count >>> 64),
      if last then ~~~seeds.w6 else seeds.w6, seeds.w7⟩
  let s := (List.range 12).foldl (fun s i => round block s (orders.getD (i % 10) #[])) s
  ⟨h.w0 ^^^ s.w0 ^^^ s.w8, h.w1 ^^^ s.w1 ^^^ s.w9, h.w2 ^^^ s.w2 ^^^ s.w10,
    h.w3 ^^^ s.w3 ^^^ s.w11, h.w4 ^^^ s.w4 ^^^ s.w12, h.w5 ^^^ s.w5 ^^^ s.w13,
    h.w6 ^^^ s.w6 ^^^ s.w14, h.w7 ^^^ s.w7 ^^^ s.w15⟩

/-- The eight octets of a word, the least significant first. -/
def wordBytes (w : UInt64) : Bytes :=
  [w.toUInt8, (w >>> 8).toUInt8, (w >>> 16).toUInt8, (w >>> 24).toUInt8,
    (w >>> 32).toUInt8, (w >>> 40).toUInt8, (w >>> 48).toUInt8, (w >>> 56).toUInt8]

/-- Word `i` of an octet string that zeros continue, the first octet the least significant. -/
def wordAt (octets : Array UInt8) (i : Nat) : UInt64 :=
  (List.range 8).foldl (fun w j => (w <<< 8) ||| (octets.getD (i * 8 + 7 - j) 0).toUInt64) 0

def Chain.toBytes (h : Chain) : Bytes :=
  wordBytes h.w0 ++ wordBytes h.w1 ++ wordBytes h.w2 ++ wordBytes h.w3 ++
    wordBytes h.w4 ++ wordBytes h.w5 ++ wordBytes h.w6 ++ wordBytes h.w7

/-- The digest of a message, `size` octets long; `size` is at most 64. -/
def digest (size : Nat) (message : Bytes) : Bytes :=
  let octets := message.toArray
  let blocks := max 1 ((octets.size + 127) / 128)
  let start := { seeds with w0 := seeds.w0 ^^^ 0x01010000 ^^^ UInt64.ofNat size }
  let h := (List.range blocks).foldl (fun h i =>
    let block := (Array.range 16).map fun j => wordAt octets (i * 16 + j)
    compress h block (min octets.size ((i + 1) * 128)) (i + 1 == blocks)) start
  h.toBytes.take size

end Blake2b

end Countersign.Hash
