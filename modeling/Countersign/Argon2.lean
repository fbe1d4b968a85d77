import Countersign.Argon2.Block

/-!
Argon2id, version 19: a password digest that has to fill a memory of a given size.

The memory is a table of lanes. A pass over it goes through four slices; in a slice every lane gets its
segment, block after block, each compressed from the one before it and one chosen among those already
there. In the first half of the first pass the choice depends on the position only, and later on the
memory itself.
-/

namespace Countersign.Argon2

/-- What a digest costs. -/
structure Params where
  /-- Memory, in blocks of 1024 octets. -/
  memory : Nat
  passes : Nat
  lanes : Nat
deriving DecidableEq

namespace Params

/-- Blocks per lane and slice. -/
def segment (p : Params) : Nat := p.memory / (4 * p.lanes)

/-- Blocks per lane. -/
def laneLength (p : Params) : Nat := 4 * p.segment

end Params

/-- The four octets of a number, the least significant first. -/
def number32 (n : Nat) : Bytes := (Bytes.ofNat 4 n).reverse

/-- A digest of any length: 64 octets at a time, of which the first half is given out. -/
def longDigest (size : Nat) (message : Bytes) : Bytes :=
  let tagged := number32 size ++ message
  if size ≤ 64 then Hash.Blake2b.digest size tagged
  else
    let halves := (size + 31) / 32 - 2
    let (last, out) := (List.range (halves - 1)).foldl (fun (v, out) _ =>
        let v := Hash.Blake2b.digest 64 v
        (v, out ++ v.take 32))
      (let first := Hash.Blake2b.digest 64 tagged; (first, first.take 32))
    out ++ Hash.Blake2b.digest (size - 32 * halves) last

/-- A place in the memory that is to be filled. -/
structure Position where
  pass : Nat
  slice : Nat
  lane : Nat
  index : Nat

namespace Position

/-- In the first half of the first pass the choice of blocks ignores the memory. -/
def blind (place : Position) : Bool := place.pass == 0 && place.slice < 2

end Position

/-- The pseudo-random words by which a segment chooses its blocks when it ignores the memory. -/
def addresses (p : Params) (pass slice lane : Nat) : Array UInt64 :=
  let blocks := (p.segment + 127) / 128
  (List.range blocks).foldl (fun words i =>
    let input := Block.ofWords fun j =>
      match j with
      | 0 => UInt64.ofNat pass
      | 1 => UInt64.ofNat lane
      | 2 => UInt64.ofNat slice
      | 3 => UInt64.ofNat (p.lanes * p.laneLength)
      | 4 => UInt64.ofNat p.passes
      | 5 => 2
      | 6 => UInt64.ofNat (i + 1)
      | _ => 0
    words ++ (Block.zero.compress (Block.zero.compress input)).words) #[]

/-- The index in the memory of the block that a pseudo-random word chooses. -/
def choice (p : Params) (place : Position) (word : UInt64) : Nat :=
  let lane :=
    if place.pass = 0 ∧ place.slice = 0 then place.lane else (word >>> 32).toNat % p.lanes
  let finished := if place.pass = 0 then place.slice * p.segment else p.laneLength - p.segment
  let area :=
    if lane = place.lane then finished + place.index - 1
    else if place.index = 0 then finished - 1 else finished
  let draw := (word &&& 0xffffffff).toNat
  let back := (area * ((draw * draw) >>> 32)) >>> 32
  let start := if place.pass = 0 ∨ place.slice = 3 then 0 else (place.slice + 1) * p.segment
  lane * p.laneLength + (start + (area - 1 - back)) % p.laneLength

/-- Fills one place of the memory. -/
def fillBlock (p : Params) (addresses : Array UInt64) (place : Position) (memory : Array Block) :
    Array Block :=
  let column := place.slice * p.segment + place.index
  let here := place.lane * p.laneLength + column
  let before := place.lane * p.laneLength + (column + p.laneLength - 1) % p.laneLength
  let previous := memory.getD before .zero
  let word := if place.blind then addresses.getD place.index 0 else previous.r0.w0
  let fresh := previous.compress (memory.getD (choice p place word) .zero)
  memory.setIfInBounds here
    (if place.pass = 0 then fresh else fresh.xor (memory.getD here .zero))

/-- Fills one segment; the first two blocks of a lane are there from the start. -/
def fillSegment (p : Params) (pass slice : Nat) (memory : Array Block) (lane : Nat) :
    Array Block :=
  let words := if pass = 0 ∧ slice < 2 then addresses p pass slice lane else #[]
  let first := if pass = 0 ∧ slice = 0 then 2 else 0
  (List.range (p.segment - first)).foldl (fun memory i =>
    fillBlock p words ⟨pass, slice, lane, first + i⟩ memory) memory

/-- One pass over the memory. -/
def fillPass (p : Params) (memory : Array Block) (pass : Nat) : Array Block :=
  (List.range 4).foldl (fun memory slice =>
    (List.range p.lanes).foldl (fillSegment p pass slice) memory) memory

/-- The digest from which the first blocks are made. -/
def seed (p : Params) (size : Nat) (password salt data : Bytes) : Bytes :=
  Hash.Blake2b.digest 64
    (number32 p.lanes ++ number32 size ++ number32 p.memory ++ number32 p.passes ++ number32 0x13 ++
      number32 2 ++ number32 password.length ++ password ++ number32 salt.length ++ salt ++
      number32 0 ++ number32 data.length ++ data)

/-- The memory before the first pass: two blocks at the start of each lane. -/
def start (p : Params) (seed : Bytes) : Array Block :=
  (List.range p.lanes).foldl (fun memory lane =>
      [0, 1].foldl (fun memory i =>
        memory.setIfInBounds (lane * p.laneLength + i)
          (.ofBytes (longDigest 1024 (seed ++ number32 i ++ number32 lane)))) memory)
    (Array.replicate (p.lanes * p.laneLength) .zero)

/-- The Argon2id digest of a password, `size` octets long. -/
def digest (p : Params) (size : Nat) (password salt data : Bytes) : Bytes :=
  let memory := (List.range p.passes).foldl (fillPass p) (start p (seed p size password salt data))
  let last := (List.range p.lanes).foldl (fun sum lane =>
    sum.xor (memory.getD (lane * p.laneLength + p.laneLength - 1) .zero)) Block.zero
  longDigest size last.toBytes

end Countersign.Argon2
