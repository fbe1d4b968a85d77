/-!
The replay guard: a bounded memory of the requests seen, most recent first.

A request is remembered by its instant and nonce. The first sight of a pair is accepted; any sight,
accepted or refused, makes the pair the most recent one, and the least recent gives way when the
memory is full.
-/

namespace Countersign

/-- The last `capacity` distinct keys, most recent first. -/
structure ReplayGuard where
  capacity : Nat
  keys : List String
  capacity_pos : 0 < capacity
  nodup : keys.Nodup
  bounded : keys.length ≤ capacity

namespace ReplayGuard

/-- How many keys a guard remembers unless told otherwise. -/
def defaultCapacity : Nat := 100000

/-- A guard that has seen nothing; it remembers at least one key. -/
def new (capacity : Nat) : ReplayGuard where
  capacity := max capacity 1
  keys := []
  capacity_pos := by omega
  nodup := .nil
  bounded := by simp

/-- The largest capacity for which a table of keys fits an address space of `2 ^ 63` octets: its slots are a
power of two, one in eight stays free, and each takes 17 octets. -/
def maxCapacity : Nat := 7 <<< 55

/-- A guard that has seen nothing, if there is room for its table. -/
def new? (capacity : Nat) : Option ReplayGuard :=
  if capacity ≤ maxCapacity then some (new capacity) else none

/-- The text under which a request is remembered. -/
def key (timestamp nonce : String) : String := timestamp ++ "-" ++ nonce

/-- Makes `k` the most recent key. -/
def touch (guard : ReplayGuard) (k : String) : ReplayGuard where
  capacity := guard.capacity
  keys := (k :: guard.keys.erase k).take guard.capacity
  capacity_pos := guard.capacity_pos
  nodup := List.Nodup.sublist (List.take_sublist ..)
    (List.nodup_cons.mpr ⟨guard.nodup.not_mem_erase, guard.nodup.erase k⟩)
  bounded := List.length_take_le ..

/-- Whether the pair is new to the guard, and the guard that has now seen it. -/
def record (guard : ReplayGuard) (timestamp nonce : String) : Bool × ReplayGuard :=
  let k := key timestamp nonce
  (!guard.keys.contains k, guard.touch k)

def size (guard : ReplayGuard) : Nat := guard.keys.length

def isEmpty (guard : ReplayGuard) : Bool := guard.keys.isEmpty

end ReplayGuard

end Countersign
