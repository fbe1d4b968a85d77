/-!
The elliptic curve P-256: points with affine coordinates, their sum, and multiples of a point.

The curve is `y² = x³ - 3x + b` over a prime field. A point is the one at infinity or a pair of
coordinates; the formulas of `Point.add` are the chord and the tangent.
-/

namespace Countersign.P256

/-- The size of the field: `2 ^ 256 - 2 ^ 224 + 2 ^ 192 + 2 ^ 96 - 1`. -/
def prime : Nat := 0xffffffff00000001000000000000000000000000ffffffffffffffffffffffff

/-- The number of points, which is a prime too. -/
def order : Nat := 0xffffffff00000000ffffffffffffffffbce6faada7179e84f3b9cac2fc632551

instance : @NeZero Nat Zero.ofOfNat0 prime := @NeZero.mk Nat Zero.ofOfNat0 prime (by decide)

/-- An element of the field. -/
abbrev Coordinate := Fin prime

/-- The constant of the curve's equation. -/
def constant : Coordinate :=
  Fin.ofNat prime 0x5ac635d8aa3a93e7b3ebbd55769886bc651d06b0cc53b0f63bce3c3e27d2604b

/-- The 256 low bits of a number, the most significant first. -/
def bits (n : Nat) : List Bool := (List.range 256).map fun i => n.testBit (255 - i)

/-- `x` to the power of `n`, for `n` below `2 ^ 256`: square, and multiply where a bit is set. -/
def power (x : Coordinate) (n : Nat) : Coordinate :=
  (bits n).foldl (fun y set => if set then y * y * x else y * y) 1

/-- The inverse of an element that is not zero; by Fermat a power of it. -/
def inverse (x : Coordinate) : Coordinate := power x (prime - 2)

/-- The equation of the curve. -/
def OnCurve (x y : Coordinate) : Prop := y * y = x * x * x - 3 * x + constant

instance (x y : Coordinate) : Decidable (OnCurve x y) :=
  inferInstanceAs (Decidable (y * y = x * x * x - 3 * x + constant))

/-- A point with coordinates, or the one at infinity. -/
inductive Point where
  | infinity
  | affine (x y : Coordinate)
deriving DecidableEq

namespace Point

/-- The third point on the line through `(x, y)` with this slope, reflected; `u` is the first
coordinate of the second one. -/
def reflect (slope x y u : Coordinate) : Point :=
  let v := slope * slope - x - u
  .affine v (slope * (x - v) - y)

def double : Point → Point
  | .infinity => .infinity
  | .affine x y =>
    if y + y = 0 then .infinity
    else reflect ((3 * (x * x) - 3) * inverse (y + y)) x y x

def add : Point → Point → Point
  | .infinity, q => q
  | p, .infinity => p
  | .affine x y, .affine u v =>
    if x = u then if y = v then double (.affine x y) else .infinity
    else reflect ((y - v) * inverse (x - u)) x y u

/-- The sum of `n` copies of a point, for `n` below `2 ^ 256`: double, and add where a bit is set. -/
def multiple (n : Nat) (p : Point) : Point :=
  (bits n).foldl (fun q set => if set then q.double.add p else q.double) .infinity

/-- The point whose multiples are all the points. -/
def base : Point :=
  .affine
    (Fin.ofNat prime 0x6b17d1f2e12c4247f8bce6e563a440f277037d812deb33a0f4a13945d898c296)
    (Fin.ofNat prime 0x4fe342e2fe1a7f9b8ee7eb4a7c0f9e162bce33576b315ececbb6406837bf51f5)

end Point

end Countersign.P256
