/-!
Numbers of the format binary64, the infinities and NaNs apart, in exact arithmetic.

A number is a sign, a significand below `2 ^ 53` and a power of two from `-1074` on. All rounding is done by
`ofRatio?`, which goes to the nearest number, and halfway to the even one.
-/

namespace Countersign

/-- The number `± significand * 2 ^ power`. -/
structure Binary64 where
  negative : Bool
  significand : Nat
  power : Int
deriving DecidableEq, Inhabited

namespace Binary64

/-- The least power of two. -/
def minPower : Int := -1074

/-- The greatest power of two. -/
def maxPower : Int := 971

/-- The significands of numbers that are not too small have 53 bits. -/
def limit : Nat := 1 <<< 53

def zero : Binary64 := ⟨false, 0, minPower⟩

def isZero (x : Binary64) : Bool := x.significand == 0

/-- The numerator of `n * 2 ^ power`. -/
def scaleUp (n : Nat) (power : Int) : Nat := n <<< power.toNat

/-- The quotient rounded to the nearest integer, and halfway to the even one. -/
def roundQuotient (num den : Nat) : Nat :=
  let q := num / den
  let twice := 2 * (num % den)
  if twice < den then q
  else if den < twice then q + 1
  else if q % 2 = 0 then q else q + 1

/-- The power of two of the number nearest to `num / den`, or one less. -/
def powerOf (num den : Nat) : Int :=
  let near : Int := (Nat.log2 num : Int) - (Nat.log2 den : Int) - 52
  let power := max minPower near
  if scaleUp num (-power) < scaleUp den power <<< 52 then max minPower (power - 1) else power

/-- The number nearest to `num / den`; `none` beyond the largest. -/
def ofRatio? (num den : Nat) : Option Binary64 :=
  if num = 0 then some zero
  else
    let power := powerOf num den
    let rounded := roundQuotient (scaleUp num (-power)) (scaleUp den power)
    let (significand, power) := if rounded = limit then (rounded / 2, power + 1) else (rounded, power)
    if maxPower < power then none else some ⟨false, significand, power⟩

/-- The number nearest to a natural number. -/
def ofNat? (n : Nat) : Option Binary64 := ofRatio? n 1

/-- The product of the absolute values. -/
def mul? (x y : Binary64) : Option Binary64 :=
  let power := x.power + y.power
  ofRatio? (scaleUp (x.significand * y.significand) power) (scaleUp 1 (-power))

/-- The quotient of the absolute values; the divisor is not zero. -/
def div? (x y : Binary64) : Option Binary64 :=
  let power := x.power - y.power
  ofRatio? (scaleUp x.significand power) (scaleUp y.significand (-power))

/-- A power of ten. -/
def tens (exponent : Nat) : Nat := Nat.pow 10 exponent

/-- The number nearest to a power of ten. -/
def tenPower? (exponent : Nat) : Option Binary64 := ofNat? (tens exponent)

def neg (x : Binary64) : Binary64 := { x with negative := !x.negative }

/-- The absolute value as a fraction. -/
def ratio (x : Binary64) : Nat × Nat := (scaleUp x.significand x.power, scaleUp 1 (-x.power))

end Binary64

end Countersign
