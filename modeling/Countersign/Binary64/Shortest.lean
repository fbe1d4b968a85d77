import Countersign.Binary64
import Countersign.Text.Integer

/-!
The shortest decimal digits that read back as a number of the format binary64.

Decimals that round to a number fill an interval around it. Of the grids of 1, 2, … 17 digits the first with
a point in the interval is taken, and of its points the one nearest to the number.
-/

namespace Countersign.Binary64

/-- A decimal number `0.digits * 10 ^ scale`, its first digit not zero. -/
structure Decimal where
  digits : List Char
  scale : Int
deriving DecidableEq

/-- The least `n` up to a bound with `num < den * tens n`. -/
def tensAbove (num den : Nat) : Nat :=
  ((List.range 400).find? fun n => num < den * tens n).getD 400

/-- The scale of a positive fraction: the `s` with `10 ^ (s - 1) ≤ num / den < 10 ^ s`. -/
def scaleOf (num den : Nat) : Int :=
  if den ≤ num then tensAbove num den
  else 1 - (((List.range 400).find? fun n => den ≤ num * tens n).getD 400 : Nat)

/-- Four times the number and the ends of its interval, over one denominator, and whether the ends belong
to it. -/
structure Interval where
  low : Nat
  value : Nat
  high : Nat
  den : Nat
  closed : Bool

/-- The decimals that round to a positive number. Below a power of two the next number is nearer. -/
def interval (x : Binary64) : Interval :=
  let narrow := x.significand = 1 <<< 52 ∧ minPower < x.power
  let up := fun n => scaleUp n x.power
  { low := up (4 * x.significand - (if narrow then 1 else 2))
    value := up (4 * x.significand)
    high := up (4 * x.significand + 2)
    den := 4 * scaleUp 1 (-x.power)
    closed := x.significand % 2 == 0 }

namespace Interval

/-- Whether `num / den` lies in the interval. -/
def holds (i : Interval) (num den : Nat) : Bool :=
  let point := num * i.den
  if i.closed then i.low * den ≤ point && point ≤ i.high * den
  else i.low * den < point && point < i.high * den

/-- The nearest point of the grid `10 ^ step` in the interval: the multiple. -/
def nearest? (i : Interval) (step : Int) : Option Nat :=
  let num := tens step.toNat
  let den := tens (-step).toNat
  let below := i.value * den / (i.den * num)
  let rest := i.value * den % (i.den * num)
  let low := i.holds (below * num) den
  let high := i.holds ((below + 1) * num) den
  let upward := i.den * num < 2 * rest ∨ (2 * rest = i.den * num ∧ below % 2 = 1)
  if low ∧ high then some (if upward then below + 1 else below)
  else if low then some below
  else if high then some (below + 1)
  else none

end Interval

/-- The shortest decimal that reads back as a number that is not zero. -/
def shortest (x : Binary64) : Decimal :=
  let i := x.interval
  let scale := scaleOf i.value i.den
  let grid := (List.range 17).findSome? fun (n : Nat) =>
    (i.nearest? (scale - 1 - (n : Int))).map fun point => (point, scale - 1 - (n : Int))
  let (point, step) := grid.getD (0, 0)
  let digits := Text.natDigits point
  ⟨(digits.reverse.dropWhile (· == '0')).reverse, step + digits.length⟩

end Countersign.Binary64
