import Countersign.Binary64.Shortest
import Countersign.Json.Numeral

/-!
The values of JSON numbers: integers of 64 bits, with a sign or without, and binary64 for all others.

The value of a long or fractional number is not the nearest one: of its digits as many count as make a
number of 64 bits, and this number, rounded, is multiplied or divided by a rounded power of ten.
-/

namespace Countersign.Json

inductive Number where
  | integer (i : Int)
  | double (x : Binary64)
deriving DecidableEq

namespace Numeral

/-- Takes digits onto a number as long as it stays below `2 ^ 64`; gives it and how many were taken. -/
def gather (n : Nat) (taken : Nat) : List Char → Nat × Nat
  | [] => (n, taken)
  | c :: digits =>
    let next := n * 10 + Text.digitValue c
    if next < 1 <<< 64 then gather next (taken + 1) digits else (n, taken)

/-- The digits that count, and the power of ten that goes with them, without the written exponent. -/
def significant (n : Numeral) : Nat × Int :=
  let (whole, taken) := gather 0 0 n.whole
  let (all, places) := gather whole 0 n.fraction
  (all, (n.whole.length - taken : Nat) - (places : Int))

/-- Multiplies or divides by a power of ten, of which the table goes to 308; `none` beyond the largest
number. -/
def scaled? (x : Binary64) (exponent : Int) : Option Binary64 :=
  if x.isZero then some x
  else if 308 < exponent then none
  else if 0 ≤ exponent then do x.mul? (← Binary64.tenPower? exponent.toNat)
  else do
    let size := exponent.natAbs
    let large ← Binary64.tenPower? 308
    let steps := (size - 1) / 308
    let reduced ← (List.range (min steps 3)).foldlM (fun x _ => Binary64.div? x large) x
    if reduced.isZero then some reduced
    else reduced.div? (← Binary64.tenPower? (size - 308 * steps))

/-- The value in binary64. -/
def double? (n : Numeral) : Option Binary64 := do
  let (digits, places) := n.significant
  let x ← match n.exponent with
    | none => scaled? (← Binary64.ofNat? digits) places
    | some (negative, written) =>
      let size := Text.natOfDigits written
      if 1 <<< 31 ≤ size then if digits ≠ 0 ∧ ¬ negative then none else some Binary64.zero
      else scaled? (← Binary64.ofNat? digits) (if negative then places - size else places + size)
  some (if n.negative then x.neg else x)

/-- The value; numbers beyond the largest of binary64 have none. -/
def value? (n : Numeral) : Option Number :=
  match n.int? with
  | some i => if Int64.minValue.toInt ≤ i ∧ i < UInt64.size then some (.integer i) else n.double?.map .double
  | none => n.double?.map .double

end Numeral

namespace Number

/-- Doubles are written with a point for the powers of ten from `-5` to `15`, and with an exponent
beyond. -/
def writeDouble (x : Binary64) : String :=
  let sign := if x.negative then "-" else ""
  if x.isZero then sign ++ "0.0"
  else
    let d := x.shortest
    let count := d.digits.length
    let exponent := d.scale - 1
    if exponent < -5 ∨ 15 < exponent then
      let mantissa := match d.digits with
        | [] => []
        | [c] => [c]
        | c :: rest => c :: '.' :: rest
      sign ++ String.ofList mantissa ++ (if exponent < 0 then "e-" else "e+") ++
        Text.ofNat exponent.natAbs
    else if exponent < 0 then
      sign ++ "0." ++ String.ofList (List.replicate (-d.scale).toNat '0' ++ d.digits)
    else if count ≤ d.scale.toNat then
      sign ++ String.ofList (d.digits ++ List.replicate (d.scale.toNat - count) '0') ++ ".0"
    else
      sign ++ String.ofList (d.digits.take d.scale.toNat) ++ "." ++
        String.ofList (d.digits.drop d.scale.toNat)

def write : Number → String
  | .integer i => Text.ofInt i
  | .double x => writeDouble x

end Number

end Countersign.Json
