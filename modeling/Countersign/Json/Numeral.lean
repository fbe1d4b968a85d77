import Countersign.Text.Integer

/-!
The written form of JSON numbers: a sign, whole digits, digits after a point, and an exponent.
-/

namespace Countersign.Json

/-- A number as it is written. -/
structure Numeral where
  negative : Bool
  whole : List Char
  /-- The digits after the point; none if there is no point. -/
  fraction : List Char := []
  /-- Whether the exponent is negative, and its digits. -/
  exponent : Option (Bool × List Char) := none
deriving DecidableEq

namespace Numeral

/-- Reads the sign of a number. -/
def sign : List Char → Bool × List Char
  | '-' :: s => (true, s)
  | s => (false, s)

/-- Reads the digits after a point, if there is one. -/
def fraction? : List Char → Option (List Char × List Char)
  | '.' :: s =>
    let digits := s.takeWhile Char.isDigit
    if digits.isEmpty then none else some (digits, s.dropWhile Char.isDigit)
  | s => some ([], s)

/-- Reads an exponent, which must end the text, or the end of the text. -/
def exponent? : List Char → Option (Option (Bool × List Char))
  | [] => some none
  | c :: s =>
    if c = 'e' ∨ c = 'E' then
      let (negative, digits) := match s with
        | '-' :: digits => (true, digits)
        | '+' :: digits => (false, digits)
        | digits => (false, digits)
      if !digits.isEmpty && digits.all Char.isDigit then some (some (negative, digits)) else none
    else none

/-- Reads a number; a zero in front of another digit is refused. -/
def read? (s : List Char) : Option Numeral := do
  let (negative, s) := sign s
  let whole := s.takeWhile Char.isDigit
  let s := s.dropWhile Char.isDigit
  if whole.isEmpty ∨ (whole.head? = some '0' ∧ whole.length ≠ 1) then none
  else
    let (fraction, s) ← fraction? s
    let exponent ← exponent? s
    some ⟨negative, whole, fraction, exponent⟩

/-- The integer that the number writes with whole digits alone. The negative zero is none. -/
def int? (n : Numeral) : Option Int :=
  if n.fraction.isEmpty ∧ n.exponent.isNone then
    let size := Text.natOfDigits n.whole
    if n.negative then if size = 0 then none else some (-size) else some size
  else none

/-- The written form of an integer. -/
def ofInt (i : Int) : Numeral := ⟨decide (i < 0), Text.natDigits i.natAbs, [], none⟩

end Numeral

end Countersign.Json
