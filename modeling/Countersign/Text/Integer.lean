/-!
Decimal texts of integers.
-/

namespace Countersign.Text

/-- The character of a digit below ten. -/
def digitChar (n : Nat) : Char := Char.ofNat ('0'.toNat + n)

/-- The value of a decimal digit. -/
def digitValue (c : Char) : Nat := c.toNat - '0'.toNat

/-- The decimal digits of a number, the most significant first. -/
def natDigits (n : Nat) : List Char :=
  if n < 10 then [digitChar n] else natDigits (n / 10) ++ [digitChar (n % 10)]
termination_by n

/-- The decimal text of a natural number. -/
def ofNat (n : Nat) : String := String.ofList (natDigits n)

/-- The decimal text of an integer. -/
def ofInt (i : Int) : String := if i < 0 then "-" ++ ofNat i.natAbs else ofNat i.natAbs

/-- The decimal digits of a number, with zeros in front up to a width. -/
def padded (width n : Nat) : String :=
  let digits := natDigits n
  String.ofList (List.replicate (width - digits.length) '0' ++ digits)

/-- The number that decimal digits write. -/
def natOfDigits (digits : List Char) : Nat :=
  digits.foldl (fun n c => n * 10 + digitValue c) 0

/-- Reads a natural number: at least one digit, and digits only. -/
def readNat? (s : List Char) : Option Nat :=
  if !s.isEmpty && s.all Char.isDigit then some (natOfDigits s) else none

/-- Reads an integer: a natural number, with a sign in front or without. -/
def readInt? : List Char → Option Int
  | '-' :: digits => (readNat? digits).map fun n => -n
  | '+' :: digits => (readNat? digits).map Int.ofNat
  | digits => (readNat? digits).map Int.ofNat

/-- The integer as a word of 64 bits, if it fits. -/
def int64? (i : Int) : Option Int64 :=
  if Int64.minValue.toInt ≤ i ∧ i ≤ Int64.maxValue.toInt then some (Int64.ofInt i) else none

/-- Reads a signed number of 64 bits. -/
def readInt64? (s : List Char) : Option Int64 := (readInt? s).bind int64?

end Countersign.Text
