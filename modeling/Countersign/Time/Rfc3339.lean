import Countersign.Text.Integer
import Countersign.Time.Instant

/-!
Texts of instants after RFC 3339: a date, a time of day and the distance from UTC.

Reading takes any of `T`, `t` and a blank between date and time, and any number of digits after the
point, of which nine count. Writing gives whole seconds of UTC.
-/

namespace Countersign.Time.Rfc3339

open Text (digitValue)

/-- Reads exactly so many digits, onto the number read before. -/
def digits : Nat → Nat → List Char → Option (Nat × List Char)
  | 0, n, s => some (n, s)
  | count + 1, n, c :: s => if c.isDigit then digits count (n * 10 + digitValue c) s else none
  | _ + 1, _, [] => none

/-- Reads one character of a class. -/
def one (accepts : Char → Bool) : List Char → Option (Char × List Char)
  | c :: s => if accepts c then some (c, s) else none
  | [] => none

/-- Reads a date. -/
def date (s : List Char) : Option (Date × List Char) := do
  let (year, s) ← digits 4 0 s
  let (_, s) ← one (· == '-') s
  let (month, s) ← digits 2 0 s
  let (_, s) ← one (· == '-') s
  let (day, s) ← digits 2 0 s
  let d : Date := ⟨year, month, day⟩
  if d.Exists then some (d, s) else none

/-- Reads the digits after the point as nanoseconds; without a point there are none. -/
def fraction : List Char → Option (Nat × List Char)
  | '.' :: s =>
    let ds := s.takeWhile Char.isDigit
    if ds.isEmpty then none
    else
      let nine := (ds ++ List.replicate 9 '0').take 9
      some (Text.natOfDigits nine, s.dropWhile Char.isDigit)
  | s => some (0, s)

/-- Reads a time of day, as seconds and nanoseconds. The second 60 is a leap second. -/
def timeOfDay (s : List Char) : Option (Nat × Nat × List Char) := do
  let (hour, s) ← digits 2 0 s
  let (_, s) ← one (· == ':') s
  let (minute, s) ← digits 2 0 s
  let (_, s) ← one (· == ':') s
  let (sec, s) ← digits 2 0 s
  let (nanos, s) ← fraction s
  if 24 ≤ hour ∨ 60 ≤ minute ∨ 61 ≤ sec then none
  else
    let before := hour * 3600 + minute * 60
    if sec = 60 then some (before + 59, nanos + 1000000000, s) else some (before + sec, nanos, s)

/-- The signs of a distance; a minus may also be the mathematical one. -/
def isSign (c : Char) : Bool := c == '+' || c == '-' || c == '\u2212'

/-- Reads the distance from UTC, in seconds. -/
def offset : List Char → Option (Int × List Char)
  | 'Z' :: s => some (0, s)
  | 'z' :: s => some (0, s)
  | s => do
    let (sign, s) ← one isSign s
    let (hours, s) ← digits 2 0 s
    let (_, s) ← one (· == ':') s
    let (minutes, s) ← digits 2 0 s
    if 24 ≤ hours ∨ 60 ≤ minutes then none
    else
      let distance : Int := hours * 3600 + minutes * 60
      some (if sign = '+' then distance else -distance, s)

/-- Reads an instant; nothing may follow it. -/
def readChars? (s : List Char) : Option Instant := do
  let (d, s) ← date s
  let (_, s) ← one (fun c => c == 'T' || c == 't' || c == ' ') s
  let (seconds, nanos, s) ← timeOfDay s
  let (distance, s) ← offset s
  if s.isEmpty then some (.of (d.dayNumber * Instant.day + seconds - distance) nanos) else none

/-- Reads an instant. -/
def read? (s : String) : Option Instant := readChars? s.toList

/-- The text of a year: four digits, and beyond them a sign. -/
def yearText (year : Int) : String :=
  if 0 ≤ year ∧ year ≤ 9999 then Text.padded 4 year.toNat
  else (if year < 0 then "-" else "+") ++ Text.padded 4 year.natAbs

/-- The text of the second that an instant lies in, without the rest. A leap second is written as the second 60. -/
def write (t : Instant) : String :=
  let d := Date.ofDayNumber (t.seconds / Instant.day)
  let s := (t.seconds % Instant.day).toNat
  yearText d.year ++ "-" ++ Text.padded 2 d.month ++ "-" ++ Text.padded 2 d.day ++ "T" ++
    Text.padded 2 (s / 3600) ++ ":" ++ Text.padded 2 (s / 60 % 60) ++ ":" ++
    Text.padded 2 (s % 60 + if t.isLeap then 1 else 0) ++ "Z"

end Countersign.Time.Rfc3339
