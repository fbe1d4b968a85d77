/-!
Byte strings, and their two texts: UTF-8 and pairs of hexadecimal digits.

`lossyChars` reads octets that need not be UTF-8.
-/

namespace Countersign

/-- A string of octets. -/
abbrev Bytes := List UInt8

namespace Bytes

/-- The UTF-8 form of a text. -/
def ofText (s : String) : Bytes := s.toUTF8.data.toList

/-- The text of which this is the UTF-8 form. -/
def toText? (b : Bytes) : Option String := String.fromUTF8? ⟨b.toArray⟩

theorem toText?_ofText (s : String) : toText? (ofText s) = some s := by
  simp [toText?, ofText, String.fromUTF8?, String.fromUTF8, s.isValidUTF8]

/-- How many octets follow the first one of a character, and between which bounds the second lies; an octet
that begins no character has none to follow it. -/
def followers (first : UInt8) : Nat × UInt8 × UInt8 :=
  if first < 0xc2 then (0, 0x80, 0xbf)
  else if first < 0xe0 then (1, 0x80, 0xbf)
  else if first = 0xe0 then (2, 0xa0, 0xbf)
  else if first = 0xed then (2, 0x80, 0x9f)
  else if first < 0xf0 then (2, 0x80, 0xbf)
  else if first = 0xf0 then (3, 0x90, 0xbf)
  else if first < 0xf4 then (3, 0x80, 0xbf)
  else if first = 0xf4 then (3, 0x80, 0x8f)
  else (0, 0x80, 0xbf)

/-- The octets that follow the first one of a character, as far as they are there and in bounds. -/
def taken (first : UInt8) (rest : Bytes) : Bytes :=
  match followers first, rest with
  | (count + 1, low, high), second :: rest =>
    if low ≤ second ∧ second ≤ high then
      second :: (rest.take count).takeWhile fun b => 0x80 ≤ b && b ≤ 0xbf
    else []
  | _, _ => []

/-- The characters of octets. What is no character, taken as far as one could have begun so, is shown as a
replacement character. -/
def lossyChars : Bytes → List Char
  | [] => []
  | first :: rest =>
    let after := taken first rest
    match toText? (first :: after) with
    | some s => s.toList ++ lossyChars (rest.drop after.length)
    | none => '\ufffd' :: lossyChars (rest.drop after.length)
termination_by b => b.length
decreasing_by all_goals simp only [List.length_cons, List.length_drop]; omega

/-- The text of octets, with replacement characters for what is not UTF-8. -/
def toTextLossy (b : Bytes) : String := String.ofList (lossyChars b)

/-- The sixteen hexadecimal digits, in lower case. -/
def hexDigit (n : Nat) : Char :=
  if n < 10 then Char.ofNat ('0'.toNat + n) else Char.ofNat ('a'.toNat + n - 10)

/-- Two hexadecimal digits per octet, the high one first. -/
def hex (b : Bytes) : String :=
  String.ofList (b.flatMap fun x => [hexDigit (x.toNat / 16), hexDigit (x.toNat % 16)])

/-- The value of a hexadecimal digit, of either case. -/
def hexValue? (c : Char) : Option Nat :=
  if c.isDigit then some (c.toNat - '0'.toNat)
  else if 'a' ≤ c ∧ c ≤ 'f' then some (c.toNat - 'a'.toNat + 10)
  else if 'A' ≤ c ∧ c ≤ 'F' then some (c.toNat - 'A'.toNat + 10)
  else none

/-- Number written by these octets, the most significant first. -/
def toNat (b : Bytes) : Nat := b.foldl (fun n x => n * 256 + x.toNat) 0

/-- The `width` low octets of `n`, the most significant first. -/
def ofNat (width n : Nat) : Bytes :=
  (List.range width).foldl (fun (b, n) _ => (UInt8.ofNat n :: b, n / 256)) (([] : Bytes), n) |>.1

end Bytes

end Countersign
