import Countersign.Bytes

/-!
Percent encoding: an octet written as a percent sign and two hexadecimal digits.
-/

namespace Countersign.Text.Percent

/-- The octets of a text, those read before in front, which stand in reverse. A percent sign without two
digits stands for itself. -/
def decodeOnto (octets : Bytes) : Bytes → Bytes
  | [] => octets.reverse
  | 0x25 :: a :: b :: rest =>
    match Bytes.hexValue? (Char.ofNat a.toNat), Bytes.hexValue? (Char.ofNat b.toNat) with
    | some high, some low => decodeOnto (UInt8.ofNat (high * 16 + low) :: octets) rest
    | _, _ => decodeOnto (0x25 :: octets) (a :: b :: rest)
  | x :: rest => decodeOnto (x :: octets) rest

/-- The text that is meant; none if it is not UTF-8. -/
def decode? (s : String) : Option String := Bytes.toText? (decodeOnto [] (Bytes.ofText s))

end Countersign.Text.Percent
