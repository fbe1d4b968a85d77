import Countersign.Bytes

/-!
Base64 without padding, over the standard and the url-safe alphabet.

Reading is strict: every byte string has exactly one accepted text. A lone last character, a character
of another alphabet and unused low bits that are not zero are all refused.
-/

namespace Countersign.Base64

/-- The two alphabets differ in their last two digits. -/
inductive Alphabet where
  | standard
  | urlSafe
deriving DecidableEq

namespace Alphabet

/-- The character of a digit below 64. -/
def digit (alphabet : Alphabet) (n : Nat) : Char :=
  if n < 26 then Char.ofNat ('A'.toNat + n)
  else if n < 52 then Char.ofNat ('a'.toNat + (n - 26))
  else if n < 62 then Char.ofNat ('0'.toNat + (n - 52))
  else match alphabet, n with
    | .standard, 62 => '+'
    | .standard, _ => '/'
    | .urlSafe, 62 => '-'
    | .urlSafe, _ => '_'

/-- The digit that a character stands for. -/
def value? (alphabet : Alphabet) (c : Char) : Option Nat :=
  if c.isUpper then some (c.toNat - 'A'.toNat)
  else if c.isLower then some (c.toNat - 'a'.toNat + 26)
  else if c.isDigit then some (c.toNat - '0'.toNat + 52)
  else if c = alphabet.digit 62 then some 62
  else if c = alphabet.digit 63 then some 63
  else none

end Alphabet

/-- Writes three octets as four digits, in front of `written`, which stands in reverse. -/
def encodeOnto (alphabet : Alphabet) (written : List Char) : Bytes → List Char
  | [] => written
  | [x] =>
    alphabet.digit (x.toNat % 4 * 16) :: alphabet.digit (x.toNat / 4) :: written
  | [x, y] =>
    alphabet.digit (y.toNat % 16 * 4) :: alphabet.digit (x.toNat % 4 * 16 + y.toNat / 16) ::
      alphabet.digit (x.toNat / 4) :: written
  | x :: y :: z :: rest =>
    encodeOnto alphabet
      (alphabet.digit (z.toNat % 64) :: alphabet.digit (y.toNat % 16 * 4 + z.toNat / 64) ::
        alphabet.digit (x.toNat % 4 * 16 + y.toNat / 16) :: alphabet.digit (x.toNat / 4) :: written)
      rest

/-- The text of a byte string. -/
def encode (alphabet : Alphabet) (b : Bytes) : String :=
  String.ofList (encodeOnto alphabet [] b).reverse

/-- Reads four digits as three octets, in front of `octets`, which stand in reverse. -/
def decodeOnto (alphabet : Alphabet) (octets : Bytes) : List Char → Option Bytes
  | [] => some octets
  | [_] => none
  | [p, q] =>
    match alphabet.value? p, alphabet.value? q with
    | some a, some b => if b % 16 = 0 then some (UInt8.ofNat (a * 4 + b / 16) :: octets) else none
    | _, _ => none
  | [p, q, r] =>
    match alphabet.value? p, alphabet.value? q, alphabet.value? r with
    | some a, some b, some c =>
      if c % 4 = 0 then
        some (UInt8.ofNat (b % 16 * 16 + c / 4) :: UInt8.ofNat (a * 4 + b / 16) :: octets)
      else none
    | _, _, _ => none
  | p :: q :: r :: s :: rest =>
    match alphabet.value? p, alphabet.value? q, alphabet.value? r, alphabet.value? s with
    | some a, some b, some c, some d =>
      decodeOnto alphabet
        (UInt8.ofNat (c % 4 * 64 + d) :: UInt8.ofNat (b % 16 * 16 + c / 4) ::
          UInt8.ofNat (a * 4 + b / 16) :: octets)
        rest
    | _, _, _, _ => none

/-- The byte string of a text, if the text is the one that `encode` writes. -/
def decode? (alphabet : Alphabet) (s : String) : Option Bytes :=
  (decodeOnto alphabet [] s.toList).map List.reverse

end Countersign.Base64
