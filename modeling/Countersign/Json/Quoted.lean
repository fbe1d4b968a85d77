import Countersign.Bytes

/-!
JSON strings: the text that stands between quotes, with its escapes, and the text that is meant.
-/

namespace Countersign.Json.Quoted

/-- What stands for a character between quotes. -/
def escape (c : Char) : List Char :=
  match c with
  | '"' => ['\\', '"']
  | '\\' => ['\\', '\\']
  | '\x08' => ['\\', 'b']
  | '\x0c' => ['\\', 'f']
  | '\n' => ['\\', 'n']
  | '\r' => ['\\', 'r']
  | '\t' => ['\\', 't']
  | c =>
    if c.toNat < 32 then
      ['\\', 'u', '0', '0', Bytes.hexDigit (c.toNat / 16), Bytes.hexDigit (c.toNat % 16)]
    else [c]

/-- Writes a text in quotes, behind what is written already. -/
def writeOnto (out s : String) : String :=
  (s.toList.foldl (fun out c => (escape c).foldl String.push out) (out.push '"')).push '"'

/-- The character that a letter after a backslash stands for. -/
def shortEscape? : Char → Option Char
  | '"' => some '"'
  | '\\' => some '\\'
  | '/' => some '/'
  | 'b' => some '\x08'
  | 'f' => some '\x0c'
  | 'n' => some '\n'
  | 'r' => some '\r'
  | 't' => some '\t'
  | _ => none

/-- The number of four hexadecimal digits. -/
def unit? (a b c d : Char) : Option Nat := do
  some ((← Bytes.hexValue? a) * 4096 + (← Bytes.hexValue? b) * 256 + (← Bytes.hexValue? c) * 16 +
    (← Bytes.hexValue? d))

/-- The code units of a text with escapes, in front of those read before, which stand in reverse. An
escape of four digits may be half of a pair. -/
def unitsOnto (units : List Nat) : List Char → Option (List Nat)
  | [] => some units.reverse
  | '\\' :: 'u' :: a :: b :: c :: d :: s =>
    match unit? a b c d with
    | none => none
    | some unit => unitsOnto (unit :: units) s
  | '\\' :: c :: s =>
    match shortEscape? c with
    | none => none
    | some c => unitsOnto (c.toNat :: units) s
  | c :: s => if c = '\\' then none else unitsOnto (c.toNat :: units) s

/-- Whether a unit is the first half of a pair. -/
def isHigh (unit : Nat) : Bool := 0xd800 ≤ unit && unit < 0xdc00

/-- Whether a unit is the second half of a pair. -/
def isLow (unit : Nat) : Bool := 0xdc00 ≤ unit && unit < 0xe000

/-- The characters of code units, in front of those read before, which stand in reverse. Halves must come
in pairs. -/
def pairOnto (chars : List Char) : List Nat → Option (List Char)
  | [] => some chars.reverse
  | high :: low :: units =>
    if isHigh high then
      if isLow low then
        pairOnto (Char.ofNat (0x10000 + (high - 0xd800) * 0x400 + (low - 0xdc00)) :: chars) units
      else none
    else if isLow high then none
    else pairOnto (Char.ofNat high :: chars) (low :: units)
  | [unit] => if isHigh unit || isLow unit then none else some (Char.ofNat unit :: chars).reverse

/-- The text that a string stands for: its octets must be UTF-8, and its escapes make characters. -/
def decode? (raw : Bytes) : Option String := do
  let text ← Bytes.toText? raw
  let units ← unitsOnto [] text.toList
  let chars ← pairOnto [] units
  some (String.ofList chars)

end Countersign.Json.Quoted
