import Countersign.Bytes
import Countersign.Json.Numeral

/-!
The tokens of a JSON text, and the machine that finds them.

The machine takes one octet at a time. Inside strings it checks escapes and control characters only;
whether the octets are the UTF-8 form of a text, and whether the escapes make characters, is a question
to those who want the text.
-/

namespace Countersign.Json

inductive Token where
  | objectStart
  | objectEnd
  | arrayStart
  | arrayEnd
  | colon
  | comma
  | null
  | bool (b : Bool)
  | number (n : Numeral)
  /-- A string, as it stands between its quotes. -/
  | string (raw : Bytes)
deriving DecidableEq

namespace Token

/-- The octet of an ASCII character. -/
@[inline] def octet (c : Char) : UInt8 := c.toUInt8

/-- Octets of words and numbers. -/
def isRunOctet (b : UInt8) : Bool :=
  (octet '0' ≤ b && b ≤ octet '9') || (octet 'a' ≤ b && b ≤ octet 'z') ||
    (octet 'A' ≤ b && b ≤ octet 'Z') || b == octet '+' || b == octet '-' || b == octet '.'

/-- The token of a word or a number. -/
def ofRun? (run : List Char) : Option Token :=
  if run = "null".toList then some .null
  else if run = "true".toList then some (.bool true)
  else if run = "false".toList then some (.bool false)
  else (Numeral.read? run).map .number

/-- The token of a single octet. -/
def ofOctet? (b : UInt8) : Option Token :=
  if b == octet ',' then some .comma
  else if b == octet ':' then some .colon
  else if b == octet '\x7b' then some .objectStart
  else if b == octet '\x7d' then some .objectEnd
  else if b == octet '[' then some .arrayStart
  else if b == octet ']' then some .arrayEnd
  else none

def isBlank (b : UInt8) : Bool :=
  b == octet ' ' || b == octet '\n' || b == octet '\r' || b == octet '\t'

/-- The octets that may follow a backslash, `u` apart. -/
def isShortEscape (b : UInt8) : Bool := "\"\\/bfnrt".toList.any fun c => octet c == b

def isHexOctet (b : UInt8) : Bool := (Bytes.hexValue? (Char.ofNat b.toNat)).isSome

/-- Where the machine stands. What it has read of a token stands in reverse. -/
inductive Mode where
  | between
  | run (read : List Char)
  | string (raw : Bytes)
  | escape (raw : Bytes)
  /-- So many hexadecimal digits are owed, and one more. -/
  | unicode (raw : Bytes) (owed : Nat)

/-- The tokens found so far, in reverse, and where the machine stands. -/
structure Lexing where
  found : List Token
  mode : Mode

namespace Lexing

/-- Takes an octet that does not belong to a token begun before. -/
def begin (found : List Token) (b : UInt8) : Option Lexing :=
  if isBlank b then some ⟨found, .between⟩
  else if b == octet '"' then some ⟨found, .string []⟩
  else if isRunOctet b then some ⟨found, .run [Char.ofNat b.toNat]⟩
  else (ofOctet? b).map fun t => ⟨t :: found, .between⟩

/-- Takes one octet. -/
def step (s : Lexing) (b : UInt8) : Option Lexing :=
  match s.mode with
  | .between => begin s.found b
  | .run read =>
    if isRunOctet b then some { s with mode := .run (Char.ofNat b.toNat :: read) }
    else match ofRun? read.reverse with
      | none => none
      | some t => begin (t :: s.found) b
  | .string raw =>
    if b == octet '"' then some ⟨.string raw.reverse :: s.found, .between⟩
    else if b == octet '\\' then some { s with mode := .escape (b :: raw) }
    else if b < 32 then none
    else some { s with mode := .string (b :: raw) }
  | .escape raw =>
    if b == octet 'u' then some { s with mode := .unicode (b :: raw) 3 }
    else if isShortEscape b then some { s with mode := .string (b :: raw) }
    else none
  | .unicode raw owed =>
    if isHexOctet b then
      match owed with
      | 0 => some { s with mode := .string (b :: raw) }
      | owed + 1 => some { s with mode := .unicode (b :: raw) owed }
    else none

/-- The tokens, if the text may end here. -/
def finish (s : Lexing) : Option (List Token) :=
  match s.mode with
  | .between => some s.found.reverse
  | .run read => (ofRun? read.reverse).map fun t => (t :: s.found).reverse
  | _ => none

end Lexing

/-- The tokens of a text. -/
def scan? (text : Bytes) : Option (List Token) :=
  (text.foldl (fun s b => s.bind fun s => s.step b) (some (⟨[], .between⟩ : Lexing))).bind
    Lexing.finish

end Token

end Countersign.Json
