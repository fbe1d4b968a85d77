import Countersign.Bytes
import Countersign.Text.Integer
import Countersign.Text.Printable

/-!
Texts as dumps for people show them: in quotes, with what cannot be seen written as an escape.
-/

namespace Countersign.Text

/-- The hexadecimal digits of a number, the most significant first. -/
def hexDigits (n : Nat) : List Char :=
  if n < 16 then [Bytes.hexDigit n] else hexDigits (n / 16) ++ [Bytes.hexDigit (n % 16)]
termination_by n

/-- What a dump shows for a character. -/
def shownChar (c : Char) : List Char :=
  match c with
  | '"' => ['\\', '"']
  | '\\' => ['\\', '\\']
  | '\n' => ['\\', 'n']
  | '\r' => ['\\', 'r']
  | '\t' => ['\\', 't']
  | '\x00' => ['\\', '0']
  | c => if isPrintable c then [c] else ['\\', 'u', '\x7b'] ++ hexDigits c.toNat ++ ['\x7d']

/-- A text in quotes. -/
def quoted (s : String) : String := String.ofList ('"' :: s.toList.flatMap shownChar ++ ['"'])

/-- A named record with its fields. -/
def record (name : String) (fields : List (String × String)) (closing : String := " \x7d") : String :=
  name ++ " \x7b " ++ ", ".intercalate (fields.map fun (field, shown) => field ++ ": " ++ shown) ++
    closing

/-- The end of a record that has more fields than are shown. -/
def andMore : String := ", .. \x7d"

end Countersign.Text
