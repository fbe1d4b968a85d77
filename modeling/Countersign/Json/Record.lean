import Countersign.Json.Node
import Countersign.Json.Quoted
import Countersign.Text.Integer

/-!
Reading typed data from documents.

A record is written as an object or as an array of its fields in their order. In an object the order is
free, unknown members count for nothing, whatever they hold, and no known one may stand twice. In an array
fields may be missing at the end, and none may be too much.
-/

namespace Countersign.Json.Node

/-- The text of a string. -/
def text? : Node → Option String
  | .string raw => Quoted.decode? raw
  | _ => none

/-- A word of a closed list: a text, or the only key of an object, with a null for its value. -/
def word? : Node → Option String
  | .string raw => Quoted.decode? raw
  | .object [(key, .null)] => Quoted.decode? key
  | _ => none

/-- The value of a truth value. -/
def bool? : Node → Option Bool
  | .bool b => some b
  | _ => none

/-- The value of an integer that is written with whole digits alone. -/
def int64? : Node → Option Int64
  | .number n => n.int?.bind Text.int64?
  | _ => none

/-- A value that may be null. -/
def nullable? {α : Type} (read : Node → Option α) : Node → Option (Option α)
  | .null => some none
  | n => (read n).map some

/-- The items of an array, each read in the same way. -/
def list? {α : Type} (read : Node → Option α) : Node → Option (List α)
  | .array items => items.mapM read
  | _ => none

/-- Whether a document is a text, or null. -/
def holdsText (n : Node) : Bool := (n.nullable? text?).isSome

/-- Whether a document is a list of texts, or null. -/
def holdsTexts (n : Node) : Bool := (n.nullable? (list? text?)).isSome

/-- Puts a member's value in the place of its name; refuses a second value. -/
def fill? (name : String) (item : Node) : List (String × Option Node) → Option (List (String × Option Node))
  | [] => some []
  | (field, held) :: rest =>
    if field = name then
      match held with
      | none => some ((field, some item) :: rest)
      | some _ => none
    else (fill? name item rest).map ((field, held) :: ·)

/-- The fields of a record, in the order of `names`, as far as the document gives them. -/
def fields? (names : List String) : Node → Option (List (Option Node))
  | .object members => do
    let filled ← members.foldlM (fun held (key, item) => do fill? (← Quoted.decode? key) item held)
      (names.map fun name => (name, none))
    some (filled.map (·.2))
  | .array items =>
    if items.length ≤ names.length then
      some (items.map some ++ List.replicate (names.length - items.length) none)
    else none
  | _ => none

/-- A field that must be given. -/
def required {α : Type} (read : Node → Option α) (field : Option Node) : Option α := field.bind read

/-- A field that has a value of its own when it is not given. -/
def defaulting {α : Type} (read : Node → Option α) (otherwise : α) : Option Node → Option α
  | none => some otherwise
  | some n => read n

end Countersign.Json.Node
