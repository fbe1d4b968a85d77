import Countersign.Json.Token

/-!
JSON documents as trees of what is written: strings keep their escapes, numbers their digits, objects
the order and repetition of their members. Nesting has no limit here.

A tree is built by a machine that takes one token at a time and keeps the open arrays and objects on a
stack.
-/

namespace Countersign.Json

inductive Node where
  | null
  | bool (b : Bool)
  | number (n : Numeral)
  | string (raw : Bytes)
  | array (items : List Node)
  | object (members : List (Bytes × Node))
deriving Inhabited

namespace Node

/-- An array or object that is still open; what it holds stands in reverse. -/
inductive Frame where
  | array (items : List Node)
  /-- An object whose member of this name awaits its value. -/
  | object (members : List (Bytes × Node)) (name : Bytes)

/-- Where the machine stands, with the open frames, innermost first. -/
inductive Parsing where
  | value (stack : List Frame)
  /-- The first item of an array, or its end. -/
  | firstItem (stack : List Frame)
  /-- The first key of an object, or its end. -/
  | firstKey (stack : List Frame)
  | key (members : List (Bytes × Node)) (stack : List Frame)
  | colon (members : List (Bytes × Node)) (name : Bytes) (stack : List Frame)
  | afterItem (items : List Node) (stack : List Frame)
  | afterMember (members : List (Bytes × Node)) (stack : List Frame)
  | done (node : Node)

namespace Parsing

/-- Puts a finished value where it belongs. -/
def place (node : Node) : List Frame → Parsing
  | [] => .done node
  | .array items :: stack => .afterItem (node :: items) stack
  | .object members name :: stack => .afterMember ((name, node) :: members) stack

/-- Takes the first token of a value. -/
def begin (stack : List Frame) : Token → Option Parsing
  | .null => some (place .null stack)
  | .bool b => some (place (.bool b) stack)
  | .number n => some (place (.number n) stack)
  | .string raw => some (place (.string raw) stack)
  | .arrayStart => some (.firstItem stack)
  | .objectStart => some (.firstKey stack)
  | _ => none

/-- Takes one token. -/
def step : Parsing → Token → Option Parsing
  | .value stack, t => begin stack t
  | .firstItem stack, .arrayEnd => some (place (.array []) stack)
  | .firstItem stack, t => begin (.array [] :: stack) t
  | .firstKey stack, .objectEnd => some (place (.object []) stack)
  | .firstKey stack, .string name => some (.colon [] name stack)
  | .key members stack, .string name => some (.colon members name stack)
  | .colon members name stack, .colon => some (.value (.object members name :: stack))
  | .afterItem items stack, .comma => some (.value (.array items :: stack))
  | .afterItem items stack, .arrayEnd => some (place (.array items.reverse) stack)
  | .afterMember members stack, .comma => some (.key members stack)
  | .afterMember members stack, .objectEnd => some (place (.object members.reverse) stack)
  | _, _ => none

/-- The tree, if it is complete. -/
def finish : Parsing → Option Node
  | .done node => some node
  | _ => none

end Parsing

/-- The tree of a token sequence. -/
def ofTokens? (tokens : List Token) : Option Node :=
  (tokens.foldl (fun s t => s.bind fun s => s.step t) (some (.value []))).bind Parsing.finish

/-- Reads a document. -/
def read? (text : Bytes) : Option Node := (Token.scan? text).bind ofTokens?

end Node

end Countersign.Json
