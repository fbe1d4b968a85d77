import Countersign.Catalog
import Countersign.Json.Node
import Countersign.Json.Number
import Countersign.Json.Quoted

/-!
JSON values, their reading and their text.

A document has a value if its strings are texts, its numbers are in range and its nesting is not deeper
than `maxDepth`. The members of an object that is read stand in the order of their keys, and of members
with one key the last counts. Writing leaves out all blanks and keeps the order of the members.
-/

namespace Countersign.Json

inductive Value where
  | null
  | bool (b : Bool)
  | number (n : Number)
  | string (s : String)
  | array (items : List Value)
  | object (members : List (String × Value))
deriving Inhabited

namespace Value

/-- How deep arrays and objects may nest. -/
def maxDepth : Nat := 127

/-- Members in the order of their keys; of those with one key the last remains. -/
def sorted (members : List (String × Value)) : List (String × Value) :=
  (members.mergeSort fun a b => !KeyOrder.before b.1 a.1).foldr (fun m rest =>
    match rest with
    | [] => [m]
    | next :: _ => if m.1 = next.1 then rest else m :: rest) []

/-! ### Reading -/

mutual

/-- The value of a document that may nest so deep. -/
def ofNode? (depth : Nat) : Node → Option Value
  | .null => some .null
  | .bool b => some (.bool b)
  | .number n => n.value?.map .number
  | .string raw => (Quoted.decode? raw).map .string
  | .array items => if depth = 0 then none else (itemsOf? (depth - 1) [] items).map .array
  | .object members =>
    if depth = 0 then none
    else (membersOf? (depth - 1) [] members).map fun members => .object (sorted members)

/-- The values of items, behind those in `values`, which stand in reverse. -/
def itemsOf? (depth : Nat) (values : List Value) : List Node → Option (List Value)
  | [] => some values.reverse
  | item :: items =>
    match ofNode? depth item with
    | none => none
    | some value => itemsOf? depth (value :: values) items

/-- The keys and values of members, behind those in `values`, which stand in reverse. -/
def membersOf? (depth : Nat) (values : List (String × Value)) :
    List (Bytes × Node) → Option (List (String × Value))
  | [] => some values.reverse
  | (key, item) :: members =>
    match Quoted.decode? key, ofNode? depth item with
    | some key, some value => membersOf? depth ((key, value) :: values) members
    | _, _ => none

end

/-- Reads a value. -/
def read? (text : Bytes) : Option Value := (Node.read? text).bind (ofNode? maxDepth)

/-! ### Writing -/

mutual

/-- Writes a value behind what is written already. -/
def writeOnto (out : String) : Value → String
  | .null => out ++ "null"
  | .bool b => out ++ if b then "true" else "false"
  | .number n => out ++ n.write
  | .string s => Quoted.writeOnto out s
  | .array items => (writeItems (out.push '[') true items).push ']'
  | .object members => (writeMembers (out.push '\x7b') true members).push '\x7d'

/-- Writes items with commas between them. -/
def writeItems (out : String) (first : Bool) : List Value → String
  | [] => out
  | item :: items => writeItems (writeOnto (if first then out else out.push ',') item) false items

/-- Writes members with commas between them. -/
def writeMembers (out : String) (first : Bool) : List (String × Value) → String
  | [] => out
  | (key, item) :: members =>
    let out := (Quoted.writeOnto (if first then out else out.push ',') key).push ':'
    writeMembers (writeOnto out item) false members

end

/-- The text of a value. -/
def write (v : Value) : String := writeOnto "" v

/-- The value of a text that may be absent. -/
def ofOption : Option String → Value
  | none => .null
  | some s => .string s

def int (i : Int) : Value := .number (.integer i)

end Value

end Countersign.Json
