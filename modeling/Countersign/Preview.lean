import Countersign.Json.Value

/-!
What the request log shows of a body: its JSON value without secrets, cut to a bounded length.
-/

namespace Countersign

open Json (Value)

namespace Preview

/-- What stands in the log in place of a secret. -/
def marker : String := "***SECRET***"

/-- Keys whose values are secrets, in lower case. -/
def sensitiveKeys : List String := ["password", "secret", "token", "refresh_token", "apikey", "key"]

/-- Whether the value of a key is a secret; ASCII case does not matter. -/
def isSensitive (key : String) : Bool := sensitiveKeys.contains key.toLower

mutual

/-- The value with the marker in place of all secrets. -/
def redact : Value → Value
  | .array items => .array (redactItems [] items)
  | .object members => .object (redactMembers [] members)
  | v => v

/-- Redacted items, behind those in `done`, which stand in reverse. -/
def redactItems (done : List Value) : List Value → List Value
  | [] => done.reverse
  | item :: items => redactItems (redact item :: done) items

/-- Redacted members, behind those in `done`, which stand in reverse. -/
def redactMembers (done : List (String × Value)) : List (String × Value) → List (String × Value)
  | [] => done.reverse
  | (key, item) :: members =>
    redactMembers ((key, if isSensitive key then .string marker else redact item) :: done) members

end

/-- The longest beginning of whole characters that takes at most so many octets. -/
def takeOctets : Nat → List Char → List Char
  | _, [] => []
  | limit, c :: s => if c.utf8Size ≤ limit then c :: takeOctets (limit - c.utf8Size) s else []

/-- The longest text that is shown whole, in octets. -/
def limit : Nat := 8192

/-- A text as it is shown: a long one is cut and followed by dots. -/
def bounded (s : String) : String :=
  if s.utf8ByteSize ≤ limit then s else String.ofList (takeOctets limit s.toList) ++ "..."

/-- What the log shows of a body. -/
def ofBody (body : Bytes) : String :=
  if body.isEmpty then ""
  else match Value.read? body with
    | none => "<" ++ Text.ofNat body.length ++ " bytes, not JSON>"
    | some v => bounded (redact v).write

end Preview

end Countersign
