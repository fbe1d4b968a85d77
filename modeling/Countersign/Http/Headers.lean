import Countersign.Bytes

/-!
Header lists. Names are kept in lower case, values as they came; a value is readable as text only if
all of it is visible ASCII, blanks or tabs.
-/

namespace Countersign.Http

structure Header where
  name : String
  value : Bytes
deriving DecidableEq

namespace Header

/-- A header whose name may be written in either case. -/
def new (name : String) (value : Bytes) : Header := ⟨name.toLower, value⟩

/-- A header with a text for its value. -/
def ofText (name value : String) : Header := ⟨name, Bytes.ofText value⟩

/-- Octets that a readable value may hold. -/
def isReadable (b : UInt8) : Bool := (32 ≤ b && b < 127) || b == 9

/-- The value as a text. -/
def text? (h : Header) : Option String :=
  if h.value.all isReadable then some (String.ofList (h.value.map fun b => Char.ofNat b.toNat))
  else none

end Header

/-- Headers in the order of the message. -/
abbrev Headers := List Header

namespace Headers

/-- The first header of a name. -/
def first? (headers : Headers) (name : String) : Option Header :=
  headers.find? fun h => h.name == name

/-- The first value of a name, if it is readable. -/
def text? (headers : Headers) (name : String) : Option String :=
  (headers.first? name).bind Header.text?

/-- The readable values of a name, in order. -/
def texts (headers : Headers) (name : String) : List String :=
  (headers.filter fun h => h.name == name).filterMap Header.text?

end Headers

end Countersign.Http
