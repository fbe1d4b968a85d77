import Countersign.Json.Record
import Countersign.Json.Value

/-!
JSON web keys. No key is ever used, but a token whose header holds a broken one is broken itself.

A key is an object with members of its kind and some that all kinds share. A kind takes no notice of what it
does not know, so that may stand there in any form and any number of times.
-/

namespace Countersign.WebKey

open Json (Node Value)

/-- Names of members, each with what it may hold. -/
abbrev Members := List (String × (Node → Bool))

/-- Whether none of these members stands twice in an object, and they hold what they may. Where one is
missing, `absent` tells if it can be done without. -/
def fits (absent : Bool) (members : Members) (key : Node) : Bool :=
  match key.fields? (members.map (·.1)) with
  | some fields =>
    (members.zip fields).all fun (member, field) =>
      match field with
      | none => absent
      | some item => member.2 item
  | none => false

/-- Whether a document is an algorithm, of any name, or null. In its place an empty object serves as null. -/
def holdsAlgorithm : Node → Bool
  | .null => true
  | .object [(_, .object [])] => true
  | n => n.word?.isSome

/-- What any kind of key may have. -/
def shared : Members :=
  [("use", Node.holdsText), ("key_ops", Node.holdsTexts), ("alg", holdsAlgorithm),
    ("kid", Node.holdsText), ("x5u", Node.holdsText), ("x5c", Node.holdsTexts),
    ("x5t", Node.holdsText), ("x5t#S256", Node.holdsText)]

/-- Whether a document is a text. -/
def isText (n : Node) : Bool := n.text?.isSome

/-- Whether a document is one of some words. -/
def isWord (words : List String) (n : Node) : Bool := n.word?.any words.contains

/-- The member that tells the kind of a key. -/
def kind (name : String) : String × (Node → Bool) := ("kty", isWord [name])

/-- The member that tells the curve of a key. -/
def curve : String × (Node → Bool) := ("crv", isWord ["P-256", "P-384", "P-521", "Ed25519"])

/-- What a key of each kind has: those on a curve with two coordinates and with one, RSA keys, and
secrets. -/
def kinds : List Members :=
  [[kind "EC", curve, ("x", isText), ("y", isText)],
    [kind "OKP", curve, ("x", isText)],
    [kind "RSA", ("n", isText), ("e", isText)],
    [kind "oct", ("k", isText)]]

/-- Whether a document is a key. All of it must have a value that nests no deeper than `depth`. -/
def accepts (depth : Nat) (n : Node) : Bool :=
  match n with
  | .object _ => (Value.ofNode? depth n).isSome && fits true shared n && kinds.any (fits false · n)
  | _ => false

end Countersign.WebKey
