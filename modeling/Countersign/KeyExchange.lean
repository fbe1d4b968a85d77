import Countersign.Base64
import Countersign.P256
import Countersign.Text.Split

/-!
Agreement on a shared secret: each side multiplies the other's public point by its own scalar, and the
first coordinate of the product is the secret.

A public key travels as its two coordinates, each 32 octets in the url-safe alphabet, with a comma
between them. `PublicKey.ofText?` accepts these texts only.
-/

namespace Countersign

open P256 (Coordinate OnCurve Point)

/-- Why no secret could be agreed on. -/
inductive KeyExchangeError where
  | missingComma
  | notBase64
  | wrongLength
  | offCurve
  /-- The product of scalar and point has the first coordinate zero. -/
  | degenerate
deriving DecidableEq

namespace KeyExchangeError

def message : KeyExchangeError → String
  | .missingComma => "invalid public key format: expected two comma-separated coordinates"
  | .notBase64 => "invalid public key format: coordinate is not base64url"
  | .wrongLength => "invalid public key format: coordinate must be 32 bytes"
  | .offCurve => "invalid public key format: point is not on the curve"
  | .degenerate => "key exchange failed: degenerate shared secret"

end KeyExchangeError

/-- The octets by which a user's requests are signed. -/
structure SharedSecret where
  bytes : Bytes
deriving DecidableEq

namespace SharedSecret

/-- The text in which a secret is kept with its user. -/
def toText (s : SharedSecret) : String := Base64.encode .standard s.bytes

/-- Reads a kept secret; an empty one is none. -/
def ofText? (s : String) : Option SharedSecret :=
  if s.isEmpty then none else (Base64.decode? .standard s).map (⟨·⟩)

/-- What a debugging dump shows of a secret. -/
def shown (_ : SharedSecret) : String := "SharedSecret(**********)"

end SharedSecret

/-- The 32 octets of a coordinate. -/
def P256.Coordinate.toBytes (x : Coordinate) : Bytes := Bytes.ofNat 32 x.val

/-- A point of the curve other than the one at infinity. -/
structure PublicKey where
  x : Coordinate
  y : Coordinate
  onCurve : OnCurve x y
deriving DecidableEq

namespace PublicKey

def point (k : PublicKey) : Point := .affine k.x k.y

/-- The point as a key; the one at infinity is none. -/
def ofPoint? : Point → Option PublicKey
  | .infinity => none
  | .affine x y => if onCurve : OnCurve x y then some ⟨x, y, onCurve⟩ else none

/-- The text in which a key travels. -/
def toText (k : PublicKey) : String :=
  Base64.encode .urlSafe (P256.Coordinate.toBytes k.x) ++ "," ++
    Base64.encode .urlSafe (P256.Coordinate.toBytes k.y)

/-- The number that a coordinate's text writes in 32 octets. -/
def coordinate (s : List Char) : Except KeyExchangeError Nat :=
  match Base64.decode? .urlSafe (String.ofList s) with
  | none => .error .notBase64
  | some b => if b.length = 32 then .ok b.toNat else .error .wrongLength

/-- Reads a travelling key. -/
def ofText (s : String) : Except KeyExchangeError PublicKey :=
  match Text.cut? ',' s.toList with
  | none => .error .missingComma
  | some (first, second) => do
    let x ← coordinate first
    let y ← coordinate second
    if small : x < P256.prime ∧ y < P256.prime then
      match ofPoint? (.affine ⟨x, small.1⟩ ⟨y, small.2⟩) with
      | some k => .ok k
      | none => .error .offCurve
    else .error .offCurve

end PublicKey

/-- A scalar with its multiple of the base point. -/
structure KeyPair where
  scalar : Nat
  publicKey : PublicKey
  scalar_lt : scalar < P256.order
  agrees : Point.multiple scalar .base = publicKey.point

namespace KeyPair

/-- The pair of a scalar, which must lie in 1 to `order - 1`. -/
def ofScalar? (scalar : Nat) : Option KeyPair :=
  if scalar_lt : scalar < P256.order then
    match h : Point.multiple scalar .base with
    | .infinity => none
    | .affine x y =>
      if onCurve : OnCurve x y then some ⟨scalar, ⟨x, y, onCurve⟩, scalar_lt, h⟩ else none
  else none

/-- The first coordinate of a point; that of infinity is zero. -/
def firstCoordinate : Point → Coordinate
  | .infinity => 0
  | .affine x _ => x

/-- The secret shared with the holder of a key. -/
def secretWith (pair : KeyPair) (peer : PublicKey) : Except KeyExchangeError SharedSecret :=
  let x := firstCoordinate (Point.multiple pair.scalar peer.point)
  if x = 0 then .error .degenerate else .ok ⟨P256.Coordinate.toBytes x⟩

/-- The secret shared with the holder of the key that a text carries. -/
def derive (pair : KeyPair) (peer : String) : Except KeyExchangeError SharedSecret := do
  pair.secretWith (← PublicKey.ofText peer)

end KeyPair

end Countersign
