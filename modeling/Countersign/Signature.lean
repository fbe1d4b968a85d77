import Countersign.Base64
import Countersign.Hash.Hmac
import Countersign.Http.Headers
import Countersign.Http.Method
import Countersign.Time.Rfc3339

/-!
Signatures of requests.

A signature is an HMAC, under a shared secret, over nonce, instant, method, target and a body hash; the body
hash is an HMAC of the body under the nonce. Both travel with nonce and instant as headers. `Stamp.read`
reads them and checks all that needs no secret.
-/

namespace Countersign

open Http (Headers Method)

/-- A request as far as its signature covers it. -/
structure SignedRequest where
  method : Method
  /-- Path and query. -/
  target : String
  headers : Headers
  body : Bytes

/-- Why a signed request is refused. -/
inductive SignatureError where
  | missingHeader (name : String)
  | nonceTooShort
  | invalidTimestamp
  | timestampOutOfRange
  | bodyHashMismatch
  | replay
  | signatureMismatch
  | emptySecret
deriving DecidableEq

namespace SignatureError

def message : SignatureError → String
  | .missingHeader name => "missing " ++ name ++ " header"
  | .nonceTooShort => "nonce shorter than 20 characters"
  | .invalidTimestamp => "timestamp is not RFC3339"
  | .timestampOutOfRange => "timestamp outside the accepted window"
  | .bodyHashMismatch => "body hash does not match request body"
  | .replay => "nonce already used"
  | .signatureMismatch => "signature does not match"
  | .emptySecret => "shared secret is empty"

end SignatureError

namespace Signature

def signatureHeader : String := "x-req-signature"
def nonceHeader : String := "x-req-nonce"
def timestampHeader : String := "x-req-timestamp"
def bodyHashHeader : String := "x-body-hash"

/-- The least length of a nonce. -/
def minNonceLength : Nat := 20

/-- How far instant and clock may be apart, in nanoseconds. -/
def maxSkew : Int := 60 * Instant.second

/-- The digest of a body, keyed with the nonce. -/
def bodyHash (nonce : String) (body : Bytes) : String :=
  Base64.encode .standard (Hash.hmac (Bytes.ofText nonce) body)

/-- What the signature is computed over. -/
def canonicalText (nonce timestamp : String) (method : Method) (target bodyHash : String) :
    String :=
  ";".intercalate [nonce, timestamp, method.token, target, bodyHash]

/-- The signature of a request with these parts. -/
def ofParts (secret : Bytes) (nonce timestamp : String) (method : Method)
    (target bodyHash : String) : String :=
  Base64.encode .standard
    (Hash.hmac secret (Bytes.ofText (canonicalText nonce timestamp method target bodyHash)))

end Signature

/-- The four values that sign a request. -/
structure RequestSignature where
  nonce : String
  timestamp : String
  bodyHash : String
  signature : String
deriving DecidableEq

namespace RequestSignature

open Signature

/-- Signs a request with a given nonce and the text of an instant. -/
def sign (method : Method) (target : String) (body secret : Bytes) (nonce timestamp : String) :
    RequestSignature :=
  let hash := Signature.bodyHash nonce body
  ⟨nonce, timestamp, hash, ofParts secret nonce timestamp method target hash⟩

/-- Signs a request at an instant, which is written in whole seconds. -/
def signAt (method : Method) (target : String) (body secret : Bytes) (nonce : String)
    (now : Instant) : RequestSignature :=
  sign method target body secret nonce (Time.Rfc3339.write now)

/-- The headers that carry the values. -/
def headers (s : RequestSignature) : Headers :=
  [.ofText nonceHeader s.nonce, .ofText timestampHeader s.timestamp,
    .ofText bodyHashHeader s.bodyHash, .ofText signatureHeader s.signature]

end RequestSignature

/-- What the headers of a request say about its signing. -/
structure Stamp where
  signature : String
  nonce : String
  timestamp : String
deriving DecidableEq

namespace Stamp

open Signature

/-- A header that must be there, readable and not empty. -/
def header (headers : Headers) (name : String) : Except SignatureError String :=
  match headers.text? name with
  | some value => if value.isEmpty then .error (.missingHeader name) else .ok value
  | none => .error (.missingHeader name)

/-- Whether an instant is close enough to the clock. -/
def inWindow (now sent : Instant) : Bool :=
  let skew := now.since sent
  skew ≤ maxSkew && -maxSkew ≤ skew

/-- Reads the stamp of a request that arrives now. -/
def read (headers : Headers) (now : Instant) : Except SignatureError Stamp := do
  let signature ← header headers signatureHeader
  let nonce ← header headers nonceHeader
  if nonce.length < minNonceLength then throw .nonceTooShort
  let timestamp ← header headers timestampHeader
  match Time.Rfc3339.read? timestamp with
  | none => throw .invalidTimestamp
  | some sent =>
    if inWindow now sent then return ⟨signature, nonce, timestamp⟩ else throw .timestampOutOfRange

/-- Whether the body is the one that the sender has hashed. -/
def coversBody (stamp : Stamp) (request : SignedRequest) : Bool :=
  (request.headers.text? bodyHashHeader).getD "" == Signature.bodyHash stamp.nonce request.body

/-- Whether the signature is the one of the request under a secret. -/
def signs (stamp : Stamp) (request : SignedRequest) (secret : Bytes) : Bool :=
  stamp.signature ==
    ofParts secret stamp.nonce stamp.timestamp request.method request.target
      (Signature.bodyHash stamp.nonce request.body)

end Stamp

end Countersign
