import Countersign.Base64
import Countersign.Hash.Hmac
import Countersign.Json.Record
import Countersign.Json.Value
import Countersign.Text.Split
import Countersign.Time.Instant
import Countersign.WebKey

/-!
Session and refresh tokens: three base64url texts with dots between them, a header, claims about a subject
and the HMAC of both.

`TokenService.parse` checks in a fixed order: the three parts, header, algorithm, signature, claims
(`TokenService.read`), then, by the clock, the times, issuer, audience (`TokenService.checkClaims`).
-/

namespace Countersign

open Json (Node Value)

/-- Why a token is refused, or none is given out. -/
inductive TokenError where
  | missingSecret
  | expired
  | notYetValid
  | invalidSignature
  | invalidIssuer
  | invalidAudience
  | invalidAlgorithm
  | malformed
  | encoding (detail : String)
deriving DecidableEq

namespace TokenError

def message : TokenError → String
  | .missingSecret => "token signing secret is empty"
  | .expired => "token has expired"
  | .notYetValid => "token is not yet valid"
  | .invalidSignature => "token signature is invalid"
  | .invalidIssuer => "token issuer is invalid"
  | .invalidAudience => "token audience is invalid"
  | .invalidAlgorithm => "token algorithm is not accepted"
  | .malformed => "token is malformed"
  | .encoding detail => "token encoding failed: " ++ detail

end TokenError

/-- What a token says. Times are seconds from 1970. -/
structure Claims where
  subject : String
  issuer : String
  audience : String
  issuedAt : Int
  notBefore : Int
  expires : Int
deriving DecidableEq

namespace Claims

/-- The issuer of all tokens. -/
def theIssuer : String := "mwui"

/-- The audience of all tokens. -/
def theAudience : String := "mwui-clients"

/-- Reads claims: an object with all six. -/
def ofNode? (n : Node) : Option Claims := do
  let .object _ := n | none
  let [sub, iss, aud, iat, nbf, exp] ← n.fields? ["sub", "iss", "aud", "iat", "nbf", "exp"] | none
  let time := fun field => (Node.required Node.int64? field).map Int64.toInt
  some {
    subject := ← Node.required Node.text? sub
    issuer := ← Node.required Node.text? iss
    audience := ← Node.required Node.text? aud
    issuedAt := ← time iat
    notBefore := ← time nbf
    expires := ← time exp }

def toValue (c : Claims) : Value :=
  .object [("sub", .string c.subject), ("iss", .string c.issuer), ("aud", .string c.audience),
    ("iat", .int c.issuedAt), ("nbf", .int c.notBefore), ("exp", .int c.expires)]

end Claims

/-! ### Headers -/

namespace TokenHeader

/-- The algorithms that a header may name. -/
def algorithms : List String :=
  ["HS256", "HS384", "HS512", "ES256", "ES384", "RS256", "RS384", "RS512", "PS256", "PS384",
    "PS512", "EdDSA"]

/-- The algorithm of all tokens. -/
def algorithm : String := "HS256"

/-- The header of all tokens. -/
def text : String := (Value.object [("typ", .string "JWT"), ("alg", .string algorithm)]).write

/-- The algorithm that a header names. -/
def algorithmOf? (n : Node) : Option String :=
  n.word?.bind fun name => algorithms.find? (· == name)

/-- Whether a document is a key, or null; a header is the first level of its nesting. -/
def holdsKey (n : Node) : Bool := n matches .null || WebKey.accepts (Value.maxDepth - 1) n

/-- Members of a header that are known, the algorithm apart, and what they may hold. -/
def knownMembers : List (String × (Node → Bool)) :=
  [("typ", Node.holdsText), ("cty", Node.holdsText), ("jku", Node.holdsText), ("jwk", holdsKey),
    ("kid", Node.holdsText), ("x5u", Node.holdsText), ("x5c", Node.holdsTexts),
    ("x5t", Node.holdsText), ("x5t#S256", Node.holdsText), ("crit", Node.holdsTexts),
    ("enc", Node.holdsText), ("zip", Node.holdsText), ("url", Node.holdsText),
    ("nonce", Node.holdsText)]

/-- Reads a header, and gives the algorithm it names. No known member may stand twice, and unknown ones
hold texts. -/
def read? : Node → Option String
  | .object members => do
    let members : List (String × Node) ←
      members.mapM fun (key, item) => (Json.Quoted.decode? key).map fun key => (key, item)
    let known : List String := (members.map Prod.fst).filter fun key =>
      key == "alg" || (knownMembers.lookup key).isSome
    let fits := fun (m : String × Node) =>
      match knownMembers.lookup m.1 with
      | some accepts => accepts m.2
      | none => m.1 == "alg" || m.2.text?.isSome
    if known.Nodup ∧ members.all fits then
      (members.lookup "alg").bind algorithmOf?
    else none
  | _ => none

end TokenHeader

/-! ### Lifetimes -/

/-- How long a token is good. -/
structure Lifetime where
  seconds : Int
  /-- Longer times cannot be told in milliseconds of 64 bits. -/
  bounded : seconds.natAbs ≤ 9223372036854775
deriving DecidableEq

namespace Lifetime

def ofSeconds? (seconds : Int) : Option Lifetime :=
  if bounded : seconds.natAbs ≤ 9223372036854775 then some ⟨seconds, bounded⟩ else none

def ofMinutes? (minutes : Int) : Option Lifetime := ofSeconds? (minutes * 60)

end Lifetime

/-! ### The service -/

/-- What it takes to give out and check tokens. -/
structure TokenService where
  secret : Bytes
  sessionLifetime : Lifetime
  refreshLifetime : Lifetime
  secret_ne : secret ≠ []

/-- A session token and the refresh token to go with it. -/
structure TokenPair where
  token : String
  refreshToken : String
deriving DecidableEq

namespace TokenService

/-- By how many seconds clocks may differ. -/
def leeway : Int := 30

def new (secret : Bytes) (session refresh : Lifetime) : Except TokenError TokenService :=
  if secret_ne : secret = [] then .error .missingSecret
  else .ok ⟨secret, session, refresh, secret_ne⟩

/-- The signature of a token's first two parts. -/
def sign (service : TokenService) (message : String) : String :=
  Base64.encode .urlSafe (Hash.hmac service.secret (Bytes.ofText message))

/-- The token that carries claims. -/
def encode (service : TokenService) (claims : Claims) : String :=
  let part (s : String) := Base64.encode .urlSafe (Bytes.ofText s)
  let message := part TokenHeader.text ++ "." ++ part claims.toValue.write
  message ++ "." ++ service.sign message

/-- The claims of a token given out now. -/
def claims (subject : String) (lifetime : Lifetime) (now : Instant) : Claims where
  subject := subject
  issuer := Claims.theIssuer
  audience := Claims.theAudience
  issuedAt := now.seconds
  notBefore := (now.plus (-leeway)).seconds
  expires := (now.plus lifetime.seconds).seconds

/-- A token for a subject, given out at an instant; `none` if its times leave the calendar. -/
def issueAt (service : TokenService) (subject : String) (lifetime : Lifetime) (now : Instant) :
    Option String :=
  let c := claims subject lifetime now
  if Instant.inCalendar c.notBefore ∧ Instant.inCalendar c.expires then some (service.encode c)
  else none

/-- A token for a subject, given out when the clock is read. -/
def issue (service : TokenService) (subject : String) (lifetime : Lifetime) (now : Instant) :
    Option String := do
  service.issueAt subject lifetime (← now.onClock?)

/-- A session token and a refresh token for a subject, given out when the clock is read. -/
def issuePair (service : TokenService) (subject : String) (now : Instant) : Option TokenPair := do
  let now ← now.onClock?
  some ⟨← service.issueAt subject service.sessionLifetime now,
    ← service.issueAt subject service.refreshLifetime now⟩

/-- Reads one part of a token as a document. -/
def readPart? (part : List Char) : Option Node :=
  (Base64.decode? .urlSafe (String.ofList part)).bind Node.read?

/-- The claims of a token that is signed, whenever it is good. -/
def read (service : TokenService) (token : String) : Except TokenError Claims :=
  match Text.parts '.' token.toList with
  | [header, payload, signature] =>
    match (readPart? header).bind TokenHeader.read? with
    | none => .error .malformed
    | some algorithm =>
      if algorithm ≠ TokenHeader.algorithm then .error .invalidAlgorithm
      else match Base64.decode? .urlSafe (String.ofList signature) with
        | none => .error .malformed
        | some mac =>
          let message := String.ofList (header ++ '.' :: payload)
          if mac ≠ Hash.hmac service.secret (Bytes.ofText message) then .error .invalidSignature
          else match (readPart? payload).bind Claims.ofNode? with
            | none => .error .malformed
            | some c => if c.expires < 0 ∨ c.notBefore < 0 then .error .malformed else .ok c
  | _ => .error .malformed

/-- Checks what claims say, at a second of the clock. -/
def checkClaims (c : Claims) (now : Int) : Except TokenError Claims :=
  if c.expires < now - leeway then .error .expired
  else if now + leeway < c.notBefore then .error .notYetValid
  else if c.issuer ≠ Claims.theIssuer then .error .invalidIssuer
  else if c.audience ≠ Claims.theAudience then .error .invalidAudience
  else .ok c

/-- The claims of a token that is good when the clock is read. Seconds are counted from 1970, so there is no
answer while the clock is not past the leeway. -/
def parse (service : TokenService) (token : String) (now : Instant) :
    Option (Except TokenError Claims) :=
  match service.read token with
  | .error e => some (.error e)
  | .ok c => if now.seconds < leeway then none else some (checkClaims c now.seconds)

end TokenService

end Countersign
