import Countersign.Http.Request
import Countersign.Http.Response
import Countersign.Json.Record
import Countersign.Session
import Countersign.Verify

/-!
The service, and what its endpoints have in common: reading bodies, and answering failures.

An endpoint is a program that may fail with an authentication error (`Session.Attempt`) or with an error of
the interface (`Task`). `answerAttempt` and `answerTask` turn failures into responses; the log tells of
system errors when they are answered.
-/

namespace Countersign

open Http (Headers Method Request Response Target)
open Json (Node)
open Session (Attempt)

/-- What the endpoints share, the state apart. -/
structure Service where
  tokens : TokenService
  keys : KeyPair
  /-- Whether the pages of the documentation are served. -/
  docs : Bool := false

/-- A step that may fail with an error of the interface. -/
abbrev Task := ExceptT ApiError Program

namespace Service

/-- The request as its signature covers it; without a body that was kept for it the body is empty. -/
def signedRequest (method : Method) (target : Target) (headers : Headers) (body : Option Bytes) :
    Program SignedRequest :=
  match body with
  | some body => return ⟨method, target.signedText, headers, body⟩
  | none => do
    Program.log (.noBody target.signedText)
    return ⟨method, target.signedText, headers, []⟩

/-- The principal of a request that needs one. -/
def requirePrincipal : Option Principal → Except AuthError Principal
  | some p => .ok p
  | none => .error .missingSession

/-- Reads the body of a request as JSON. -/
def readBody {α : Type} (request : SignedRequest) (read : Node → Option α) : Attempt α :=
  match (Node.read? request.body).bind read with
  | some a => return a
  | none =>
    Session.failWith (.bodyNotJson request.target)
      (.malformedRequest "request body is not valid JSON")

/-! ### Failures -/

/-- Runs an attempt; its failure is answered. -/
def answerAttempt (attempt : Attempt Response) : Program Response := do
  match ← attempt.run with
  | .ok r => return r
  | .error e =>
    Program.logAll (Event.ofAuthError e)
    return e.response

/-- Runs a task; its failure is answered. -/
def answerTask (task : Task Response) : Program Response := do
  match ← task.run with
  | .ok r => return r
  | .error e => return e.response

/-- An attempt as part of a task. -/
def attempting {α : Type} (attempt : Attempt α) : Task α := do
  match ← attempt.run with
  | .ok a => return a
  | .error e =>
    Program.logAll (Event.ofAuthError e)
    throw (.ofAuth e)

/-- A store's answer as part of a task. -/
def asking (call : StoreCall) : Task User := do
  match ← Program.store call with
  | .ok u => return u
  | .error e =>
    Program.logAll (Event.ofStoreError e)
    throw (.ofStore e)

/-- An attempt whose failures are shown as others. -/
def masking {α : Type} (mask : AuthError → AuthError) (attempt : Attempt α) : Attempt α :=
  ExceptT.adapt mask attempt

/-- A signed request's check as part of an attempt. -/
def checking (request : SignedRequest) (secret : Option Bytes) (now : Instant) : Attempt Unit := do
  match ← Signature.check request secret now with
  | .ok _ => return ()
  | .error e => throw (.ofSignature e)

/-- A new pair of tokens as part of an attempt. -/
def issuing (s : Service) (subject : String) (now : Instant) : Attempt TokenPair :=
  ExceptT.lift (Program.ofOption (s.tokens.issuePair subject now))

/-- A write to the store as part of an attempt. -/
def saving (user : User) (fields : List UserField) : Attempt User := do
  match ← Program.store (.update user fields) with
  | .ok u => return u
  | .error e => throw (.ofStore e)

end Service

end Countersign
