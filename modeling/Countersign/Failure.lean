import Countersign.Signature
import Countersign.Store
import Countersign.Token

/-!
What goes wrong with a request, and what its sender is told.

Failures of authentication are worded alike, so that a caller learns neither which check has failed nor
whether a user exists. The details of a system error are for the log only.
-/

namespace Countersign

/-- Why the gate refuses a request. -/
inductive Denial where
  | missingPrivilege
  /-- A change was asked for without a shared secret. -/
  | noSharedSecret
  | signature (e : SignatureError)
deriving DecidableEq

/-- Failures of authentication. -/
inductive AuthError where
  | malformedRequest (detail : String)
  | replayDetected
  | signatureMismatch
  | invalidCredentials
  | invalidToken
  | missingSession
  | missingPrivilege
  | systemError (detail : String)
deriving DecidableEq

namespace AuthError

/-- The name of a failure in answers. -/
def code : AuthError → String
  | .malformedRequest _ => "malformed_request"
  | .replayDetected => "replay_detected"
  | .signatureMismatch => "signature_mismatch"
  | .invalidCredentials => "invalid_credentials"
  | .invalidToken => "invalid_token"
  | .missingSession => "missing_session"
  | .missingPrivilege => "missing_privilege"
  | .systemError _ => "system_error"

/-- The status of an answer. -/
def status : AuthError → Nat
  | .malformedRequest _ => 400
  | .replayDetected => 400
  | .signatureMismatch => 400
  | .invalidCredentials => 400
  | .invalidToken => 401
  | .missingSession => 401
  | .missingPrivilege => 403
  | .systemError _ => 500

/-- The full wording, for the log. -/
def message : AuthError → String
  | .malformedRequest detail => "Malformed request: " ++ detail
  | .replayDetected => "Request was already processed"
  | .signatureMismatch => "Request signature is invalid"
  | .invalidCredentials => "Invalid credentials"
  | .invalidToken => "Session token is invalid"
  | .missingSession => "A session is required"
  | .missingPrivilege => "Insufficient privileges for this operation"
  | .systemError detail => "Internal authentication error: " ++ detail

/-- The wording in answers. -/
def publicMessage : AuthError → String
  | .systemError _ => "Internal authentication error"
  | e => e.message

/-- The failure as a login shows it: all but system errors look like wrong credentials. -/
def asCredentials : AuthError → AuthError
  | .systemError detail => .systemError detail
  | _ => .invalidCredentials

def ofSignature : SignatureError → AuthError
  | .replay => .replayDetected
  | .bodyHashMismatch => .signatureMismatch
  | .signatureMismatch => .signatureMismatch
  | .emptySecret => .signatureMismatch
  | e => .malformedRequest e.message

def ofToken : TokenError → AuthError
  | .missingSecret => .systemError TokenError.missingSecret.message
  | .encoding detail => .systemError (TokenError.encoding detail).message
  | _ => .invalidToken

def ofStore : StoreError → AuthError
  | .notFound => .invalidCredentials
  | .versionConflict => .malformedRequest StoreError.versionConflict.message
  | .unavailable detail => .systemError (StoreError.unavailable detail).message

def ofDenial : Denial → AuthError
  | .missingPrivilege => .missingPrivilege
  | .noSharedSecret => .signatureMismatch
  | .signature e => ofSignature e

end AuthError

/-- The failure of a request that was understood. -/
structure ApiError where
  status : Nat
  message : String
deriving DecidableEq

namespace ApiError

def badRequest (message : String) : ApiError := ⟨400, message⟩
def notFound (message : String) : ApiError := ⟨404, message⟩
def conflict (message : String) : ApiError := ⟨409, message⟩
def bodyTooLarge : ApiError := ⟨413, "Request body too large"⟩
def unprocessable (message : String) : ApiError := ⟨422, message⟩
def internal (message : String) : ApiError := ⟨500, message⟩

def ofStore : StoreError → ApiError
  | .notFound => notFound "User not found"
  | .versionConflict => conflict "User was modified concurrently, retry with fresh data"
  | .unavailable _ => internal "Internal server error"

def ofAuth : AuthError → ApiError
  | .systemError _ => internal "Internal server error"
  | e => ⟨e.status, e.message⟩

end ApiError

end Countersign
