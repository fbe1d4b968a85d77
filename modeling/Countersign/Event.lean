import Countersign.Failure
import Countersign.KeyExchange
import Countersign.Password

/-!
The events that the log tells of.
-/

namespace Countersign

open Http (Method)

inductive Level where
  | info
  | warn
  | error
deriving DecidableEq

/-- What a field of an event holds. -/
inductive FieldValue where
  | text (s : String)
  | number (n : Int)
deriving DecidableEq

inductive Event where
  | signatureRejected (method : Method) (target : String) (reason : SignatureError)
  | nonceReplayed (method : Method) (target : String) (nonce : Option String)
  | noEntryForResource (user : Int64) (resource : String) (action : Action)
  | actionNotGranted (user : Int64) (resource : String) (action : Action)
  | changeWithoutSecret (user : Int64) (method : Method)
  | methodWithoutAction (user : Int64) (resource : String) (method : Method)
  | unknownSubject (subject : String)
  | subjectNotEmail (user : Int64)
  | refreshTokenNotStored (user : Int64)
  | sessionRejected (method : Method) (target : String) (error : AuthError)
  | authSystemError (detail : String)
  | storeUnavailable (detail : String)
  | bodyNotJson (target : String)
  | noBody (target : String)
  | bodyTooLarge (method : Method) (target : String)
  | publicKeyRejected (error : KeyExchangeError)
  | wrongPassword (user : Int64)
  | unusablePasswordHash (user : Int64) (error : PasswordError)
  | loggedIn (user : Int64)
  | refreshNotBySubject (user : Int64)
  | refreshWithoutSecret (user : Int64)
  | refreshed (user : Int64)
  | logoutNotBySubject (user : Int64)
  | loggedOut (user : Int64)
  | lookupNotBySubject (user : Int64)
  | renamed (user byUser : Int64)
  | request (method : Method) (target : String) (status : Nat) (body : String)
  | invalidLifetime (name value : String) (default : Int)
  | invalidPort (value : String) (default : Nat)
  | incompleteSeed
deriving DecidableEq

namespace Event

def level : Event → Level
  | .loggedIn _ => .info
  | .refreshed _ => .info
  | .loggedOut _ => .info
  | .renamed _ _ => .info
  | .request _ _ _ _ => .info
  | .authSystemError _ => .error
  | .storeUnavailable _ => .error
  | _ => .warn

def message : Event → String
  | .signatureRejected _ _ _ => "signed request rejected"
  | .nonceReplayed _ _ _ => "nonce replay detected"
  | .noEntryForResource _ _ _ => "missing privilege for resource"
  | .actionNotGranted _ _ _ => "missing privilege for action"
  | .changeWithoutSecret _ _ => "mutation without an established shared secret"
  | .methodWithoutAction _ _ _ => "method maps to no privilege action"
  | .unknownSubject _ => "token subject does not resolve to a user"
  | .subjectNotEmail _ => "token subject does not match current email"
  | .refreshTokenNotStored _ => "refresh token does not match stored value"
  | .sessionRejected _ _ _ => "session rejected"
  | .authSystemError _ => "authentication system error"
  | .storeUnavailable _ => "user store unavailable"
  | .bodyNotJson _ => "request body is not valid JSON"
  | .noBody _ => "no buffered body in request extensions"
  | .bodyTooLarge _ _ => "request body rejected"
  | .publicKeyRejected _ => "client public key rejected"
  | .wrongPassword _ => "login with wrong password"
  | .unusablePasswordHash _ _ => "stored password hash is unusable"
  | .loggedIn _ => "login succeeded"
  | .refreshNotBySubject _ => "refresh email does not match token subject"
  | .refreshWithoutSecret _ => "refresh without an established shared secret"
  | .refreshed _ => "session refreshed"
  | .logoutNotBySubject _ => "logout email does not match token subject"
  | .loggedOut _ => "logged out"
  | .lookupNotBySubject _ => "lookup email does not match token subject"
  | .renamed _ _ => "user renamed"
  | .request _ _ _ _ => "http request"
  | .invalidLifetime _ _ _ => "invalid token lifetime, using default"
  | .invalidPort _ _ => "invalid PORT, using default"
  | .incompleteSeed => "SEED_ADMIN_EMAIL and SEED_ADMIN_PASSWORD must both be set, skipping seed"

def userField (id : Int64) : String × FieldValue := ("user_id", .number id.toInt)

def methodField (m : Method) : String × FieldValue := ("method", .text m.token)

def uriField (target : String) : String × FieldValue := ("uri", .text target)

def fields : Event → List (String × FieldValue)
  | .signatureRejected m target reason =>
    [methodField m, uriField target, ("reason", .text reason.message)]
  | .nonceReplayed m target nonce =>
    [methodField m, uriField target] ++ (nonce.map fun n => ("nonce", FieldValue.text n)).toList
  | .noEntryForResource id resource action =>
    [userField id, ("resource", .text resource), ("action", .text action.name)]
  | .actionNotGranted id resource action =>
    [userField id, ("resource", .text resource), ("action", .text action.name)]
  | .changeWithoutSecret id m => [userField id, methodField m]
  | .methodWithoutAction id resource m => [userField id, ("resource", .text resource), methodField m]
  | .unknownSubject subject => [("subject", .text subject)]
  | .sessionRejected m target e => [methodField m, uriField target, ("error", .text e.message)]
  | .authSystemError detail => [("error", .text detail)]
  | .storeUnavailable detail => [("error", .text detail)]
  | .bodyNotJson target => [uriField target]
  | .noBody target => [uriField target]
  | .bodyTooLarge m target =>
    [methodField m, uriField target, ("error", .text "length limit exceeded")]
  | .publicKeyRejected e => [("error", .text e.message)]
  | .unusablePasswordHash id e => [userField id, ("error", .text e.message)]
  | .renamed id byUser => [userField id, ("by", .number byUser.toInt)]
  | .request m target status body =>
    [methodField m, uriField target, ("status", .number status), ("body", .text body)]
  | .invalidLifetime name value default =>
    [("variable", .text name), ("value", .text value), ("default", .number default)]
  | .invalidPort value default => [("value", .text value), ("default", .number default)]
  | .incompleteSeed => []
  | .subjectNotEmail id => [userField id]
  | .refreshTokenNotStored id => [userField id]
  | .wrongPassword id => [userField id]
  | .loggedIn id => [userField id]
  | .refreshNotBySubject id => [userField id]
  | .refreshWithoutSecret id => [userField id]
  | .refreshed id => [userField id]
  | .logoutNotBySubject id => [userField id]
  | .loggedOut id => [userField id]
  | .lookupNotBySubject id => [userField id]

/-- What the log tells of a failure of authentication that is answered. -/
def ofAuthError : AuthError → List Event
  | .systemError detail => [.authSystemError detail]
  | _ => []

/-- What the log tells of a store's failure that is answered. -/
def ofStoreError : StoreError → List Event
  | .unavailable detail => [.storeUnavailable detail]
  | _ => []

end Event

end Countersign
