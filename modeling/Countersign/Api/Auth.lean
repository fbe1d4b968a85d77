import Countersign.Service
import Countersign.Wire.Session

/-!
The endpoints of sessions: login, refresh, logout, and the question who is logged in.

A login agrees on a shared secret and keeps it, with a refresh token, in the user's record; a refresh
replaces the refresh token, a logout removes both.
-/

namespace Countersign.Service

open Http (Response)
open Session (Attempt)

/-- Whether a candidate is the user's password; if not, the log says why. A check without an answer is a
failure of the system. -/
def checkPassword (user : User) (candidate : String) : Attempt Unit :=
  match Password.verify candidate user.passwordHash with
  | some (.ok true) => return ()
  | some (.ok false) => Session.failWith (.wrongPassword user.id) .invalidCredentials
  | some (.error e) => Session.failWith (.unusablePasswordHash user.id e) .invalidCredentials
  | none => throw (.systemError "password check task failed")

/-- The secret shared with the holder of a key. -/
def agree (s : Service) (peer : String) : Attempt SharedSecret :=
  match s.keys.derive peer with
  | .ok secret => return secret
  | .error e => Session.failWith (.publicKeyRejected e) (.malformedRequest e.message)

/-- The record of an email, as a login looks it up. -/
def userByEmail (email : String) : Attempt User := do
  match ← Program.store (.findByEmail email) with
  | .ok user => return user
  | .error e => throw (AuthError.ofStore e).asCredentials

/-- A signed login. -/
def login (s : Service) (request : SignedRequest) (now : Instant) : Attempt Response := do
  let body ← readBody request LoginRequest.ofNode?
  if body.email.isEmpty then throw (.malformedRequest "email is required")
  if body.publicKey.isEmpty then throw (.malformedRequest "public_key is required")
  let secret ← s.agree body.publicKey
  checking request (some secret.bytes) now
  let user ← userByEmail body.email
  checkPassword user body.password
  let pair ← s.issuing user.email now
  let saved ← saving
    { user with refreshToken := some pair.refreshToken, sharedSecret := some secret.toText }
    [.refreshToken, .sharedSecret]
  Program.log (.loggedIn saved.id)
  return .json 200 (LoginReply.toValue {
    publicKey := s.keys.publicKey.toText
    email := saved.email
    token := pair.token
    refreshToken := pair.refreshToken
    user := saved.profile })

/-- The server's public key for a request without a signature, else a login. -/
def loginOrKey (s : Service) (request : SignedRequest) (now : Instant) : Attempt Response :=
  match request.headers.first? Signature.signatureHeader with
  | none => return .json 200 (PublicKeyReply.toValue ⟨s.keys.publicKey.toText⟩)
  | some _ => s.login request now

/-- A refresh: the presented refresh token is spent, and a new pair given out. -/
def refresh (s : Service) (request : SignedRequest) (now : Instant) : Attempt Response := do
  checking request none now
  let body ← readBody request RefreshRequest.ofNode?
  let user ← masking AuthError.asCredentials
    (Session.resolve s.tokens body.refreshToken .refresh now)
  if user.email ≠ body.email then
    Session.failWith (.refreshNotBySubject user.id) .invalidCredentials
  let secret ← match user.sharedSecret.bind SharedSecret.ofText? with
    | some secret => pure secret
    | none => Session.failWith (.refreshWithoutSecret user.id) .invalidCredentials
  checking request (some secret.bytes) now
  let pair ← s.issuing user.email now
  let saved ← saving { user with refreshToken := some pair.refreshToken } [.refreshToken]
  Program.log (.refreshed saved.id)
  return .json 200 (RefreshReply.toValue ⟨pair.token, pair.refreshToken, saved.profile⟩)

/-- The token by which a logout names its session: the session token comes before the refresh token. -/
def logoutToken (body : LogoutRequest) : Option (String × Session.TokenKind) :=
  match body.token.filter (!·.isEmpty), body.refreshToken.filter (!·.isEmpty) with
  | some token, _ => some (token, .session)
  | none, some token => some (token, .refresh)
  | none, none => none

/-- A logout: refresh token and shared secret are removed. -/
def logout (s : Service) (request : SignedRequest) (now : Instant) : Attempt Response := do
  let body ← readBody request LogoutRequest.ofNode?
  let (token, kind) ← match logoutToken body with
    | some presented => pure presented
    | none => throw (AuthError.malformedRequest "token or refresh_token is required")
  let user ← masking AuthError.asCredentials (Session.resolve s.tokens token kind now)
  if ¬ body.email.isEmpty ∧ body.email ≠ user.email then
    Session.failWith (.logoutNotBySubject user.id) .invalidCredentials
  let saved ← saving { user with refreshToken := none, sharedSecret := none }
    [.refreshToken, .sharedSecret]
  Program.log (.loggedOut saved.id)
  return .json 200 (StatusReply.toValue ⟨"ok"⟩)

/-- A failure as the question for the session's user shows it. -/
def asInvalidToken : AuthError → AuthError
  | .systemError detail => .systemError detail
  | _ => .invalidToken

/-- The user of the session that the request presents, or of the token in its body. -/
def current (s : Service) (request : SignedRequest) (now : Instant) : Attempt Response := do
  match Session.presented? request.headers with
  | some token =>
    let user ← masking asInvalidToken (Session.resolve s.tokens token .session now)
    return .json 200 user.summary.toValue
  | none =>
    if request.body.isEmpty then throw .missingSession
    let body ← masking (fun _ => .invalidToken) (readBody request TokenLookup.ofNode?)
    let user ← masking asInvalidToken (Session.resolve s.tokens body.token .session now)
    if user.email ≠ body.email then
      Session.failWith (.lookupNotBySubject user.id) .invalidToken
    return .json 200 user.summary.toValue

end Countersign.Service
