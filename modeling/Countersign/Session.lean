import Countersign.Principal
import Countersign.Program
import Countersign.Text.Blank

/-!
Sessions: which token a request presents, and whose it is.

A token belongs to the user whose email is its subject, letter for letter, whatever record the store finds
for that email. A refresh token must moreover be the one that is stored with the user.
-/

namespace Countersign.Session

open Http (Headers)

/-- The name of the cookie that may carry a session token. -/
def cookieName : String := "session"

/-- What a text has after a beginning. -/
def after? : List Char → List Char → Option (List Char)
  | [], s => some s
  | _ :: _, [] => none
  | b :: beginning, c :: s => if b = c then after? beginning s else none

/-- The token of an authorization header. -/
def bearer? (value : String) : Option String := do
  let token := Text.trim (← after? "Bearer ".toList value.toList)
  if token.isEmpty then none else some (String.ofList token)

/-- The session token of one pair among cookies. -/
def cookie? (pair : List Char) : Option String := do
  let (name, value) ← Text.cut? '=' (Text.trim pair)
  if name = cookieName.toList ∧ ¬ value.isEmpty then some (String.ofList value) else none

/-- The first session token among cookies. -/
def cookies? (headers : Headers) : Option String :=
  ((headers.texts "cookie").flatMap fun value => Text.parts ';' value.toList).findSome? cookie?

/-- The token that a request presents: that of the authorization header, else that of a cookie. -/
def presented? (headers : Headers) : Option String :=
  ((headers.text? "authorization").bind bearer?).or (cookies? headers)

inductive TokenKind where
  | session
  | refresh
deriving DecidableEq

/-- A step that may fail to authenticate. -/
abbrev Attempt := ExceptT AuthError Program

/-- Fails after a note in the log. -/
def failWith {α : Type} (event : Event) (e : AuthError) : Attempt α := do
  Program.log event
  throw e

/-- The user to whom a token belongs. -/
def resolve (tokens : TokenService) (token : String) (kind : TokenKind) (now : Instant) :
    Attempt User := do
  let claims ← match ← ExceptT.lift (Program.ofOption (tokens.parse token now)) with
    | .ok claims => pure claims
    | .error e => throw (AuthError.ofToken e)
  let user ← match ← Program.store (.findByEmail claims.subject) with
    | .ok user => pure user
    | .error .notFound => failWith (.unknownSubject claims.subject) .invalidToken
    | .error e => throw (AuthError.ofStore e)
  if user.email ≠ claims.subject then failWith (.subjectNotEmail user.id) .invalidToken
  else if kind = .refresh ∧ user.refreshToken ≠ some token then
    failWith (.refreshTokenNotStored user.id) .invalidToken
  else return user

end Countersign.Session
