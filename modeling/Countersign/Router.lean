import Countersign.Api.Auth
import Countersign.Api.Docs
import Countersign.Api.Health
import Countersign.Api.Users
import Countersign.Preview

/-!
From requests to responses.

`Service.handle` is the whole way: requests across origins are answered first, then the body is measured, the
endpoint found and run, and the log told. User endpoints resolve the session before anything else. Which places
there are depends on whether the documentation is served.
-/

namespace Countersign

open Http (Header Headers Method Request Response Target)

/-- The places that requests can go to. -/
inductive Route where
  | auth
  | authHealth
  | me
  | user (id : String)
  | health
  | ready
  /-- The description of the interface. -/
  | description
  /-- The entry of the documentation. -/
  | docs
  /-- A page of the documentation, by what follows its entry. -/
  | docsPage (name : String)
  /-- The documentation where it is not served. -/
  | docsDisabled
deriving DecidableEq

namespace Route

/-- The path in front of the versioned routes. -/
def version : String := "/api/v1"

/-- The place of a path. Segments are compared as they are written; `docs` says whether the documentation is
served. Where it is not, neither its description nor its front page is a place. -/
def ofPath? (docs : Bool) (path : String) : Option Route :=
  match (Text.parts '/' path.toList).map String.ofList with
  | ["", "api", "v1", "auth"] => some .auth
  | ["", "api", "v1", "auth", "healthz"] => some .authHealth
  | ["", "api", "v1", "users", "me"] => some .me
  | ["", "api", "v1", "users", id] => if id.isEmpty then none else some (.user id)
  | ["", "healthz"] => some .health
  | ["", "readyz"] => some .ready
  | ["", "api-doc", "openapi.json"] => if docs then some .description else none
  | ["", "docs"] => some (if docs then .docs else .docsDisabled)
  | "" :: "docs" :: rest =>
    if docs then some (.docsPage ("/".intercalate rest))
    else if rest = [""] then none else some .docsDisabled
  | _ => none

/-- The methods of a place in the order in which they are told; none if it takes any. -/
def methods : Route → Option (List Method)
  | .auth => some [.put, .post, .delete, .get, .head]
  | .user _ => some [.get, .head, .patch]
  | .docsDisabled => none
  | _ => some [.get, .head]

end Route

namespace Service

/-- The largest body that is taken. -/
def maxBody : Nat := 1048576

/-- The principal of the session that a request presents, or the response to one that does not
resolve. -/
def principalOf (s : Service) (request : Request) (now : Instant) :
    Program (Except Response (Option Principal)) :=
  match Session.presented? request.headers with
  | none => return .ok none
  | some token => do
    match ← (Session.resolve s.tokens token .session now).run with
    | .ok user => return .ok (some (Principal.ofUser user))
    | .error (.systemError detail) =>
      Program.logAll (Event.ofAuthError (.systemError detail))
      return .error (AuthError.systemError detail).response
    | .error e =>
      Program.log (.sessionRejected request.method (request.target.without Route.version).text e)
      return .error AuthError.invalidToken.response

/-- A user endpoint, with the principal of the session. -/
def withPrincipal (s : Service) (request : Request) (now : Instant)
    (use : Option Principal → Program Response) : Program Response := do
  match ← s.principalOf request now with
  | .ok p => use p
  | .error r => return r

/-- An endpoint for those that have a session. -/
def required (p : Option Principal) (use : Principal → Program Response) : Program Response :=
  match requirePrincipal p with
  | .ok p => use p
  | .error e => answerAttempt (throw e)

/-- An endpoint that takes an identifier from the path. -/
def withUserId (segment : String) (use : Int64 → Program Response) : Program Response :=
  match userId segment with
  | .ok id => use id
  | .error text => return .plain 400 text

/-- Answers a request whose method the place does not take. -/
def wrongMethod : Response := .empty 405

/-- What the place of a user's record does with a request. -/
def userEndpoint (m : Method) (segment : String) (signed : SignedRequest) (now : Instant)
    (p : Option Principal) : Program Response :=
  if m = .get ∨ m = .head then
    required p fun p => withUserId segment fun id => answerTask (getUser p id signed now)
  else if m = .patch then
    required p fun p => withUserId segment fun id => answerTask (renameUser p id signed now)
  else return wrongMethod

/-- What a place does with a request. -/
def endpoint (s : Service) (route : Route) (request : Request) (now : Instant) :
    Program Response := do
  let m := request.method
  let reading := m = .get ∨ m = .head
  let signed ← signedRequest m request.target request.headers (some request.body)
  match route with
  | .auth =>
    if m = .put then answerAttempt (s.loginOrKey signed now)
    else if m = .post then answerAttempt (s.refresh signed now)
    else if m = .delete then answerAttempt (s.logout signed now)
    else if reading then answerAttempt (s.current signed now)
    else return wrongMethod
  | .authHealth => return if reading then alive else wrongMethod
  | .health => return if reading then alive else wrongMethod
  | .ready => if reading then ready else return wrongMethod
  | .me => s.withPrincipal request now fun p =>
    if reading then required p fun p => return currentUser p else return wrongMethod
  | .user segment => s.withPrincipal request now (userEndpoint m segment signed now)
  | .description => return if reading then interfaceDocument else wrongMethod
  | .docs => return if reading then docsEntry else wrongMethod
  | .docsPage name => return if reading then docsPage name else wrongMethod
  | .docsDisabled => return docsDisabled

/-- The place that a request goes to. -/
def route? (s : Service) (request : Request) : Option Route :=
  Route.ofPath? s.docs request.target.routedPath

/-- The endpoint's answer to a request of bearable size, with a note in the log. -/
def logged (s : Service) (request : Request) (now : Instant) : Program Response :=
  if maxBody < request.body.length then do
    Program.log (.bodyTooLarge request.method request.target.text)
    return ApiError.bodyTooLarge.response
  else do
    let response ← match s.route? request with
      | some route => s.endpoint route request now
      | none => pure (.empty 404)
    Program.log (.request request.method request.target.text response.status
      (Preview.ofBody request.body))
    return response

/-- The header that tells the methods of a place to those who come with another one. -/
def allowHeader (s : Service) (request : Request) : Headers :=
  match (s.route? request).bind Route.methods with
  | none => []
  | some methods =>
    if methods.contains request.method then []
    else [.ofText "allow" (",".intercalate (methods.map Method.token))]

/-- What a cached response depends on. -/
def varyHeader : Header :=
  .ofText "vary" "origin, access-control-request-method, access-control-request-headers"

/-- The answer to a browser that asks what it may do: everything. -/
def preflight : Response where
  status := 200
  headers := [.ofText "access-control-allow-headers" "*", .ofText "access-control-allow-methods" "*",
    .ofText "access-control-allow-origin" "*", varyHeader]

/-- The header that marks a response with the identifier of its request. -/
def requestIdHeader : String := "x-request-id"

/-- The identifier that a request brings along, or a new one. -/
def requestId (request : Request) (newId : String) : Header :=
  (request.headers.first? requestIdHeader).getD (.ofText requestIdHeader newId)

/-- Whether a request gets the head of its response alone. One that asks for it does, unless it has a path that
leads nowhere; an authority alone and a star have no path. -/
def headAlone (s : Service) (request : Request) : Bool :=
  request.method = .head &&
    ((s.route? request).isSome || request.target.routedPath.toList.head? != some '/')

/-- Handles a request that arrives now; `newId` is for one that has no identifier. -/
def handle (s : Service) (request : Request) (newId : String) (now : Instant) :
    Program Response := do
  let response ← if request.method = .options then pure preflight else do
    let response ← s.logged request now
    pure (response.withHeaders [.ofText "access-control-allow-origin" "*",
      .ofText "access-control-expose-headers" "*", varyHeader, requestId request newId])
  let response := response.withHeaders (s.allowHeader request)
  return if s.headAlone request then { response with body := "" } else response

end Service

end Countersign
