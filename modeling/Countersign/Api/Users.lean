import Countersign.Gate
import Countersign.Service
import Countersign.Text.Percent
import Countersign.Wire.Session

/-!
The endpoints of user records, which need a session and pass the gate.
-/

namespace Countersign.Service

open Http (Response)

/-- The name of user records as a resource. -/
def userResource : String := "app_user"

/-- Reads the identifier in a path. -/
def userId (segment : String) : Except String Int64 :=
  match Text.Percent.decode? segment with
  | none => .error "Invalid URL: Invalid UTF-8 in \x60id\x60"
  | some s =>
    match Text.readInt64? s.toList with
    | some id => .ok id
    | none => .error ("Invalid URL: Cannot parse \x60" ++ s ++ "\x60 to a \x60i64\x60")

/-- The principal's own record. -/
def currentUser (p : Principal) : Response := .json 200 p.user.summary.toValue

/-- The gate as part of a task. -/
def passing (p : Principal) (request : SignedRequest) (now : Instant) : Task Unit :=
  attempting do
    match ← Gate.checkMethod p userResource request now with
    | .ok _ => return ()
    | .error denial => throw (.ofDenial denial)

/-- A user's record. -/
def getUser (p : Principal) (id : Int64) (request : SignedRequest) (now : Instant) :
    Task Response := do
  passing p request now
  let user ← asking (.findById id)
  return .json 200 user.summary.toValue

/-- Gives a user a new name. -/
def renameUser (p : Principal) (id : Int64) (request : SignedRequest) (now : Instant) :
    Task Response := do
  passing p request now
  let body ← attempting (readBody request RenameRequest.ofNode?)
  let name := Text.trim body.name.toList
  if name.isEmpty then throw (.badRequest "name must not be empty")
  let user ← asking (.findById id)
  let saved ← asking (.update { user with name := String.ofList name } [.name])
  Program.log (.renamed saved.id p.id)
  return .json 200 saved.summary.toValue

end Countersign.Service
