import Countersign.Json.Value

/-!
The description of the interface: which operations there are, what they answer, and the names of the data.
-/

namespace Countersign.Api

open Json (Value)

/-- One method of a path. -/
structure Operation where
  path : String
  method : String
  tag : String
  /-- The statuses of its answers. -/
  responses : List Nat
deriving DecidableEq

/-- All operations, in the order of their paths. -/
def operations : List Operation := [
  ⟨"/api/v1/auth", "delete", "Auth", [200, 400]⟩,
  ⟨"/api/v1/auth", "get", "Auth", [200, 401]⟩,
  ⟨"/api/v1/auth", "post", "Auth", [200, 400]⟩,
  ⟨"/api/v1/auth", "put", "Auth", [200, 400]⟩,
  ⟨"/api/v1/auth/healthz", "get", "Auth", [200]⟩,
  ⟨"/api/v1/users/me", "get", "Users", [200, 401]⟩,
  ⟨"/api/v1/users/\x7bid\x7d", "get", "Users", [200, 401, 403, 404]⟩,
  ⟨"/api/v1/users/\x7bid\x7d", "patch", "Users", [200, 400, 401, 403, 404, 409]⟩,
  ⟨"/healthz", "get", "Health", [200]⟩,
  ⟨"/readyz", "get", "Health", [200, 503]⟩]

/-- The paths, each once, in order. -/
def paths : List String := (operations.map (·.path)).eraseDups

/-- The names of the data, in order. -/
def schemas : List String := [
  "Action", "ActionFlags", "HealthChecks", "HealthResponse", "LoginRequest", "LoginResponse",
  "LoginUser", "LogoutRequest", "PrivilegeSet", "PublicKeyResponse", "ReadyResponse",
  "RefreshRequest", "RefreshResponse", "Role", "StatusResponse", "TokenLookupRequest",
  "UpdateUserRequest", "UserSummary"]

/-- An operation in a document: its tag, and the statuses of its answers. -/
def Operation.toValue (o : Operation) : Value := .object [
  ("tags", .array [.string o.tag]),
  ("responses", .object (o.responses.map fun status => (toString status, .object [])))]

/-- The operations of a path by their methods. -/
def pathValue (path : String) : Value :=
  .object ((operations.filter (·.path = path)).map fun o => (o.method, o.toValue))

/-- The description as a document. -/
def document : Value := .object [
  ("openapi", .string "3.1.0"),
  ("paths", .object (paths.map fun path => (path, pathValue path))),
  ("components", .object [("schemas", .object (schemas.map fun name => (name, .object [])))])]

end Countersign.Api
