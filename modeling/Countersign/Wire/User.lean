import Countersign.User
import Countersign.Wire.Privilege

/-!
Users, roles and views as JSON. A user's password record, refresh token and shared secret are read, but
never written.
-/

namespace Countersign

open Json (Node Value)

namespace Role

def ofNode? (n : Node) : Option Role := do
  let [id, name, privileges] ← n.fields? ["id", "name", "privileges"] | none
  some {
    id := ← Node.required Node.int64? id
    name := ← Node.required Node.text? name
    privileges := ← Node.defaulting PrivilegeSet.ofNode? .empty privileges }

def toValue (r : Role) : Value :=
  .object [("id", .int r.id.toInt), ("name", .string r.name),
    ("privileges", PrivilegeSet.toValue r.privileges)]

end Role

namespace User

def ofNode? (n : Node) : Option User := do
  let [id, version, email, name, password, refresh, secret, roles] ← n.fields?
    ["id", "version", "email", "name", "password_hash", "refresh_token", "shared_secret", "roles"]
    | none
  let secretText := Node.defaulting (Node.nullable? Node.text?) none
  some {
    id := ← Node.required Node.int64? id
    version := ← Node.required Node.int64? version
    email := ← Node.required Node.text? email
    name := ← Node.required Node.text? name
    passwordHash := ← secretText password
    refreshToken := ← secretText refresh
    sharedSecret := ← secretText secret
    roles := ← Node.defaulting (Node.list? Role.ofNode?) [] roles }

def toValue (u : User) : Value :=
  .object [("id", .int u.id.toInt), ("version", .int u.version.toInt), ("email", .string u.email),
    ("name", .string u.name), ("roles", .array (u.roles.map Role.toValue))]

end User

namespace UserSummary

def ofNode? (n : Node) : Option UserSummary := do
  let [id, name, email, roles] ← n.fields? ["id", "name", "email", "roles"] | none
  some {
    id := ← Node.required Node.int64? id
    name := ← Node.required Node.text? name
    email := ← Node.required Node.text? email
    roles := ← Node.required (Node.list? Node.text?) roles }

def toValue (u : UserSummary) : Value :=
  .object [("id", .int u.id.toInt), ("name", .string u.name), ("email", .string u.email),
    ("roles", .array (u.roles.map .string))]

end UserSummary

namespace UserProfile

def ofNode? (n : Node) : Option UserProfile := do
  let [id, name, email, roles, privileges] ←
    n.fields? ["id", "name", "email", "roles", "privileges"] | none
  some {
    id := ← Node.required Node.int64? id
    name := ← Node.required Node.text? name
    email := ← Node.required Node.text? email
    roles := ← Node.required (Node.list? Node.text?) roles
    privileges := ← Node.required PrivilegeSet.ofNode? privileges }

def toValue (u : UserProfile) : Value :=
  .object [("id", .int u.id.toInt), ("name", .string u.name), ("email", .string u.email),
    ("roles", .array (u.roles.map .string)), ("privileges", PrivilegeSet.toValue u.privileges)]

end UserProfile

end Countersign
