import Countersign.Wire.User

/-!
The bodies of requests and answers.
-/

namespace Countersign

open Json (Node Value)

/-- Reads a text that is empty when it is not given. -/
def textOrEmpty : Option Node → Option String := Node.defaulting Node.text? ""

/-- The server's public key. -/
structure PublicKeyReply where
  publicKey : String
deriving DecidableEq

namespace PublicKeyReply

def ofNode? (n : Node) : Option PublicKeyReply := do
  let [key] ← n.fields? ["public_key"] | none
  some ⟨← Node.required Node.text? key⟩

def toValue (r : PublicKeyReply) : Value := .object [("public_key", .string r.publicKey)]

end PublicKeyReply

/-- A login, or without an email the question for the server's public key. -/
structure LoginRequest where
  publicKey : String
  email : String
  password : String
deriving DecidableEq

namespace LoginRequest

def ofNode? (n : Node) : Option LoginRequest := do
  let [key, email, password] ← n.fields? ["public_key", "email", "password"] | none
  some ⟨← textOrEmpty key, ← textOrEmpty email, ← textOrEmpty password⟩

def toValue (r : LoginRequest) : Value :=
  .object [("public_key", .string r.publicKey), ("email", .string r.email),
    ("password", .string r.password)]

end LoginRequest

structure LoginReply where
  publicKey : String
  email : String
  token : String
  refreshToken : String
  user : UserProfile
deriving DecidableEq

namespace LoginReply

def ofNode? (n : Node) : Option LoginReply := do
  let [key, email, token, refresh, user] ←
    n.fields? ["public_key", "email", "token", "refresh_token", "user"] | none
  some {
    publicKey := ← Node.required Node.text? key
    email := ← Node.required Node.text? email
    token := ← Node.required Node.text? token
    refreshToken := ← Node.required Node.text? refresh
    user := ← Node.required UserProfile.ofNode? user }

def toValue (r : LoginReply) : Value :=
  .object [("public_key", .string r.publicKey), ("email", .string r.email),
    ("token", .string r.token), ("refresh_token", .string r.refreshToken),
    ("user", r.user.toValue)]

end LoginReply

structure RefreshRequest where
  email : String
  refreshToken : String
deriving DecidableEq

namespace RefreshRequest

def ofNode? (n : Node) : Option RefreshRequest := do
  let [email, refresh] ← n.fields? ["email", "refresh_token"] | none
  some ⟨← textOrEmpty email, ← textOrEmpty refresh⟩

def toValue (r : RefreshRequest) : Value :=
  .object [("email", .string r.email), ("refresh_token", .string r.refreshToken)]

end RefreshRequest

structure RefreshReply where
  token : String
  refreshToken : String
  user : UserProfile
deriving DecidableEq

namespace RefreshReply

def ofNode? (n : Node) : Option RefreshReply := do
  let [token, refresh, user] ← n.fields? ["token", "refresh_token", "user"] | none
  some {
    token := ← Node.required Node.text? token
    refreshToken := ← Node.required Node.text? refresh
    user := ← Node.required UserProfile.ofNode? user }

def toValue (r : RefreshReply) : Value :=
  .object [("token", .string r.token), ("refresh_token", .string r.refreshToken),
    ("user", r.user.toValue)]

end RefreshReply

/-- A logout names its session by either token. -/
structure LogoutRequest where
  email : String
  token : Option String
  refreshToken : Option String
deriving DecidableEq

namespace LogoutRequest

def ofNode? (n : Node) : Option LogoutRequest := do
  let [email, token, refresh] ← n.fields? ["email", "token", "refresh_token"] | none
  let optional := Node.defaulting (Node.nullable? Node.text?) none
  some ⟨← textOrEmpty email, ← optional token, ← optional refresh⟩

def toValue (r : LogoutRequest) : Value :=
  .object [("email", .string r.email), ("token", .ofOption r.token),
    ("refresh_token", .ofOption r.refreshToken)]

end LogoutRequest

/-- The question for the user behind a token. -/
structure TokenLookup where
  email : String
  token : String
deriving DecidableEq

namespace TokenLookup

def ofNode? (n : Node) : Option TokenLookup := do
  let [email, token] ← n.fields? ["email", "token"] | none
  some ⟨← textOrEmpty email, ← textOrEmpty token⟩

def toValue (r : TokenLookup) : Value :=
  .object [("email", .string r.email), ("token", .string r.token)]

end TokenLookup

structure StatusReply where
  status : String
deriving DecidableEq

namespace StatusReply

def ofNode? (n : Node) : Option StatusReply := do
  let [status] ← n.fields? ["status"] | none
  some ⟨← Node.required Node.text? status⟩

def toValue (r : StatusReply) : Value := .object [("status", .string r.status)]

end StatusReply

/-- A new name for a user. -/
structure RenameRequest where
  name : String
deriving DecidableEq

namespace RenameRequest

def ofNode? (n : Node) : Option RenameRequest := do
  let [name] ← n.fields? ["name"] | none
  some ⟨← Node.required Node.text? name⟩

def toValue (r : RenameRequest) : Value := .object [("name", .string r.name)]

end RenameRequest

end Countersign
