import Countersign.Privilege

/-!
Users and their roles, and the two views of a user that are given out. Neither view holds a secret.
-/

namespace Countersign

/-- A role and what it grants. -/
structure Role where
  id : Int64
  name : String
  privileges : PrivilegeSet := .empty
deriving DecidableEq

/-- A user as the store holds it. -/
structure User where
  id : Int64
  /-- Grows by one with every update. -/
  version : Int64
  email : String
  name : String
  /-- The kept password record, if a password is set. -/
  passwordHash : Option String := none
  /-- The refresh token of the open session. -/
  refreshToken : Option String := none
  /-- The text of the open session's shared secret. -/
  sharedSecret : Option String := none
  roles : List Role := []
deriving DecidableEq

/-- Who a user is. -/
structure UserSummary where
  id : Int64
  name : String
  email : String
  roles : List String
deriving DecidableEq

/-- Who a user is and what they may do. -/
structure UserProfile where
  id : Int64
  name : String
  email : String
  roles : List String
  privileges : PrivilegeSet
deriving DecidableEq

namespace User

def roleNames (u : User) : List String := u.roles.map (·.name)

/-- What any of the user's roles grants. -/
def privileges (u : User) : PrivilegeSet := PrivilegeSet.merged (u.roles.map (·.privileges))

def summary (u : User) : UserSummary := ⟨u.id, u.name, u.email, u.roleNames⟩

def profile (u : User) : UserProfile := ⟨u.id, u.name, u.email, u.roleNames, u.privileges⟩

end User

end Countersign
