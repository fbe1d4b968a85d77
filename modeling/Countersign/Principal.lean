import Countersign.KeyExchange
import Countersign.User

/-!
Principals: the users behind requests, without their password records and refresh tokens.
-/

namespace Countersign

structure Principal where
  user : User
  no_password : user.passwordHash = none
  no_refresh : user.refreshToken = none

namespace Principal

def ofUser (u : User) : Principal where
  user := { u with passwordHash := none, refreshToken := none }
  no_password := rfl
  no_refresh := rfl

def id (p : Principal) : Int64 := p.user.id
def email (p : Principal) : String := p.user.email
def roles (p : Principal) : List String := p.user.roleNames
def privileges (p : Principal) : PrivilegeSet := p.user.privileges

/-- The secret of the open session, if there is one that can be read. -/
def sharedSecret (p : Principal) : Option SharedSecret :=
  p.user.sharedSecret.bind SharedSecret.ofText?

end Principal

end Countersign
