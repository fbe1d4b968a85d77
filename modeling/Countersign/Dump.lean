import Countersign.KeyExchange
import Countersign.Principal
import Countersign.Text.Quoted

/-!
What dumps for people show of principals and key pairs. No dump holds a secret.
-/

namespace Countersign

def ActionFlags.shown (flags : ActionFlags) : String :=
  Text.record "ActionFlags"
    (Action.all.map fun a => (a.name, if flags.allows a then "true" else "false"))

def PrivilegeSet.shown (set : PrivilegeSet) : String :=
  "PrivilegeSet(\x7b" ++
    ", ".intercalate (set.entries.map fun p => Text.quoted p.resource ++ ": " ++ p.flags.shown) ++
    "\x7d)"

def Principal.shown (p : Principal) : String :=
  Text.record "Principal" [
      ("id", Text.ofInt p.id.toInt),
      ("email", Text.quoted p.email),
      ("roles", "[" ++ ", ".intercalate (p.roles.map Text.quoted) ++ "]"),
      ("privileges", PrivilegeSet.shown p.privileges)]
    Text.andMore

def KeyPair.shown (pair : KeyPair) : String :=
  Text.record "KeyExchange" [("public_key", Text.quoted pair.publicKey.toText)] Text.andMore

end Countersign
