import Countersign.Catalog
import Countersign.Http.Method

/-!
Privileges: which actions are granted on which resources.

A set maps resource names to flags, one per action. Sets merge by union: what one of them grants the
merged set grants. `Decision` keeps a resource without an entry apart from one whose entry does not
grant the action.
-/

namespace Countersign

open Http (Method)

/-- What may be done to a resource. -/
inductive Action where
  | read
  | create
  | update
  | delete
deriving DecidableEq, Inhabited

namespace Action

def all : List Action := [.read, .create, .update, .delete]

def name : Action → String
  | .read => "read"
  | .create => "create"
  | .update => "update"
  | .delete => "delete"

/-- The action that a text names. -/
def ofName? (s : String) : Option Action := all.find? fun a => a.name == s

/-- The action that a request with this method performs; other methods perform none. -/
def ofMethod? (m : Method) : Option Action :=
  if m = .get ∨ m = .head then some .read
  else if m = .post then some .create
  else if m = .put ∨ m = .patch then some .update
  else if m = .delete then some .delete
  else none

end Action

/-- Methods that change state, and so need a signed request. -/
def Http.Method.isMutating (m : Method) : Bool :=
  [Method.post, .put, .patch, .delete].contains m

/-- The actions granted on one resource. -/
structure ActionFlags where
  read : Bool := false
  create : Bool := false
  update : Bool := false
  delete : Bool := false
deriving DecidableEq, Inhabited

namespace ActionFlags

def allows (flags : ActionFlags) : Action → Bool
  | .read => flags.read
  | .create => flags.create
  | .update => flags.update
  | .delete => flags.delete

/-- The flags with one more action granted. -/
def grant (flags : ActionFlags) : Action → ActionFlags
  | .read => { flags with read := true }
  | .create => { flags with create := true }
  | .update => { flags with update := true }
  | .delete => { flags with delete := true }

/-- Grants what either side grants. -/
def union (a b : ActionFlags) : ActionFlags where
  read := a.read || b.read
  create := a.create || b.create
  update := a.update || b.update
  delete := a.delete || b.delete

end ActionFlags

/-- The answer to "may this action be done to that resource". -/
inductive Decision where
  | granted
  /-- There is no entry for the resource. -/
  | noResource
  /-- The resource has an entry, which does not grant the action. -/
  | denied
deriving DecidableEq

/-- The flags of one resource. -/
structure Privilege where
  resource : String
  flags : ActionFlags
deriving DecidableEq

/-- Flags by resource name. -/
abbrev PrivilegeSet := Catalog Privilege.resource

namespace PrivilegeSet

/-- The flags that the set holds for a resource. -/
def flags? (set : PrivilegeSet) (resource : String) : Option ActionFlags :=
  (set.find? resource).map (·.flags)

def decide (set : PrivilegeSet) (resource : String) (action : Action) : Decision :=
  match flags? set resource with
  | none => .noResource
  | some flags => if flags.allows action then .granted else .denied

def allows (set : PrivilegeSet) (resource : String) (action : Action) : Bool :=
  decide set resource action == .granted

/-- Adds flags to those of their resource; granted actions stay granted. -/
def add (set : PrivilegeSet) (p : Privilege) : PrivilegeSet :=
  set.insert ⟨p.resource, ((flags? set p.resource).getD {}).union p.flags⟩

/-- Grants actions on a resource, which has an entry from then on. -/
def grant (set : PrivilegeSet) (resource : String) (actions : List Action) : PrivilegeSet :=
  add set ⟨resource, actions.foldl ActionFlags.grant {}⟩

/-- Union of two sets. -/
def merge (set other : PrivilegeSet) : PrivilegeSet := other.entries.foldl add set

/-- Union of several sets. -/
def merged (sets : List PrivilegeSet) : PrivilegeSet := sets.foldl merge .empty

end PrivilegeSet

end Countersign
