import Countersign.Json.Record
import Countersign.Json.Value
import Countersign.Privilege

/-!
Actions, flags and privilege sets as JSON. A set is an object with one member per resource, in the order
of their names.
-/

namespace Countersign

open Json (Node Value)

namespace Action

/-- Reads an action by its name. -/
def ofNode? (n : Node) : Option Action := n.word?.bind ofName?

def toValue (a : Action) : Value := .string a.name

end Action

namespace ActionFlags

/-- Reads flags; those not given are off. -/
def ofNode? (n : Node) : Option ActionFlags := do
  let [read, create, update, delete] ← n.fields? (Action.all.map Action.name) | none
  let flag := Node.defaulting Node.bool? false
  some ⟨← flag read, ← flag create, ← flag update, ← flag delete⟩

def toValue (flags : ActionFlags) : Value :=
  .object (Action.all.map fun a => (a.name, .bool (flags.allows a)))

end ActionFlags

namespace PrivilegeSet

/-- Reads a set; of members with one key the last counts. -/
def ofNode? : Node → Option PrivilegeSet
  | .object members => do
    let entries ← members.mapM fun (key, flags) => do
      some (⟨← Json.Quoted.decode? key, ← ActionFlags.ofNode? flags⟩ : Privilege)
    some (Catalog.ofList entries)
  | _ => none

def toValue (set : PrivilegeSet) : Value :=
  .object (set.entries.map fun p => (p.resource, p.flags.toValue))

end PrivilegeSet

end Countersign
