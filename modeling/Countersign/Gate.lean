import Countersign.Principal
import Countersign.Verify

/-!
The gate: what a principal may do with a resource.

An action must be granted by a role. A change must also be signed under the secret of the open session. The
privilege comes first, so nobody uses up a nonce with a request that is not theirs to make.
-/

namespace Countersign.Gate

/-- Refuses a request, and logs it. -/
def deny (event : Event) (denial : Denial) : Program (Except Denial Unit) := do
  Program.log event
  return .error denial

/-- Whether a principal may do an action with a request that arrives now. -/
def check (p : Principal) (resource : String) (action : Action) (request : SignedRequest)
    (now : Instant) : Program (Except Denial Unit) :=
  match PrivilegeSet.decide p.privileges resource action with
  | .noResource => deny (.noEntryForResource p.id resource action) .missingPrivilege
  | .denied => deny (.actionNotGranted p.id resource action) .missingPrivilege
  | .granted =>
    if request.method.isMutating then
      match p.sharedSecret with
      | none => deny (.changeWithoutSecret p.id request.method) .noSharedSecret
      | some secret => do
        let verdict ← Signature.check request (some secret.bytes) now
        return verdict.mapError .signature
    else return .ok ()

/-- The check for the action that the request's method performs. -/
def checkMethod (p : Principal) (resource : String) (request : SignedRequest) (now : Instant) :
    Program (Except Denial Unit) :=
  match Action.ofMethod? request.method with
  | none => deny (.methodWithoutAction p.id resource request.method) .missingPrivilege
  | some action => check p resource action request now

end Countersign.Gate
