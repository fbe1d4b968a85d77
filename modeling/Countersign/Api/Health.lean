import Countersign.Service

/-!
The endpoints that tell whether the service is up.
-/

namespace Countersign.Service

open Http (Response)
open Json (Value)

/-- The service runs. -/
def alive : Response := .json 200 (.object [("status", .string "ok")])

/-- Whether the store answers: a look-up that finds nobody is an answer too. -/
def storeAnswers : StoreAnswer → Bool
  | .ok _ => true
  | .error .notFound => true
  | .error _ => false

/-- The identifier that nobody has. -/
def nobody : Int64 := Int64.minValue

/-- The service runs, and its store answers or not. -/
def ready : Program Response := do
  let up := storeAnswers (← Program.store (.findById nobody))
  return .json (if up then 200 else 503) (.object [
    ("status", .string (if up then "ok" else "degraded")),
    ("checks", .object [
      ("service", .string "ok"),
      ("store", .string (if up then "ok" else "unavailable"))])])

end Countersign.Service
