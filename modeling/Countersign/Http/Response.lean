import Countersign.Failure
import Countersign.Http.Headers
import Countersign.Json.Value

/-!
Responses, and those that tell of a failure.
-/

namespace Countersign

open Json (Value)

namespace Http

structure Response where
  status : Nat
  headers : Headers := []
  body : String := ""
deriving DecidableEq

namespace Response

/-- A response with a JSON body. -/
def json (status : Nat) (body : Value) : Response where
  status := status
  headers := [.ofText "content-type" "application/json"]
  body := body.write

/-- A response with a plain text. -/
def plain (status : Nat) (body : String) : Response where
  status := status
  headers := [.ofText "content-type" "text/plain; charset=utf-8"]
  body := body

/-- A response without a body. -/
def empty (status : Nat) : Response := { status }

/-- The response with more headers. -/
def withHeaders (r : Response) (headers : Headers) : Response :=
  { r with headers := r.headers ++ headers }

end Response

end Http

open Http (Response)

def AuthError.response (e : AuthError) : Response :=
  .json e.status (.object [("error", .string e.publicMessage), ("error_code", .string e.code)])

def ApiError.response (e : ApiError) : Response :=
  .json e.status (.object [("error", .string e.message)])

end Countersign
