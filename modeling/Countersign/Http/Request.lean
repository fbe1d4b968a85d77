import Countersign.Http.Headers
import Countersign.Http.Method
import Countersign.Http.Target

/-!
Requests.
-/

namespace Countersign.Http

structure Request where
  method : Method
  target : Target
  headers : Headers
  body : Bytes

end Countersign.Http
