import Marketplace.Http.Message
import Marketplace.ServiceError

/-!
# Errors as responses
-/

namespace Marketplace.Http

/-- The status for a failed operation: 4xx if the request is at fault, 503 if it may be tried again,
500 otherwise. -/
def statusOf : ServiceError → Nat
  | .policy .denied => 403
  | .policy e => if e.isTransient then 503 else 500
  | .invalid _ => 400
  | .conflict _ => 409
  | .notFound _ _ => 404
  | .storeUnavailable _ => 503
  | .event .noConnection => 503
  | .event (.bus _) => 503
  | .event _ => 500

/-- The response to a failed operation. -/
def failure (e : ServiceError) : Response := .problem (statusOf e) e.message

end Marketplace.Http
