import Marketplace.Http.Message
import Marketplace.Participant

/-!
# Who is calling

Whoever lets a request in vouches for the caller in headers, and the claims there are believed.
-/

namespace Marketplace.Http

/-- The headers that a request is read for. -/
def accountHeader : String := "x-account-id"
def emailHeader : String := "x-account-email"
def roleHeader : String := "x-account-role"
def requestHeader : String := "x-request-id"

namespace Request

/-- The value of a header that a function understands. -/
def claim {α : Type} (r : Request) (name : String) (f : String → Option α) : Except Response α :=
  match r.value? name with
  | none => .error (.problem 401 ("missing " ++ name ++ " header"))
  | some v =>
    match f v with
    | some a => .ok a
    | none => .error (.problem 401 ("invalid " ++ name ++ " header: " ++ v))

/-- The claims of the caller: number and role have to be there, an email may be missing. -/
def claims (r : Request) : Except Response Claims := do
  let account ← r.claim accountHeader fun s => (AccountId.parse s).toOption
  let role ← r.claim roleHeader Role.ofName?
  return ⟨account, (r.value? emailHeader).getD "", role⟩

/-- The name that the caller gave to the request. -/
def requestId? (r : Request) : Option String := r.value? requestHeader

end Request

end Marketplace.Http
