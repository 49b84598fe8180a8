import Marketplace.Http.Outgoing
import Marketplace.Json.Vocabulary

/-!
# Grants listed by another process

A process that does not host the service that lists grants asks for them over the network: a
`GET` with the subject and the type of resource in the query. Whatever goes wrong on the way, the
request has failed and may be tried again.
-/

namespace Marketplace.RemoteGrants

/-- Where to ask for the grants of a subject on a type of resource. -/
def target? (origin address subject resourceType : String) : Option Http.Target :=
  (Http.Target.ofAddress? origin address).map fun t =>
    (t.withPair "sub" subject).withPair "resource_type" resourceType

/-- A status whose response carries no body. -/
def isBodiless (status : Nat) : Bool := status = 204 || status = 304

/-- The texts of the grants that a response lists. -/
def ofResponse (status : Nat) (body : String) : Except PolicyError GrantList :=
  if status < 200 ∨ (400 ≤ status ∧ status < 600) then
    .error (.requestFailed ("status " ++ toString status))
  else if isBodiless status then .error (.requestFailed "no body")
  else
    match Json.decodeText GrantList.read body with
    | .ok texts => .ok texts
    | .error _ => .error (.requestFailed "no list of grants")

/-- The texts of the grants that the other process lists when it responds with a status and a body;
an address that leads nowhere fails like any other request. -/
def answer (target : Option Http.Target) (respond : Http.Target → Nat × String) :
    Except PolicyError GrantList :=
  match target with
  | none => .error (.requestFailed "no address")
  | some t => ofResponse (respond t).1 (respond t).2

end Marketplace.RemoteGrants
