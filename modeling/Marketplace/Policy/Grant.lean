import Marketplace.Policy.Error
import Marketplace.Text.Split

/-!
# Grants

A grant lets a subject perform an action on a resource of some type. Its text has the four fields
with colons between them, in the order subject, type, action, resource. `covers` decides whether a
grant covers a request.
-/

namespace Marketplace

/-! ## The types of resource that services guard -/

namespace Resource

def accounts : String := "accounts"
def merchants : String := "merchants"
def products : String := "products"
def orders : String := "orders"
def transactions : String := "transactions"

end Resource

/-! ## The actions that grants name -/

namespace Action

def get : String := "get"
def post : String := "post"
def put : String := "put"
def delete : String := "delete"

/-- Every action. -/
def any : String := "*"

end Action

/-! ## Grants -/

/-- Stands for every action or every resource of a type. -/
def wildcard : String := "*"

/-- A permission of one subject. -/
structure Grant where
  subject : String
  resourceType : String
  action : String
  resourceId : String
  deriving DecidableEq, Inhabited

namespace Grant

/-- Grants are ordered field by field. -/
def order (g h : Grant) : Ordering :=
  (compare g.subject h.subject).then <| (compare g.resourceType h.resourceType).then <|
    (compare g.action h.action).then (compare g.resourceId h.resourceId)

instance : Ord Grant := ⟨order⟩

/-- The four fields with colons between them. -/
def text (g : Grant) : String :=
  g.subject ++ ":" ++ g.resourceType ++ ":" ++ g.action ++ ":" ++ g.resourceId

/-- Reads four fields, none of them empty. -/
def parse (s : String) : Except PolicyError Grant :=
  match Text.split ':' s with
  | [subject, resourceType, action, resourceId] =>
    if subject ≠ "" ∧ resourceType ≠ "" ∧ action ≠ "" ∧ resourceId ≠ "" then
      .ok ⟨subject, resourceType, action, resourceId⟩
    else .error (.invalidGrant s)
  | _ => .error (.invalidGrant s)

/-- A field that can stand in the text of a grant. -/
def isField (s : String) : Bool := s ≠ "" && !s.toList.contains ':'

/-- A grant whose text reads back: no field is empty or holds a colon. -/
def isWellFormed (g : Grant) : Bool :=
  isField g.subject && isField g.resourceType && isField g.action && isField g.resourceId

/-- Subject and type have to be equal; the grant may leave the action and the resource open. -/
def covers (grant request : Grant) : Bool :=
  request.subject = grant.subject && request.resourceType = grant.resourceType &&
  (grant.action = request.action || grant.action = wildcard) &&
  (grant.resourceId = request.resourceId || grant.resourceId = wildcard)

end Grant

/-- What a change to a subject's grants does. -/
inductive PolicyMethod where
  | put
  | delete
  deriving DecidableEq

namespace PolicyMethod

def name : PolicyMethod → String
  | put => "put"
  | delete => "delete"

def all : List PolicyMethod := [put, delete]

def ofName? (s : String) : Option PolicyMethod := all.find? fun m => m.name = s

theorem ofName?_name (m : PolicyMethod) : ofName? m.name = some m := by
  cases m <;> simp [ofName?, all, name]

end PolicyMethod

end Marketplace
