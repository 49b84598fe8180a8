import Marketplace.Policy.Grant
import Marketplace.Table

/-!
# The grants of one subject

A set of triples of a resource type, an action and a resource, kept by type and then by action. The
resources of one type and action are listed in the order in which they were added. Removing the
last resource of an action removes the action, and the last action of a type the type.
-/

namespace Marketplace

/-- Resources by action. -/
abbrev ActionTable := Table String (List String)

/-- Grants by resource type and action. -/
structure GrantSet where
  byType : Table String ActionTable

namespace GrantSet

/-- No grants. -/
def empty : GrantSet := ⟨.empty⟩

instance : Inhabited GrantSet := ⟨empty⟩

/-- The actions granted on a type. -/
def actions (s : GrantSet) (resourceType : String) : ActionTable :=
  (s.byType.get? resourceType).getD .empty

/-- The resources granted for exactly this type and action. -/
def resourceIds (s : GrantSet) (resourceType action : String) : List String :=
  ((s.actions resourceType).get? action).getD []

def contains (s : GrantSet) (resourceType action resourceId : String) : Bool :=
  (s.resourceIds resourceType action).contains resourceId

/-- Adds a triple; the answer tells whether it was new. -/
def insert (s : GrantSet) (resourceType action resourceId : String) : Bool × GrantSet :=
  if s.contains resourceType action resourceId then (false, s)
  else
    let ids := s.resourceIds resourceType action ++ [resourceId]
    (true, ⟨s.byType.put resourceType ((s.actions resourceType).put action ids)⟩)

/-- The actions of a type without one resource, and without an action left empty. -/
def dropId (acts : ActionTable) (action : String) (ids : List String) : ActionTable :=
  if ids.isEmpty then acts.erase action else acts.put action ids

/-- Removes a triple; the answer tells whether it was there. -/
def remove (s : GrantSet) (resourceType action resourceId : String) : Bool × GrantSet :=
  match s.byType.get? resourceType with
  | none => (false, s)
  | some acts =>
    match acts.get? action with
    | none => (false, s)
    | some ids =>
      let rest := ids.filter fun i => i ≠ resourceId
      let acts := dropId acts action rest
      let byType :=
        if acts.isEmpty then s.byType.erase resourceType else s.byType.put resourceType acts
      (decide (rest.length ≠ ids.length), ⟨byType⟩)

/-- The set as grants of a subject, by type, then by action, then in the order of addition. -/
def grants (s : GrantSet) (subject : String) : List Grant :=
  s.byType.rows.flatMap fun (resourceType, acts) =>
    acts.rows.flatMap fun (action, ids) =>
      ids.map fun i => ⟨subject, resourceType, action, i⟩

/-- A set without types is empty. -/
def isEmpty (s : GrantSet) : Bool := s.byType.isEmpty

/-- The number of triples. -/
def size (s : GrantSet) : Nat :=
  (s.byType.values.flatMap Table.values).foldl (fun count ids => count + ids.length) 0

/-- The set of the triples of some grants. -/
def ofGrants (gs : List Grant) : GrantSet :=
  gs.foldl (fun s g => (s.insert g.resourceType g.action g.resourceId).2) empty

end GrantSet

end Marketplace
