import Marketplace.Policy.Cache

/-!
# A fixed source of grants

Grants that are written down by hand, listed for each subject in the order in which they were
given, and a switch that makes the source fail.
-/

namespace Marketplace

/-- Grants by hand. -/
structure StaticSource where
  /-- In the order in which they were given. -/
  grants : List Grant
  isDown : Bool

namespace StaticSource

/-- No grants. -/
def empty : StaticSource := ⟨[], false⟩

/-- Adds a grant, unless it is there. -/
def give (g : Grant) (s : StaticSource) : StaticSource :=
  if s.grants.contains g then s else { s with grants := s.grants ++ [g] }

/-- Takes a grant away. -/
def revoke (g : Grant) (s : StaticSource) : StaticSource :=
  { s with grants := s.grants.filter fun h => h ≠ g }

/-- The texts of the grants of a subject, for a type of resource. -/
def answer (s : StaticSource) (subject : String) : GrantSource := fun resourceType =>
  if s.isDown then .error (.unavailable "static source unavailable")
  else
    .ok ((s.grants.filter fun g => g.subject = subject && g.resourceType = resourceType).map
      Grant.text)

end StaticSource

end Marketplace
