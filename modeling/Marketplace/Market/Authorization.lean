import Marketplace.Market.Operation

/-!
# Grants

The authorization service owns all grants and announces every change to them. A request to give a
grant that is there already is announced again, so that a cache that missed the first announcement
catches up.
-/

namespace Marketplace

/-- All grants, in order. -/
structure GrantBook where
  grants : Table Grant Unit
  isDown : Bool

namespace GrantBook

def empty : GrantBook := ⟨.empty, false⟩

instance : Inhabited GrantBook := ⟨empty⟩

/-- Whether the store answers. -/
def check (s : GrantBook) : Except ServiceError Unit :=
  if s.isDown then .error (.storeUnavailable "policy store") else .ok ()

/-- Adds a grant; the answer tells whether it was new. -/
def insert (g : Grant) (s : GrantBook) : Except ServiceError (Bool × GrantBook) := do
  s.check
  return (!s.grants.contains g, { s with grants := s.grants.put g () })

/-- Removes a grant; the answer tells whether it was there. -/
def remove (g : Grant) (s : GrantBook) : Except ServiceError (Bool × GrantBook) := do
  s.check
  return (s.grants.contains g, { s with grants := s.grants.erase g })

/-- The grants of a subject, on one type of resource or on all. -/
def select (subject : String) (resourceType : Option String) (s : GrantBook) : List Grant :=
  s.grants.keys.filter fun g =>
    g.subject = subject && resourceType.all fun t => g.resourceType = t

/-- Removes all grants of a subject and answers them. -/
def removeSubject (subject : String) (s : GrantBook) :
    Except ServiceError (List Grant × GrantBook) := do
  s.check
  return (s.select subject none,
    { s with grants := s.grants.keep fun g _ => g.subject ≠ subject })

/-- The grants of a subject, on one type of resource or on all. -/
def list (subject : String) (resourceType : Option String) (s : GrantBook) :
    Except ServiceError (List Grant) := do
  s.check
  return s.select subject resourceType

/-- The grants of a subject as texts. -/
def texts (subject : String) (resourceType : Option String) (s : GrantBook) :
    Except ServiceError (List String) := do
  return (← s.list subject resourceType).map Grant.text

/-- The store as a source for caches. -/
def source (s : GrantBook) (subject : String) : GrantSource := fun resourceType =>
  match s.texts subject (some resourceType) with
  | .ok texts => .ok texts
  | .error e => .error (.unavailable e.message)

end GrantBook

namespace Authorization

/-- A grant whose text would not read back is refused. -/
def validate (g : Grant) : Except ServiceError Unit :=
  if g.isWellFormed then .ok () else .error (.invalid ("invalid grant: " ++ g.text))

/-- Gives a grant. -/
def give (g : Grant) : Operation GrantBook Unit := fun _ s => do
  validate g
  let (isNew, s) ← s.insert g
  return {
    store := s
    answer := ()
    news := [.policyUpdated .put g]
    counts := if isNew then [(.grantAdded, 1)] else [] }

/-- Revokes a grant. -/
def revoke (g : Grant) : Operation GrantBook Unit := fun _ s => do
  validate g
  let (wasThere, s) ← s.remove g
  return {
    store := s
    answer := ()
    news := [.policyUpdated .delete g]
    counts := if wasThere then [(.grantRemoved, 1)] else [] }

/-- Revokes all grants of an account. -/
def revokeAll (account : AccountId) : Operation GrantBook Unit := fun _ s => do
  let (removed, s) ← s.removeSubject account.subject
  return {
    store := s
    answer := ()
    news := removed.map fun g => .policyUpdated .delete g
    counts := [(.grantRemoved, removed.length)] }

/-- The authorization service acts on requests for grants, and on the end of accounts. -/
def participant : Participant GrantBook where
  service := .authorization
  guards := []
  topics := [.upsertPolicy, .removePolicy, .accountDeleted]
  react
    | .upsertPolicy g => some (.perform (give g))
    | .removePolicy g => some (.perform (revoke g))
    | .accountDeleted account => some (.perform (revokeAll account))
    | _ => none

end Authorization

end Marketplace
