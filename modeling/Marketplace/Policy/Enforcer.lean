import Marketplace.Participant
import Marketplace.Policy.Grant

/-!
# Permission checks

Every check asks a store of grants for the grants of one subject and decides by them alone. The
store may change as it is asked, as a cache does, so a check carries its state along. A failure of
the store denies.
-/

namespace Marketplace

/-- A store that answers with the grants of a subject. -/
structure GrantStore (σ : Type) where
  grantsOf : String → σ → Except PolicyError (List Grant) × σ

/-- Decides whether a grant covers a request. -/
abbrev Matcher := (request grant : Grant) → Bool

/-- The rule of `Grant.covers`. -/
def Matcher.standard : Matcher := fun request grant => grant.covers request

/-- What a caller may see of a type of resource. -/
inductive ResourceFilter where
  | unrestricted
  | only (ids : List String)
  deriving DecidableEq

/-- Whether a resource passes the filter. -/
def ResourceFilter.allows : ResourceFilter → String → Bool
  | unrestricted, _ => true
  | only ids, id => ids.contains id

/-- What a caller needs in order to perform an operation. -/
structure Permission where
  resourceType : String
  action : String
  resourceId : String
  deriving DecidableEq

namespace GrantStore

variable {σ : Type}

/-- Whether the grants of its subject cover a request. A text that is no request is denied. -/
def enforce (store : GrantStore σ) (rule : Matcher) (request : String) (s : σ) : Bool × σ :=
  match Grant.parse request with
  | .error _ => (false, s)
  | .ok request =>
    match store.grantsOf request.subject s with
    | (.ok grants, s) => (grants.any fun g => rule request g, s)
    | (.error _, s) => (false, s)

/-- The resources that a subject holds for exactly one type and action. -/
def resourceIds (store : GrantStore σ) (subject resourceType action : String) (s : σ) :
    List String × σ :=
  match store.grantsOf subject s with
  | (.ok grants, s) =>
    ((grants.filter fun g => g.resourceType = resourceType && g.action = action).map
      Grant.resourceId, s)
  | (.error _, s) => ([], s)

/-- The request of a caller for a permission. -/
def request (c : Claims) (p : Permission) : Grant := ⟨c.subject, p.resourceType, p.action, p.resourceId⟩

/-- Lets a caller pass who holds a permission. -/
def authorize (store : GrantStore σ) (c : Claims) (p : Permission) (s : σ) :
    Except PolicyError Unit × σ :=
  match store.enforce .standard (request c p).text s with
  | (true, s) => (.ok (), s)
  | (false, s) => (.error .denied, s)

/-- Lets a caller pass who holds every one of some permissions, which are checked in order up to
the first that is missing. -/
def authorizeAll (store : GrantStore σ) (c : Claims) :
    List Permission → σ → Except PolicyError Unit × σ
  | [], s => (.ok (), s)
  | p :: ps, s =>
    match store.authorize c p s with
    | (.ok (), s) => store.authorizeAll c ps s
    | (.error e, s) => (.error e, s)

/-- The resources in `more` that are not in `ids` yet, at the end of `ids`. -/
def appendNew (ids more : List String) : List String :=
  more.foldl (fun ids i => if ids.contains i then ids else ids ++ [i]) ids

/-- What a caller may list of a type: the resources granted for every action, then those granted
for `get`. The wildcard among them lifts the restriction. -/
def resourceFilter (store : GrantStore σ) (c : Claims) (resourceType : String) (s : σ) :
    Except PolicyError ResourceFilter × σ :=
  match store.resourceIds c.subject resourceType Action.any s with
  | (forAny, s) =>
    match store.resourceIds c.subject resourceType Action.get s with
    | (forGet, s) =>
      let ids := appendNew forAny forGet
      if ids.isEmpty then (.error .denied, s)
      else if ids.contains wildcard then (.ok .unrestricted, s)
      else (.ok (.only ids), s)

end GrantStore

end Marketplace
