/-!
# What can go wrong with a permission
-/

namespace Marketplace

/-- Failures of the grant caches and of permission checks. -/
inductive PolicyError where
  /-- The cache does not hold grants on this type of resource. -/
  | unsupportedType (resourceType : String)
  /-- The cache has no current entry for this subject. -/
  | notCached (subject : String)
  /-- The text is no grant. -/
  | invalidGrant (text : String)
  /-- The caller lacks the grant that the operation needs. -/
  | denied
  /-- The source of grants is down. -/
  | unavailable (reason : String)
  /-- The request to the source of grants failed. -/
  | requestFailed (reason : String)
  deriving DecidableEq

namespace PolicyError

def message : PolicyError → String
  | unsupportedType t => "unsupported resource type: " ++ t
  | notCached s => "subject not cached: " ++ s
  | invalidGrant t => "invalid policy: " ++ t
  | denied => "insufficient permission"
  | unavailable r => "policy source unavailable: " ++ r
  | requestFailed r => "policy source request failed: " ++ r

/-- An update that a cache has no use for is no failure. -/
def isBenign : PolicyError → Bool
  | unsupportedType _ => true
  | notCached _ => true
  | _ => false

/-- A failure that may be over at the next attempt. -/
def isTransient : PolicyError → Bool
  | unavailable _ => true
  | requestFailed _ => true
  | _ => false

end PolicyError

end Marketplace
