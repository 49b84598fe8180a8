import Marketplace.Metrics
import Marketplace.Policy.Cache
import Marketplace.Policy.Enforcer

/-!
# Permission checks through a cache

The store of grants that a service asks: its cache, filled from a source on a miss. Hits and misses
are counted.
-/

namespace Marketplace

/-- A cache with the counts of its hits and misses. -/
structure CountedCache where
  cache : GrantCache
  counts : Counts

/-- The grants of subjects, by way of a cache in front of a source, at one moment. -/
def GrantStore.cached (settings : CacheSettings) (now : Nat) (source : String → GrantSource) :
    GrantStore CountedCache where
  grantsOf subject s :=
    let l := s.cache.lookup settings now (source subject) subject
    (l.answer, ⟨l.cache, s.counts ++ [(if l.hit then .cacheHit else .cacheMiss, 1)]⟩)

end Marketplace
