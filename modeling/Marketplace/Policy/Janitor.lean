import Marketplace.Policy.Cache

/-!
# Sweeping a cache as time passes

A cache on a clock that moves in leaps. A sweeper plans its first sweep one period ahead and every
other one a period after the one before. Whoever is due within a leap sweeps at the end of it, once.
-/

namespace Marketplace

/-- A cache, the time, and when each of its sweepers is due. -/
structure TimedCache where
  cache : GrantCache
  now : Nat
  due : List Nat

namespace TimedCache

def empty : TimedCache := ⟨.empty, 0, []⟩

/-- Sets another sweeper to work; without a period there is nothing for it to do. -/
def startSweeping (settings : CacheSettings) (c : TimedCache) : TimedCache :=
  if settings.sweepPeriod = 0 then c
  else { c with due := c.due ++ [c.now + settings.sweepPeriod] }

/-- When a sweeper is due again after a moment: whole periods later, or as before if it is not due
yet. -/
def nextDue (period moment due : Nat) : Nat :=
  if due ≤ moment then due + ((moment - due) / period + 1) * period else due

/-- Lets time pass. -/
def pass (settings : CacheSettings) (duration : Nat) (c : TimedCache) : TimedCache :=
  let moment := c.now + duration
  { cache := if c.due.any fun t => t ≤ moment then c.cache.sweep moment else c.cache
    now := moment
    due := c.due.map (nextDue settings.sweepPeriod moment) }

end TimedCache

end Marketplace
