import Marketplace.Time.Timestamp
import Marketplace.Uuid

/-!
# Clock and fresh identifiers

A supply hands out the moments that a program reads off its clock and the identifiers that it
makes. Every reading is later than the one before, and identifiers increase in the order in which
they are handed out.
-/

namespace Marketplace

/-- A moment, in nanoseconds since the start of 1970. -/
structure Instant where
  nanos : Int
  deriving DecidableEq, Inhabited

namespace Instant

instance : Ord Instant := ⟨fun a b => compare a.nanos b.nanos⟩

/-- The moment a number of seconds after the start of 1970. -/
def ofSeconds (n : Int) : Instant := ⟨n * 1000000000⟩

def timestamp (t : Instant) : Time.Timestamp := .ofEpochNanos t.nanos

end Instant

/-- What is left of a clock and a source of identifiers. -/
structure Supply where
  /-- The last reading of the clock. -/
  clock : Instant
  /-- How many identifiers were handed out. -/
  minted : Nat

namespace Supply

/-- The identifier handed out after `n` others: version 4, with the number in front. -/
def identifier (n : Nat) : Uuid := .ofNat (n * Nat.pow 2 80 + 0x4c1e9d7a35f0826b4e17)

/-- Reads the clock. -/
def now (s : Supply) : Instant × Supply :=
  let t : Instant := ⟨s.clock.nanos + 1⟩
  (t, { s with clock := t })

/-- Hands out an identifier. -/
def fresh (s : Supply) : Uuid × Supply :=
  (identifier s.minted, { s with minted := s.minted + 1 })

end Supply

/-- What an operation uses up of a supply: one identifier and one reading of the clock. -/
structure Stamp where
  id : Uuid
  time : Instant

/-- Takes an identifier and a reading. -/
def Supply.stamp (s : Supply) : Stamp × Supply :=
  let (id, s) := s.fresh
  let (t, s) := s.now
  (⟨id, t⟩, s)

end Marketplace
