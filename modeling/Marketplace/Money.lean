import Marketplace.Text.Numeral

/-!
# Money

An amount is a signed number of cents in the range of a 64-bit word. The range is a field of the
type, so arithmetic is done in the integers and every operation says what happens outside of the
range: the checked operations answer nothing, `ofUnits` stops at the end of the range.
-/

namespace Marketplace

/-- An amount of cents that fits in a signed 64-bit word. -/
structure Money where
  cents : Int
  lower : -9223372036854775808 ≤ cents
  upper : cents ≤ 9223372036854775807
  deriving DecidableEq

namespace Money

/-- The amount of `n` cents, if it is in range. -/
def ofCents? (n : Int) : Option Money :=
  if h : -9223372036854775808 ≤ n ∧ n ≤ 9223372036854775807 then some ⟨n, h.1, h.2⟩ else none

/-- The amount in range nearest to `n` cents. -/
def nearest (n : Int) : Money :=
  if h : n < -9223372036854775808 then ⟨-9223372036854775808, by omega, by omega⟩
  else if h' : 9223372036854775807 < n then ⟨9223372036854775807, by omega, by omega⟩
  else ⟨n, by omega, by omega⟩

/-- No money. -/
def zero : Money := ⟨0, by omega, by omega⟩

instance : Inhabited Money := ⟨zero⟩

/-- The amount of a number of whole units, stopped at the end of the range. -/
def ofUnits (units : Int) : Money := nearest (units * 100)

def isPositive (m : Money) : Bool := decide (0 < m.cents)

def isZero (m : Money) : Bool := decide (m.cents = 0)

/-- The sum, if it is in range. -/
def add? (a b : Money) : Option Money := ofCents? (a.cents + b.cents)

/-- The difference, if it is in range. -/
def sub? (a b : Money) : Option Money := ofCents? (a.cents - b.cents)

/-- The price of `quantity` pieces, if it is in range. -/
def times? (a : Money) (quantity : UInt32) : Option Money :=
  ofCents? (a.cents * (quantity.toNat : Int))

/-- Amounts are ordered by their cents. -/
instance : Ord Money := ⟨fun a b => compare a.cents b.cents⟩

/-- An amount reads as units and two digits of cents, with a minus sign below zero. -/
def text (m : Money) : String :=
  let sign := if m.cents < 0 then ['-'] else []
  let size := m.cents.natAbs
  String.ofList (sign ++ Text.decimal (size / 100) ++ ['.'] ++ Text.lastDigits 2 (size % 100))

theorem ofCents?_eq_some {n : Int} {m : Money} : ofCents? n = some m ↔ m.cents = n := by
  unfold ofCents?
  constructor
  · intro h
    split at h
    · cases h; rfl
    · cases h
  · rintro rfl
    rw [dif_pos ⟨m.lower, m.upper⟩]

theorem ofCents?_cents (m : Money) : ofCents? m.cents = some m := ofCents?_eq_some.2 rfl

theorem add?_eq_some {a b c : Money} : a.add? b = some c ↔ c.cents = a.cents + b.cents :=
  ofCents?_eq_some

theorem sub?_eq_some {a b c : Money} : a.sub? b = some c ↔ c.cents = a.cents - b.cents :=
  ofCents?_eq_some

theorem times?_eq_some {a c : Money} {q : UInt32} :
    a.times? q = some c ↔ c.cents = a.cents * (q.toNat : Int) :=
  ofCents?_eq_some

end Money

end Marketplace
