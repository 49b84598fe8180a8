import Marketplace.Text.Numeral
import Marketplace.Uuid

/-!
# Identifiers

Accounts are numbered; orders, products, merchants and transactions carry a UUID. The UUIDs of
different kinds of thing have different types, so one cannot stand for another.
-/

namespace Marketplace

/-- A text that is no identifier of the kind asked for. -/
structure IdentifierError where
  text : String
  deriving DecidableEq

def IdentifierError.message (e : IdentifierError) : String := "invalid identifier: " ++ e.text

/-- The number of an account. -/
structure AccountId where
  number : UInt64
  deriving DecidableEq, Inhabited

namespace AccountId

instance : Ord AccountId := ⟨fun a b => compare a.number b.number⟩

/-- The account as the subject of a grant: its number in decimal. -/
def subject (a : AccountId) : String := String.ofList (Text.decimal a.number.toNat)

instance : ToString AccountId := ⟨subject⟩

/-- Reads a number of 64 bits, with or without a plus sign. -/
def parse (s : String) : Except IdentifierError AccountId :=
  match Text.unsigned? s with
  | some n => if n < UInt64.size then .ok ⟨UInt64.ofNat n⟩ else .error ⟨s⟩
  | none => .error ⟨s⟩

end AccountId

/-- The kinds of thing that carry a UUID. -/
inductive Kind where
  | order
  | product
  | merchant
  | transaction
  deriving DecidableEq

/-- The identifier of a thing of one kind. -/
structure Id (kind : Kind) where
  uuid : Uuid
  deriving DecidableEq, Inhabited

namespace Id

variable {kind : Kind}

instance : Ord (Id kind) := ⟨fun a b => compare a.uuid b.uuid⟩

instance : ToString (Id kind) := ⟨fun i => toString i.uuid⟩

/-- Reads a UUID in any of its forms. -/
def parse (s : String) : Except IdentifierError (Id kind) :=
  match Uuid.parse? s.toList with
  | some u => .ok ⟨u⟩
  | none => .error ⟨s⟩

end Id

abbrev OrderId := Id .order
abbrev ProductId := Id .product
abbrev MerchantId := Id .merchant
abbrev TransactionId := Id .transaction

end Marketplace
