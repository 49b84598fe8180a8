import Marketplace.Json.Reader

/-!
# The status of an order

Statuses have a rank, and an order only ever moves to a status of higher rank. So the first of the
final statuses that is asked for stays, however late or often other changes arrive.
-/

namespace Marketplace

inductive OrderStatus where
  | pending
  | paymentPending
  | paid
  | productOutOfStock
  | canceled
  | failed
  deriving DecidableEq

namespace OrderStatus

instance : Inhabited OrderStatus := ⟨pending⟩

def all : List OrderStatus := [pending, paymentPending, paid, productOutOfStock, canceled, failed]

def name : OrderStatus → String
  | pending => "pending"
  | paymentPending => "payment_pending"
  | paid => "paid"
  | productOutOfStock => "product_out_of_stock"
  | canceled => "canceled"
  | failed => "failed"

def ofName? (s : String) : Option OrderStatus := all.find? fun v => v.name = s

/-- How far an order is: not begun, waiting for the payment, or done. -/
def rank : OrderStatus → Nat
  | pending => 0
  | paymentPending => 1
  | paid => 2
  | productOutOfStock => 2
  | canceled => 2
  | failed => 2

/-- An order moves to higher ranks only. -/
def canMoveTo (s next : OrderStatus) : Bool := decide (s.rank < next.rank)

/-- Nothing follows a final status. -/
def isFinal (s : OrderStatus) : Bool := s.rank == 2

def toJson (s : OrderStatus) : Json := .text s.name

instance : ToJson OrderStatus := ⟨toJson⟩

def read : Json.Reader OrderStatus := Json.readName ofName?

theorem ofName?_name (s : OrderStatus) : ofName? s.name = some s := by
  cases s <;> simp [ofName?, all, name]

theorem not_canMoveTo_of_isFinal {s next : OrderStatus} (h : s.isFinal = true) :
    s.canMoveTo next = false := by
  cases s <;> cases next <;> simp_all [isFinal, canMoveTo, rank]

end OrderStatus

end Marketplace
