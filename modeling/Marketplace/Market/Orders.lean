import Marketplace.Market.Operation
import Marketplace.Orders.Status

/-!
# Orders

Orders and the record of how they end. The service announces every new order and follows what the
others say about its stock and its payment; an order only ever moves forward.
-/

namespace Marketplace

/-- An order of one product. -/
structure Order where
  id : OrderId
  account : AccountId
  product : ProductId
  quantity : UInt32
  status : OrderStatus
  createdAt : Instant
  updatedAt : Instant
  deriving DecidableEq

namespace Order

instance : Sortable Order where
  compareBy
    | "created_at" => some fun a b => compare a.createdAt b.createdAt
    | "updated_at" => some fun a b => compare a.updatedAt b.updatedAt
    | "quantity" => some fun a b => compare a.quantity b.quantity
    | _ => none

def toJson (o : Order) : Json :=
  .record [("id", o.id.toJson), ("account_id", o.account.toJson),
    ("product_id", o.product.toJson), ("quantity", .ofNat o.quantity.toNat),
    ("status", o.status.toJson), ("created_at", o.createdAt.toJson),
    ("updated_at", o.updatedAt.toJson)]

instance : ToJson Order := ⟨toJson⟩

/-- A new order. -/
def new (stamp : Stamp) (account : AccountId) (product : ProductId) (quantity : UInt32) : Order :=
  ⟨⟨stamp.id⟩, account, product, quantity, .pending, stamp.time, stamp.time⟩

end Order

/-- What became of the wish to move an order. -/
inductive StatusChange where
  | applied (source target : OrderStatus)
  /-- The order is at that status or past it. -/
  | ignored (current : OrderStatus)
  deriving DecidableEq

def StatusChange.toJson : StatusChange → Json
  | .applied source target => .record [("applied", .list [source.toJson, target.toJson])]
  | .ignored current => .record [("ignored", current.toJson)]

instance : ToJson StatusChange := ⟨StatusChange.toJson⟩

/-- The orders, by identifier. -/
structure OrderStore where
  orders : Table OrderId Order
  isDown : Bool

namespace OrderStore

def empty : OrderStore := ⟨.empty, false⟩

instance : Inhabited OrderStore := ⟨empty⟩

/-- Whether the store answers. -/
def check (s : OrderStore) : Except ServiceError Unit :=
  if s.isDown then .error (.storeUnavailable "order store") else .ok ()

/-- Adds an order. -/
def create (o : Order) (s : OrderStore) : Except ServiceError (Order × OrderStore) := do
  s.check
  if s.orders.contains o.id then throw (.conflict ("order exists: " ++ toString o.id))
  return (o, { s with orders := s.orders.put o.id o })

def order (id : OrderId) (s : OrderStore) : Except ServiceError (Option Order) := do
  s.check
  return s.orders.get? id

/-- The page of the orders that a filter lets through. -/
def list (f : ResourceFilter) (q : PageQuery) (s : OrderStore) :
    Except ServiceError (List Order) := do
  s.check
  return q.applyVisible f (fun o => toString o.id) s.orders.values

/-- Moves an order forward, if it exists and is not that far. -/
def updateStatus (id : OrderId) (status : OrderStatus) (time : Instant) (s : OrderStore) :
    Except ServiceError (Option StatusChange × OrderStore) := do
  s.check
  match s.orders.get? id with
  | none => return (none, s)
  | some o =>
    if o.status.canMoveTo status then
      let moved := { o with status := status, updatedAt := time }
      return (some (.applied o.status status), { s with orders := s.orders.put id moved })
    else return (some (.ignored o.status), s)

end OrderStore

/-! ## Operations -/

namespace Orders

/-- What it takes to place an order. -/
def placePermissions : List Permission := [⟨Resource.orders, Action.post, wildcard⟩]

/-- Places an order, which its buyer may then look at and change. -/
def place (buyer : AccountId) (product : ProductId) (quantity : UInt32) :
    Operation OrderStore Order := fun stamp s => do
  if quantity = 0 then throw (.invalid "quantity must be greater than 0")
  let (o, s) ← s.create (.new stamp buyer product quantity)
  return {
    store := s
    answer := o
    news := [.orderCreated ⟨o.id, o.status.name, o.account, product, quantity⟩,
      .grant buyer.subject Resource.orders (toString o.id) Action.get,
      .grant buyer.subject Resource.orders (toString o.id) Action.put]
    counts := [(.orderPlaced, 1)] }

/-- Moves an order forward. -/
def move (id : OrderId) (status : OrderStatus) : Operation OrderStore Unit := fun stamp s => do
  match ← s.updateStatus id status stamp.time with
  | (none, _) => throw (.notFound .order (toString id))
  | (some (.applied _ target), s) =>
    return { store := s, answer := (), news := [], counts := [(.orderMoved target, 1)] }
  | (some (.ignored _), s) => return { store := s, answer := (), news := [], counts := [] }

/-- A customer may place orders. -/
def greet (account : AccountId) (role : Role) : Operation OrderStore Unit := fun _ s =>
  let news := match role with
    | .customer => [.grant account.subject Resource.orders wildcard Action.post]
    | _ => []
  .ok { store := s, answer := (), news, counts := [] }

/-- The status of an order after its payment. -/
def paymentStatus : PaymentStatus → OrderStatus
  | .successful => .paid
  | .failed => .failed

/-- The order service greets accounts and follows the reservation and the payment of orders. -/
def participant : Participant OrderStore where
  service := .orders
  guards := [Resource.orders]
  topics := [.accountCreated, .policyUpdated, .productReserved, .reservationFailed, .payment]
  react
    | .accountCreated account role => some (.perform (greet account role))
    | .policyUpdated method target => some (.patch method target)
    | .productReserved r => some (.perform (move r.order .paymentPending))
    | .reservationFailed f => some (.perform (move f.order .productOutOfStock))
    | .payment p => some (.perform (move p.order (paymentStatus p.status)))
    | _ => none

end Orders

end Marketplace
