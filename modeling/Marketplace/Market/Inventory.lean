import Marketplace.Market.Operation

/-!
# Inventory

Merchants, their products, and the stock that is held for orders. An order gets one answer to its
request for stock, however often it asks: the hold that it was given, or the refusal, or, once the
payment is settled, nothing. A hold ends with its stock consumed or returned.
-/

namespace Marketplace

/-! ## Merchants and products -/

/-- A merchant. -/
structure Merchant where
  id : MerchantId
  name : String
  owner : AccountId
  createdAt : Instant
  deriving DecidableEq

namespace Merchant

instance : Sortable Merchant where
  compareBy
    | "created_at" => some fun a b => compare a.createdAt b.createdAt
    | "updated_at" => some fun a b => compare a.createdAt b.createdAt
    | "name" => some fun a b => compare a.name b.name
    | _ => none

def toJson (m : Merchant) : Json :=
  .record [("id", m.id.toJson), ("name", .text m.name), ("owner", m.owner.toJson),
    ("created_at", m.createdAt.toJson)]

instance : ToJson Merchant := ⟨toJson⟩

end Merchant

/-- A product and what is left of it. -/
structure Product where
  id : ProductId
  merchant : MerchantId
  name : String
  price : Money
  quantity : UInt32
  createdAt : Instant
  deriving DecidableEq

namespace Product

/-- The quantity up to which stock counts as low. -/
def lowStock : UInt32 := 5

def isLow (p : Product) : Bool := p.quantity ≤ lowStock

instance : Sortable Product where
  compareBy
    | "created_at" => some fun a b => compare a.createdAt b.createdAt
    | "updated_at" => some fun a b => compare a.createdAt b.createdAt
    | "name" => some fun a b => compare a.name b.name
    | "price" => some fun a b => compare a.price b.price
    | "quantity" => some fun a b => compare a.quantity b.quantity
    | _ => none

def toJson (p : Product) : Json :=
  .record [("id", p.id.toJson), ("merchant_id", p.merchant.toJson), ("name", .text p.name),
    ("price", p.price.toJson), ("quantity", .ofNat p.quantity.toNat),
    ("created_at", p.createdAt.toJson)]

instance : ToJson Product := ⟨toJson⟩

end Product

/-! ## Holds -/

/-- Stock that is withheld for an order, and its price. -/
structure Reserved where
  order : OrderId
  product : ProductId
  quantity : UInt32
  payable : Money
  deriving DecidableEq

namespace Reserved

def toJson (r : Reserved) : Json :=
  .record [("order_id", r.order.toJson), ("product_id", r.product.toJson),
    ("quantity", .ofNat r.quantity.toNat), ("payable", r.payable.toJson)]

instance : ToJson Reserved := ⟨toJson⟩

end Reserved

/-- Why no stock was held. -/
inductive Refusal where
  | unknownProduct
  | outOfStock (available requested : UInt32)
  /-- The price of the order is no amount of money. -/
  | priceOutOfRange
  deriving DecidableEq

/-- The reason that is announced. -/
def Refusal.text : Refusal → String
  | .unknownProduct => "product not found"
  | .outOfStock available requested =>
    "out of stock: " ++ String.ofList (Text.decimal available.toNat) ++ " available, " ++
      String.ofList (Text.decimal requested.toNat) ++ " requested"
  | .priceOutOfRange => "order total out of range"

/-- What became of the request of an order for stock. -/
inductive Hold where
  | held
  | refused (reason : Refusal)
  /-- The order was paid and has its stock. -/
  | consumed
  /-- The order was not paid and its stock went back. -/
  | returned
  deriving DecidableEq

/-- The answer to a request for stock. -/
inductive Reservation where
  | reserved (reserved : Reserved)
  | refused (reason : Refusal)
  /-- The hold was there and has ended. -/
  | settled
  deriving DecidableEq

def Reservation.toJson : Reservation → Json
  | .reserved r => .record [("reserved", r.toJson)]
  | .refused reason => .record [("rejected", .text reason.text)]
  | .settled => .text "settled"

instance : ToJson Reservation := ⟨Reservation.toJson⟩

/-! ## The store -/

/-- Merchants, products and holds. -/
structure InventoryStore where
  merchants : Table MerchantId Merchant
  products : Table ProductId Product
  /-- The records of the holds that are open. -/
  reserved : Table OrderId Reserved
  holds : Table OrderId Hold
  isDown : Bool

namespace InventoryStore

def empty : InventoryStore := ⟨.empty, .empty, .empty, .empty, false⟩

instance : Inhabited InventoryStore := ⟨empty⟩

/-- Whether the store answers. -/
def check (s : InventoryStore) : Except ServiceError Unit :=
  if s.isDown then .error (.storeUnavailable "inventory store") else .ok ()

/-- Adds a merchant whose name is not taken. -/
def createMerchant (m : Merchant) (s : InventoryStore) :
    Except ServiceError (Merchant × InventoryStore) := do
  s.check
  if s.merchants.values.any fun o => o.name == m.name then
    throw (.conflict ("merchant name taken: " ++ m.name))
  return (m, { s with merchants := s.merchants.put m.id m })

def merchant (id : MerchantId) (s : InventoryStore) : Except ServiceError (Option Merchant) := do
  s.check
  return s.merchants.get? id

/-- The page of the merchants that a filter lets through. -/
def listMerchants (f : ResourceFilter) (q : PageQuery) (s : InventoryStore) :
    Except ServiceError (List Merchant) := do
  s.check
  return q.applyVisible f (fun m => toString m.id) s.merchants.values

/-- Adds a product of a known merchant. -/
def createProduct (p : Product) (s : InventoryStore) :
    Except ServiceError (Product × InventoryStore) := do
  s.check
  if !s.merchants.contains p.merchant then throw (.notFound .merchant (toString p.merchant))
  return (p, { s with products := s.products.put p.id p })

def product (id : ProductId) (s : InventoryStore) : Except ServiceError (Option Product) := do
  s.check
  return s.products.get? id

/-- The page of the products that a filter lets through. -/
def listProducts (f : ResourceFilter) (q : PageQuery) (s : InventoryStore) :
    Except ServiceError (List Product) := do
  s.check
  return q.applyVisible f (fun p => toString p.id) s.products.values

/-- Refuses an order for good. -/
def refuse (order : OrderId) (reason : Refusal) (s : InventoryStore) :
    Reservation × InventoryStore :=
  (.refused reason, { s with holds := s.holds.put order (.refused reason) })

/-- Answers the first request of an order: all of the quantity asked for, or nothing. -/
def reserveNew (order : OrderId) (product : ProductId) (quantity : UInt32) (s : InventoryStore) :
    Reservation × InventoryStore :=
  match s.products.get? product with
  | none => s.refuse order .unknownProduct
  | some p =>
    if p.quantity < quantity then s.refuse order (.outOfStock p.quantity quantity)
    else
      match p.price.times? quantity with
      | none => s.refuse order .priceOutOfRange
      | some payable =>
        let r : Reserved := ⟨order, product, quantity, payable⟩
        (.reserved r, { s with
          products := s.products.put product { p with quantity := p.quantity - quantity }
          reserved := s.reserved.put order r
          holds := s.holds.put order .held })

/-- The answer to a request that was made before. -/
def repeated (order : OrderId) (s : InventoryStore) : Hold → Reservation
  | .held =>
    match s.reserved.get? order with
    | some r => .reserved r
    | none => .settled
  | .refused reason => .refused reason
  | .consumed => .settled
  | .returned => .settled

/-- Withholds stock for an order. Asking again gives the first answer and changes nothing. -/
def reserve (order : OrderId) (product : ProductId) (quantity : UInt32) (s : InventoryStore) :
    Except ServiceError (Reservation × InventoryStore) := do
  s.check
  match s.holds.get? order with
  | some hold => return (s.repeated order hold, s)
  | none => return s.reserveNew order product quantity

/-- Ends an open hold. -/
def settle (order : OrderId) (outcome : Hold) (s : InventoryStore) :
    Option Reserved × InventoryStore :=
  match s.reserved.get? order with
  | none => (none, s)
  | some r =>
    (some r, { s with
      reserved := s.reserved.erase order
      holds := s.holds.put order outcome })

/-- Ends an open hold; its stock is consumed. -/
def consume (order : OrderId) (s : InventoryStore) :
    Except ServiceError (Option Reserved × InventoryStore) := do
  s.check
  return s.settle order .consumed

/-- Puts stock back. -/
def restock (product : ProductId) (quantity : UInt32) (s : InventoryStore) : InventoryStore :=
  match s.products.get? product with
  | none => s
  | some p =>
    { s with products := s.products.put product { p with quantity := p.quantity + quantity } }

/-- Ends an open hold; its stock goes back to the product. -/
def giveBack (order : OrderId) (s : InventoryStore) :
    Except ServiceError (Option Reserved × InventoryStore) := do
  s.check
  match s.settle order .returned with
  | (none, s) => return (none, s)
  | (some r, s) => return (some r, s.restock r.product r.quantity)

/-- The record of an open hold. -/
def reservation (order : OrderId) (s : InventoryStore) :
    Except ServiceError (Option Reserved) := do
  s.check
  return s.reserved.get? order

end InventoryStore

/-! ## Operations -/

namespace Inventory

/-- What it takes to open a merchant. -/
def createMerchantPermissions : List Permission :=
  [⟨Resource.merchants, Action.post, wildcard⟩]

/-- Opens a merchant, which its owner then controls along with the right to add products. -/
def createMerchant (owner : AccountId) (name : String) : Operation InventoryStore Merchant :=
  fun stamp s => do
    if Text.isAllBlank name then throw (.invalid "merchant name is required")
    let (m, s) ← s.createMerchant ⟨⟨stamp.id⟩, Text.trim name, owner, stamp.time⟩
    return {
      store := s
      answer := m
      news := [.grant owner.subject Resource.merchants (toString m.id) Action.any,
        .grant owner.subject Resource.products wildcard Action.post]
      counts := [] }

/-- What it takes to add a product to a merchant. -/
def createProductPermissions (merchant : MerchantId) : List Permission :=
  [⟨Resource.products, Action.post, wildcard⟩,
    ⟨Resource.merchants, Action.put, toString merchant⟩]

/-- Adds a product, which whoever added it then controls. -/
def createProduct (owner : AccountId) (merchant : MerchantId) (name : String) (price : Money)
    (quantity : UInt32) : Operation InventoryStore Product := fun stamp s => do
  if Text.isAllBlank name then throw (.invalid "product name is required")
  if !price.isPositive then throw (.invalid ("invalid price: " ++ price.text))
  let (p, s) ← s.createProduct ⟨⟨stamp.id⟩, merchant, Text.trim name, price, quantity, stamp.time⟩
  return {
    store := s
    answer := p
    news := [.grant owner.subject Resource.products (toString p.id) Action.any]
    counts := [] }

/-- Customers may look at products, sellers may open merchants. -/
def welcome (account : AccountId) : Role → List Payload
  | .customer => [.grant account.subject Resource.products wildcard Action.get]
  | .seller => [.grant account.subject Resource.merchants wildcard Action.post]
  | .admin => []

/-- Asks for the grants that a new account starts with. -/
def greet (account : AccountId) (role : Role) : Operation InventoryStore Unit := fun _ s =>
  .ok { store := s, answer := (), news := welcome account role, counts := [] }

/-- What is announced and counted about a request for stock. -/
def report (order : OrderCreated) : Reservation → List Payload × Counts
  | .reserved r =>
    ([.productReserved ⟨order.order, order.account, r.payable⟩], [(.reservation true, 1)])
  | .refused reason =>
    ([.reservationFailed ⟨order.order, reason.text⟩], [(.reservation false, 1)])
  | .settled => ([], [])

/-- Holds stock for a new order and announces how that went. -/
def reserve (order : OrderCreated) : Operation InventoryStore Unit := fun _ s => do
  let (reservation, s) ← s.reserve order.order order.product order.quantity
  let (news, counts) := report order reservation
  return { store := s, answer := (), news, counts }

/-- Ends the hold of an order by the outcome of its payment. No open hold means that this has
happened before. -/
def close (payment : PaymentProcessed) : Operation InventoryStore Unit := fun _ s =>
  match payment.status with
  | .successful => do
    let (_, s) ← s.consume payment.order
    return { store := s, answer := (), news := [], counts := [] }
  | .failed => do
    let (released, s) ← s.giveBack payment.order
    let counts := if released.isSome then [(.stockReturned, 1)] else []
    return { store := s, answer := (), news := [], counts }

/-- The inventory service greets accounts, and follows orders and their payments. -/
def participant : Participant InventoryStore where
  service := .inventory
  guards := [Resource.merchants, Resource.products]
  topics := [.accountCreated, .policyUpdated, .orderCreated, .payment]
  react
    | .accountCreated account role => some (.perform (greet account role))
    | .policyUpdated method target => some (.patch method target)
    | .orderCreated order => some (.perform (reserve order))
    | .payment payment => some (.perform (close payment))
    | _ => none

end Inventory

end Marketplace
