import Marketplace.Json.Vocabulary

/-!
# What events say

The nine events of the marketplace and what each of them carries. The name of an event tells which
payload to expect; `Topic.readPayload` reads it, `Payload.toJson` writes it.
-/

namespace Marketplace

open Json

/-- How the charge for an order went. -/
inductive PaymentStatus where
  | successful
  | failed
  deriving DecidableEq

namespace PaymentStatus

def name : PaymentStatus → String
  | successful => "payment_successful"
  | failed => "payment_failed"

def all : List PaymentStatus := [successful, failed]

def ofName? (s : String) : Option PaymentStatus := all.find? fun v => v.name = s

def toJson (s : PaymentStatus) : Json := .text s.name

instance : ToJson PaymentStatus := ⟨toJson⟩

def read : Reader PaymentStatus := readName ofName?

theorem ofName?_name (s : PaymentStatus) : ofName? s.name = some s := by
  cases s <;> simp [ofName?, all, name]

end PaymentStatus

/-- An order that asks for stock. -/
structure OrderCreated where
  order : OrderId
  status : String
  account : AccountId
  product : ProductId
  quantity : UInt32
  deriving DecidableEq

/-- Stock is held for an order, and its buyer owes the price. -/
structure ProductReserved where
  order : OrderId
  account : AccountId
  payable : Money
  deriving DecidableEq

/-- No stock could be held for an order. -/
structure ReservationFailed where
  order : OrderId
  reason : String
  deriving DecidableEq

/-- The buyer of an order was charged, or could not be. -/
structure PaymentProcessed where
  order : OrderId
  account : AccountId
  status : PaymentStatus
  deriving DecidableEq

/-- What an event carries. -/
inductive Payload where
  | accountCreated (account : AccountId) (role : Role)
  | accountDeleted (account : AccountId)
  /-- A request to grant. -/
  | upsertPolicy (target : Grant)
  /-- A request to revoke. -/
  | removePolicy (target : Grant)
  /-- A grant was given or revoked. -/
  | policyUpdated (method : PolicyMethod) (target : Grant)
  | orderCreated (order : OrderCreated)
  | productReserved (reserved : ProductReserved)
  | reservationFailed (failed : ReservationFailed)
  | payment (payment : PaymentProcessed)
  deriving DecidableEq

/-- The kinds of event. -/
inductive Topic where
  | accountCreated
  | accountDeleted
  | upsertPolicy
  | removePolicy
  | policyUpdated
  | orderCreated
  | productReserved
  | reservationFailed
  | payment
  deriving DecidableEq

namespace Topic

def all : List Topic :=
  [accountCreated, accountDeleted, upsertPolicy, removePolicy, policyUpdated, orderCreated,
    productReserved, reservationFailed, payment]

/-- The name of an event of this kind. -/
def name : Topic → String
  | accountCreated => "EventAccountCreated"
  | accountDeleted => "EventAccountDeleted"
  | upsertPolicy => "EventUpsertPolicy"
  | removePolicy => "EventRemovePolicy"
  | policyUpdated => "EventPolicyUpdated"
  | orderCreated => "EventOrderCreated"
  | productReserved => "EventProductReserved"
  | reservationFailed => "EventErrReservingProduct"
  | payment => "EventPayment"

/-- The kind in one word. -/
def label : Topic → String
  | accountCreated => "AccountCreated"
  | accountDeleted => "AccountDeleted"
  | upsertPolicy => "UpsertPolicy"
  | removePolicy => "RemovePolicy"
  | policyUpdated => "PolicyUpdated"
  | orderCreated => "OrderCreated"
  | productReserved => "ProductReserved"
  | reservationFailed => "ReservationFailed"
  | payment => "Payment"

/-- The service in whose name events of this kind are addressed. -/
def owner : Topic → Service
  | accountCreated => .identity
  | accountDeleted => .identity
  | upsertPolicy => .authorization
  | removePolicy => .authorization
  | policyUpdated => .authorization
  | orderCreated => .orders
  | productReserved => .inventory
  | reservationFailed => .inventory
  | payment => .payments

/-- The address that events of this kind are sent to. -/
def subject (t : Topic) : String := t.owner.name ++ "." ++ t.name

def ofName? (s : String) : Option Topic := all.find? fun t => t.name = s

theorem ofName?_name (t : Topic) : ofName? t.name = some t := by
  cases t <;> simp [ofName?, all, name]

end Topic

namespace Payload

/-- The kind of event that carries a payload. -/
def topic : Payload → Topic
  | accountCreated .. => .accountCreated
  | accountDeleted .. => .accountDeleted
  | upsertPolicy .. => .upsertPolicy
  | removePolicy .. => .removePolicy
  | policyUpdated .. => .policyUpdated
  | orderCreated .. => .orderCreated
  | productReserved .. => .productReserved
  | reservationFailed .. => .reservationFailed
  | payment .. => .payment

def toJson : Payload → Json
  | accountCreated account role =>
    .record [("accnt_id", account.toJson), ("role", role.toJson)]
  | accountDeleted account => .record [("accnt_id", account.toJson)]
  | upsertPolicy target => target.toJson
  | removePolicy target => target.toJson
  | policyUpdated method target => .record (("method", method.toJson) :: target.fieldsJson)
  | orderCreated o =>
    .record [("order_id", o.order.toJson), ("order_status", .text o.status),
      ("account_id", o.account.toJson), ("product_id", o.product.toJson),
      ("quantity", .ofNat o.quantity.toNat)]
  | productReserved r =>
    .record [("order_id", r.order.toJson), ("account_id", r.account.toJson),
      ("payable", r.payable.toJson)]
  | reservationFailed f => .record [("order_id", f.order.toJson), ("reason", .text f.reason)]
  | payment p =>
    .record [("order_id", p.order.toJson), ("account_id", p.account.toJson),
      ("status", p.status.toJson)]

instance : ToJson Payload := ⟨toJson⟩

end Payload

namespace Topic

/-- Reads the payload of an event of this kind. -/
def readPayload : Topic → Reader Payload
  | accountCreated, v => do
    let seen ← readFields [field "accnt_id" AccountId.read, field "role" Role.read] v
    return .accountCreated (← required "accnt_id" AccountId.read seen)
      (← required "role" Role.read seen)
  | accountDeleted, v => do
    let seen ← readFields [field "accnt_id" AccountId.read] v
    return .accountDeleted (← required "accnt_id" AccountId.read seen)
  | upsertPolicy, v => do return .upsertPolicy (← Grant.read v)
  | removePolicy, v => do return .removePolicy (← Grant.read v)
  | policyUpdated, .record fields => do
    let seen ← readFields (field "method" PolicyMethod.read :: Grant.shape) (.record fields)
    return .policyUpdated (← required "method" PolicyMethod.read seen) (← Grant.ofFields seen)
  | policyUpdated, v => .error (wrongKind v)
  | orderCreated, v => do
    let seen ← readFields
      [field "order_id" (Id.read : Reader OrderId), field "order_status" readText,
        field "account_id" AccountId.read, field "product_id" (Id.read : Reader ProductId),
        field "quantity" readUInt32] v
    return .orderCreated ⟨← required "order_id" Id.read seen, ← required "order_status" readText seen,
      ← required "account_id" AccountId.read seen, ← required "product_id" Id.read seen,
      ← required "quantity" readUInt32 seen⟩
  | productReserved, v => do
    let seen ← readFields
      [field "order_id" (Id.read : Reader OrderId), field "account_id" AccountId.read,
        field "payable" Money.read] v
    return .productReserved ⟨← required "order_id" Id.read seen,
      ← required "account_id" AccountId.read seen, ← required "payable" Money.read seen⟩
  | reservationFailed, v => do
    let seen ← readFields
      [field "order_id" (Id.read : Reader OrderId), field "reason" readText] v
    return .reservationFailed ⟨← required "order_id" Id.read seen,
      ← Json.optional "reason" readText "" seen⟩
  | payment, v => do
    let seen ← readFields
      [field "order_id" (Id.read : Reader OrderId), field "account_id" AccountId.read,
        field "status" PaymentStatus.read] v
    return .payment ⟨← required "order_id" Id.read seen,
      ← required "account_id" AccountId.read seen, ← required "status" PaymentStatus.read seen⟩

end Topic

end Marketplace
