import Marketplace.Market.Operation

/-!
# Payments

Wallets and the ledger of what went into them and out of them. An order is charged once: the first
outcome is recorded, and asking again gives that outcome. A charge has to leave something in the
wallet.
-/

namespace Marketplace

/-- The money of an account. -/
structure Wallet where
  account : AccountId
  balance : Money
  updatedAt : Instant
  deriving DecidableEq

namespace Wallet

def toJson (w : Wallet) : Json :=
  .record [("account_id", w.account.toJson), ("balance", w.balance.toJson),
    ("updated_at", w.updatedAt.toJson)]

instance : ToJson Wallet := ⟨toJson⟩

end Wallet

/-- An entry of the ledger. -/
structure Transaction where
  id : TransactionId
  amount : Money
  madeBy : AccountId
  isCredit : Bool
  /-- The order that a debit was taken for. -/
  order : Option OrderId
  createdAt : Instant
  deriving DecidableEq

namespace Transaction

instance : Sortable Transaction where
  compareBy
    | "created_at" => some fun a b => compare a.createdAt b.createdAt
    | "updated_at" => some fun a b => compare a.createdAt b.createdAt
    | "amount" => some fun a b => compare a.amount b.amount
    | _ => none

/-- The order in JSON, if there is one. -/
def orderField (t : Transaction) : List (String × Json) :=
  match t.order with
  | some o => [("order_id", o.toJson)]
  | none => []

def toJson (t : Transaction) : Json :=
  .record ([("id", t.id.toJson), ("amount", t.amount.toJson), ("made_by", t.madeBy.toJson),
    ("is_credit", .bool t.isCredit)] ++ t.orderField ++ [("created_at", t.createdAt.toJson)])

instance : ToJson Transaction := ⟨toJson⟩

/-- Money that comes in. -/
def credit (stamp : Stamp) (account : AccountId) (amount : Money) : Transaction :=
  ⟨⟨stamp.id⟩, amount, account, true, none, stamp.time⟩

/-- Money that goes out for an order. -/
def debit (stamp : Stamp) (account : AccountId) (amount : Money) (order : OrderId) : Transaction :=
  ⟨⟨stamp.id⟩, amount, account, false, some order, stamp.time⟩

end Transaction

/-- The outcome of charging an order. -/
inductive Debit where
  | approved (entry : Transaction)
  | insufficientFunds (balance : Money)
  | noWallet
  /-- The charge was not positive. -/
  | invalidAmount (amount : Money)
  deriving DecidableEq

namespace Debit

def isApproved : Debit → Bool
  | approved _ => true
  | _ => false

def toJson : Debit → Json
  | approved entry => .record [("approved", entry.toJson)]
  | insufficientFunds balance => .record [("insufficient_funds", balance.toJson)]
  | noWallet => .text "no_wallet"
  | invalidAmount amount => .record [("invalid_amount", amount.toJson)]

end Debit

/-- Wallets, the ledger in the order of its entries, and the outcome of every charge. -/
structure PaymentStore where
  wallets : Table AccountId Wallet
  ledger : List Transaction
  debits : Table OrderId Debit
  isDown : Bool

namespace PaymentStore

def empty : PaymentStore := ⟨.empty, [], .empty, false⟩

instance : Inhabited PaymentStore := ⟨empty⟩

/-- Whether the store answers. -/
def check (s : PaymentStore) : Except ServiceError Unit :=
  if s.isDown then .error (.storeUnavailable "payment store") else .ok ()

/-- Opens a wallet; an account that has one keeps it as it is. -/
def openWallet (account : AccountId) (balance : Money) (time : Instant) (s : PaymentStore) :
    Except ServiceError (Wallet × PaymentStore) := do
  s.check
  match s.wallets.get? account with
  | some w => return (w, s)
  | none =>
    let w : Wallet := ⟨account, balance, time⟩
    return (w, { s with wallets := s.wallets.put account w })

def wallet (account : AccountId) (s : PaymentStore) : Except ServiceError (Option Wallet) := do
  s.check
  return s.wallets.get? account

/-- The balance after a charge, if it may be taken: some money has to be left. -/
def afterCharge? (balance amount : Money) : Option Money :=
  match balance.sub? amount with
  | some rest => if rest.isPositive then some rest else none
  | none => none

/-- Records the outcome of charging an order. -/
def record (order : OrderId) (outcome : Debit) (s : PaymentStore) : Debit × PaymentStore :=
  (outcome, { s with debits := s.debits.put order outcome })

/-- Charges an order for the first time. The wallet and the ledger change together. -/
def chargeNew (stamp : Stamp) (account : AccountId) (order : OrderId) (amount : Money)
    (s : PaymentStore) : Debit × PaymentStore :=
  if !amount.isPositive then s.record order (.invalidAmount amount)
  else
    match s.wallets.get? account with
    | none => s.record order .noWallet
    | some w =>
      match afterCharge? w.balance amount with
      | none => s.record order (.insufficientFunds w.balance)
      | some rest =>
        let entry := Transaction.debit stamp account amount order
        let w := { w with balance := rest, updatedAt := stamp.time }
        record order (.approved entry) { s with
          wallets := s.wallets.put account w
          ledger := s.ledger ++ [entry] }

/-- Charges an order, or answers what came of it before. -/
def charge (stamp : Stamp) (account : AccountId) (order : OrderId) (amount : Money)
    (s : PaymentStore) : Except ServiceError (Debit × PaymentStore) := do
  s.check
  match s.debits.get? order with
  | some outcome => return (outcome, s)
  | none => return s.chargeNew stamp account order amount

/-- Adds money to a wallet. -/
def credit (stamp : Stamp) (account : AccountId) (amount : Money) (s : PaymentStore) :
    Except ServiceError (Transaction × PaymentStore) := do
  s.check
  match s.wallets.get? account with
  | none => throw (.notFound .wallet (toString account))
  | some w =>
    match w.balance.add? amount with
    | none => throw (.invalid ("recharge of " ++ amount.text ++ " exceeds the wallet limit"))
    | some balance =>
      let entry := Transaction.credit stamp account amount
      return (entry, { s with
        wallets := s.wallets.put account { w with balance := balance, updatedAt := stamp.time }
        ledger := s.ledger ++ [entry] })

/-- The page of the entries that a filter lets through. -/
def list (f : ResourceFilter) (q : PageQuery) (s : PaymentStore) :
    Except ServiceError (List Transaction) := do
  s.check
  return q.applyVisible f (fun t => toString t.id) s.ledger

end PaymentStore

/-! ## Operations -/

namespace Payments

/-- What it takes to recharge a wallet. -/
def rechargePermissions : List Permission := [⟨Resource.transactions, Action.post, wildcard⟩]

/-- Adds money to the caller's wallet. Every call is a credit of its own. -/
def recharge (account : AccountId) (amount : Money) : Operation PaymentStore Transaction :=
  fun stamp s => do
    if !amount.isPositive then throw (.invalid ("invalid amount: " ++ amount.text))
    let (entry, s) ← s.credit stamp account amount
    return {
      store := s
      answer := entry
      news := [.grant account.subject Resource.transactions (toString entry.id) Action.get]
      counts := [] }

/-- Opens the wallet of a new account; a customer may recharge it. -/
def greet (initial : Money) (account : AccountId) (role : Role) : Operation PaymentStore Unit :=
  fun stamp s => do
    let (_, s) ← s.openWallet account initial stamp.time
    let news := match role with
      | .customer => [.grant account.subject Resource.transactions wildcard Action.post]
      | _ => []
    return { store := s, answer := (), news, counts := [] }

/-- What is announced about a charge: the buyer may look at the entry, and how the payment went. -/
def report (reserved : ProductReserved) (outcome : Debit) : List Payload :=
  match outcome with
  | .approved entry =>
    [.grant reserved.account.subject Resource.transactions (toString entry.id) Action.get,
      .payment ⟨reserved.order, reserved.account, .successful⟩]
  | _ => [.payment ⟨reserved.order, reserved.account, .failed⟩]

/-- Charges the buyer of an order whose stock is held. A refused charge is an outcome, no error. -/
def charge (reserved : ProductReserved) : Operation PaymentStore Unit := fun stamp s => do
  let (outcome, s) ← s.charge stamp reserved.account reserved.order reserved.payable
  return {
    store := s
    answer := ()
    news := report reserved outcome
    counts := [(.charge outcome.isApproved, 1)] }

/-- The payment service opens wallets with some initial balance and charges orders. -/
def participant (initial : Money) : Participant PaymentStore where
  service := .payments
  guards := [Resource.transactions]
  topics := [.accountCreated, .policyUpdated, .productReserved]
  react
    | .accountCreated account role => some (.perform (greet initial account role))
    | .policyUpdated method target => some (.patch method target)
    | .productReserved reserved => some (.perform (charge reserved))
    | _ => none

end Payments

end Marketplace
