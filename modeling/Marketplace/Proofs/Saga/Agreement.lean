import Marketplace.Proofs.Saga.Traffic

/-!
# Agreement on orders

The three services agree on every order, at every moment of every run: however messages are
delayed, reordered and repeated, and wherever stores and announcements fail. An order is paid or
failed only by the outcome of its charge, out of stock only by a refusal; a hold ends only by the
outcome of the charge; and an order is charged only while its stock is or was held.

## Results

* `Records.agree`: what the invariant says about one order, without the announcements.
* `orders_agree`: the same in every run.
-/

namespace Marketplace

namespace Saga

open Relation

/-! ## The three records of an order -/

/-- The status of an order, if it is known. -/
def statusOf (m : Market) (id : OrderId) : Option OrderStatus :=
  (m.orders.store.orders.get? id).map Order.status

/-- What became of its request for stock. -/
def holdOf (m : Market) (id : OrderId) : Option Hold := m.inventory.store.holds.get? id

/-- The outcome of its charge. -/
def debitOf (m : Market) (id : OrderId) : Option Debit := m.payments.store.debits.get? id

/-- The stock of an order is or was withheld. -/
def IsGranted (m : Market) (id : OrderId) : Prop :=
  holdOf m id = some .held ∨ holdOf m id = some .consumed ∨ holdOf m id = some .returned

/-- The records of an order agree. -/
structure OrderAgrees (m : Market) (id : OrderId) : Prop where
  waiting : statusOf m id = some .paymentPending → IsGranted m id
  paid : statusOf m id = some .paid → ∃ x, debitOf m id = some x ∧ x.isApproved = true
  failed : statusOf m id = some .failed → ∃ x, debitOf m id = some x ∧ x.isApproved = false
  outOfStock : statusOf m id = some .productOutOfStock →
    ∃ reason, holdOf m id = some (.refused reason)
  /-- Nothing cancels an order. -/
  canceled : statusOf m id ≠ some .canceled
  consumed : holdOf m id = some .consumed → ∃ x, debitOf m id = some x ∧ x.isApproved = true
  returned : holdOf m id = some .returned → ∃ x, debitOf m id = some x ∧ x.isApproved = false
  /-- An open hold, and no other, has a record. -/
  record : (m.inventory.store.reserved.get? id).isSome ↔ holdOf m id = some .held
  charged : ∀ x, debitOf m id = some x → IsGranted m id

/-- A hold of stock that was granted is open or has ended. -/
theorem Granted.cases {m : Market} {said : List Payload} {id : OrderId}
    (h : Granted (recordsOf m said) id) : IsGranted m id := by
  obtain ⟨x, hx, granted⟩ := h
  cases x with
  | held => exact .inl hx
  | refused reason => cases granted
  | consumed => exact .inr (.inl hx)
  | returned => exact .inr (.inr hx)

/-- An order that was charged had its stock granted. -/
theorem Agreement.granted {r : Records} (h : Agreement r) {id : OrderId} {x : Debit}
    (hx : r.payments.debits.get? id = some x) : Granted r id := by
  obtain ⟨p, hp, rfl⟩ := h.charged id x hx
  exact h.backed _ hp

theorem Agreement.orderAgrees {m : Market} {said : List Payload}
    (h : Agreement (recordsOf m said)) (id : OrderId) : OrderAgrees m id := by
  have status : ∀ {x}, statusOf m id = some x → StatusCause (recordsOf m said) id x := by
    intro x hx
    obtain ⟨o, ho, rfl⟩ := Option.map_eq_some_iff.1 hx
    exact h.moved id o ho
  have granted : StatusCause (recordsOf m said) id .paymentPending → IsGranted m id :=
    fun hg => hg.cases
  exact ⟨fun hx => granted (status hx), status, status, status, status, h.settled id .consumed,
    h.settled id .returned, h.record id, fun x hx => (h.granted hx).cases⟩

variable {settings : MarketSettings} {outlet : Outlet} {supply : Supply} {t : Traffic}

/-- **The services agree on every order**, in every run from empty stores. -/
theorem orders_agree (run : ReflTransGen Traffic.Step (.start settings outlet supply) t)
    (id : OrderId) : OrderAgrees t.market id :=
  (Traffic.inv_of_run run).agreement.orderAgrees id

/-! ## A run with a failed announcement -/

/-- An empty market in which wallets are opened with ten units. -/
def sampleStart : Traffic :=
  .start ⟨1000, 1000, .ofUnits 10, true⟩ (.new Bus.standardSettings) ⟨⟨0⟩, 0⟩

/-- The account of whoever calls. -/
def sampleAccount : AccountId := ⟨7⟩

/-- The account is granted all that it needs, and the ninth message will not be published. -/
def sampleMarket : Market :=
  let all := fun (type : String) => (⟨sampleAccount.subject, type, Action.any, wildcard⟩ : Grant)
  { sampleStart.market with
    authorization.store.grants := ((GrantBook.empty.grants.put (all Resource.merchants) ()).put
      (all Resource.products) ()).put (all Resource.orders) ()
    outlet.bus.failOn := some 9 }

/-- One call of the account. -/
def sampleCall (c : ClientCall) (t : Traffic) : Traffic :=
  t.publish (c.after "request" ⟨sampleAccount, "", .seller⟩ t.market)
    (c.announced "request" ⟨sampleAccount, "", .seller⟩ t.market) t.pending

/-- The news that the account was opened. -/
def sampleOpening : Event :=
  ⟨⟨envelopeVersion, "", (⟨0⟩ : Instant).timestamp, "", .ofNat 0, ""⟩,
    .accountCreated sampleAccount .seller⟩

/-- A shop with ten mugs, three of which are ordered, and a wallet. -/
def sampleTraffic : Traffic :=
  let t : Traffic := { sampleStart with market := sampleMarket }
  let t := sampleCall (.createMerchant "shop") t
  let t := sampleCall (.createProduct ⟨Supply.identifier 0⟩ "mug" (.ofUnits 2) 10) t
  let t := sampleCall (.placeOrder ⟨Supply.identifier 3⟩ 3) t
  t.publish (t.market.deliver .payments sampleOpening).2
    (t.market.handled .payments sampleOpening) t.pending

/-- The order of the mugs. -/
def sampleOrder : OrderId := ⟨Supply.identifier 5⟩

theorem sampleTraffic_run : ReflTransGen Traffic.Step sampleStart sampleTraffic := by
  refine .tail (.tail (.tail (.tail (.single ?_) (.call _ _ _ _)) (.call _ _ _ _))
    (.call _ _ _ _)) (.arrive .payments (by decide) sampleOpening _ (.inr (.inl rfl)))
  exact .surroundings sampleMarket sampleStart ⟨rfl, ⟨false, rfl⟩, ⟨false, rfl⟩, ⟨false, rfl⟩⟩

/-- The buyer is charged and the announcement fails: the hold is still open. -/
theorem orders_agree_of_sampleTraffic :
    ReflTransGen Traffic.Step sampleStart (sampleTraffic.attempts 3) ∧
    OrderAgrees (sampleTraffic.attempts 3).market sampleOrder ∧
    ((debitOf (sampleTraffic.attempts 3).market sampleOrder).map Debit.isApproved = some true ∧
      holdOf (sampleTraffic.attempts 3).market sampleOrder = some .held) :=
  ⟨sampleTraffic_run.trans (Traffic.attempts_run 3 _),
    orders_agree (sampleTraffic_run.trans (Traffic.attempts_run 3 _)) sampleOrder,
    by decide +kernel⟩

end Saga

end Marketplace
