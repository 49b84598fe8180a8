import Marketplace.Market.Inventory
import Marketplace.Market.Orders
import Marketplace.Market.Payments
import Marketplace.Proofs.Table

/-!
# The records of an order agree

Three services keep a record of an order: its status, the hold of its stock, and the outcome of its
charge. None of them sees the records of the others; all they share is what has been announced. So
the records are tied together through the announcements: what was announced stands in the records of
whoever said it, and every record was brought about by something that was said before.

## Results

* `Change.later`: records are never taken back, however they change.
* `Agreement.change` and `Agreement.say`: agreement is kept by every change that an announcement
  brings about, and by announcing what stands in the records.
-/

namespace Marketplace

/-- The stock of the order was withheld at some time. -/
def Hold.wasGranted : Hold → Bool
  | .refused _ => false
  | _ => true

namespace Saga

/-- The records of three services, and everything that has been announced. -/
structure Records where
  inventory : InventoryStore
  orders : OrderStore
  payments : PaymentStore
  said : List Payload

/-- No records, and nothing said. -/
def Records.start : Records := ⟨.empty, .empty, .empty, []⟩

/-! ## Agreement -/

/-- An order was charged, with or without success. -/
def Charged (r : Records) (id : OrderId) (approved : Bool) : Prop :=
  ∃ x, r.payments.debits.get? id = some x ∧ x.isApproved = approved

/-- The order was refused its stock. -/
def Refused (r : Records) (id : OrderId) : Prop :=
  ∃ reason, r.inventory.holds.get? id = some (.refused reason)

/-- Stock is or was held for the order. -/
def Granted (r : Records) (id : OrderId) : Prop :=
  ∃ h, r.inventory.holds.get? id = some h ∧ h.wasGranted = true

/-- What an announcement says about an order stands in the records. -/
def Backed (r : Records) : Payload → Prop
  | .orderCreated c => ∃ o, r.orders.orders.get? c.order = some o
  | .productReserved p => Granted r p.order
  | .reservationFailed f => Refused r f.order
  | .payment p => Charged r p.order (decide (p.status = .successful))
  | _ => True

/-- What a hold presupposes. -/
def HoldCause (r : Records) (id : OrderId) : Hold → Prop
  | .consumed => Charged r id true
  | .returned => Charged r id false
  | _ => True

/-- What a status presupposes. -/
def StatusCause (r : Records) (id : OrderId) : OrderStatus → Prop
  | .pending => True
  | .paymentPending => Granted r id
  | .paid => Charged r id true
  | .productOutOfStock => Refused r id
  | .canceled => False
  | .failed => Charged r id false

/-- The records agree with what was said, and with each other through it. -/
structure Agreement (r : Records) : Prop where
  /-- What was said stands in the records. -/
  backed : ∀ p ∈ r.said, Backed r p
  /-- A hold answers an order that was announced. -/
  asked : ∀ id h, r.inventory.holds.get? id = some h →
    ∃ c, .orderCreated c ∈ r.said ∧ c.order = id
  settled : ∀ id h, r.inventory.holds.get? id = some h → HoldCause r id h
  /-- The open records are those of the holds that are open. -/
  record : ∀ id, (r.inventory.reserved.get? id).isSome ↔
    r.inventory.holds.get? id = some .held
  /-- A charge answers a reservation that was announced. -/
  charged : ∀ id x, r.payments.debits.get? id = some x →
    ∃ p, .productReserved p ∈ r.said ∧ p.order = id
  moved : ∀ id o, r.orders.orders.get? id = some o → StatusCause r id o.status

theorem agreement_start : Agreement .start :=
  ⟨fun _ h => (nomatch h), fun _ _ h => (nomatch h), fun _ _ h => (nomatch h),
    fun _ => ⟨fun h => (nomatch h), fun h => (nomatch h)⟩, fun _ _ h => (nomatch h),
    fun _ _ h => (nomatch h)⟩

/-! ## Changes -/

/-- The status that an announcement asks an order to move to. -/
inductive Asks : Payload → OrderId → OrderStatus → Prop
  | reserved (p : ProductReserved) : Asks (.productReserved p) p.order .paymentPending
  | refused (f : ReservationFailed) : Asks (.reservationFailed f) f.order .productOutOfStock
  | paid (p : PaymentProcessed) : Asks (.payment p) p.order (Orders.paymentStatus p.status)

/-- How a hold ends after a payment. -/
def endOf : PaymentStatus → Hold
  | .successful => .consumed
  | .failed => .returned

/-- The ways in which the records of orders change, each with what was said that brings it
about. -/
inductive Change (r : Records) : Records → Prop
  /-- Nothing is recorded about an order. -/
  | quiet (i : InventoryStore) (o : OrderStore) (p : PaymentStore)
    (holds : i.holds = r.inventory.holds) (reserved : i.reserved = r.inventory.reserved)
    (orders : o.orders = r.orders.orders) (debits : p.debits = r.payments.debits) :
    Change r ⟨i, o, p, r.said⟩
  | place (o : Order) (new : r.orders.orders.get? o.id = none) (start : o.status = .pending) :
    Change r { r with orders.orders := r.orders.orders.put o.id o }
  | move (p : Payload) (hp : p ∈ r.said) (id : OrderId) (status : OrderStatus)
    (asks : Asks p id status) (o : Order) (found : r.orders.orders.get? id = some o)
    (forward : o.status.canMoveTo status = true) (time : Instant) :
    Change r { r with orders.orders :=
      r.orders.orders.put id { o with status := status, updatedAt := time } }
  | refuse (c : OrderCreated) (hc : .orderCreated c ∈ r.said)
    (first : r.inventory.holds.get? c.order = none) (reason : Refusal) :
    Change r { r with inventory.holds := r.inventory.holds.put c.order (.refused reason) }
  | hold (c : OrderCreated) (hc : .orderCreated c ∈ r.said)
    (first : r.inventory.holds.get? c.order = none) (a : Reserved) (i : InventoryStore)
    (holds : i.holds = r.inventory.holds.put c.order .held)
    (reserved : i.reserved = r.inventory.reserved.put c.order a) :
    Change r { r with inventory := i }
  | settle (p : PaymentProcessed) (hp : .payment p ∈ r.said)
    (isOpen : (r.inventory.reserved.get? p.order).isSome) (i : InventoryStore)
    (holds : i.holds = r.inventory.holds.put p.order (endOf p.status))
    (reserved : i.reserved = r.inventory.reserved.erase p.order) :
    Change r { r with inventory := i }
  | charge (p : ProductReserved) (hp : .productReserved p ∈ r.said)
    (first : r.payments.debits.get? p.order = none) (x : Debit) (s : PaymentStore)
    (debits : s.debits = r.payments.debits.put p.order x) :
    Change r { r with payments := s }

/-- Records are added to and never taken back: an outcome stays, a final status stays, and a hold
stays or ends. -/
structure Later (r r' : Records) : Prop where
  said : ∀ p ∈ r.said, p ∈ r'.said
  order : ∀ id o, r.orders.orders.get? id = some o →
    ∃ o', r'.orders.orders.get? id = some o' ∧ (o.status.isFinal = true → o'.status = o.status)
  hold : ∀ id h, r.inventory.holds.get? id = some h →
    r'.inventory.holds.get? id = some h ∨
      h = .held ∧ ∃ h', r'.inventory.holds.get? id = some h' ∧ (h' = .consumed ∨ h' = .returned)
  debit : ∀ id x, r.payments.debits.get? id = some x → r'.payments.debits.get? id = some x

namespace Later

variable {r r' : Records} {id : OrderId}

theorem refl (r : Records) : Later r r :=
  ⟨fun _ h => h, fun _ o h => ⟨o, h, fun _ => rfl⟩, fun _ _ h => .inl h, fun _ _ h => h⟩

/-- Saying something takes nothing back. -/
theorem say (r : Records) (part : List Payload) : Later r { r with said := r.said ++ part } :=
  ⟨fun _ h => List.mem_append_left part h, (refl r).order, (refl r).hold, (refl r).debit⟩

theorem charged (h : Later r r') {b : Bool} (hc : Charged r id b) : Charged r' id b := by
  obtain ⟨x, hx, hb⟩ := hc
  exact ⟨x, h.debit id x hx, hb⟩

theorem refused (h : Later r r') (hr : Refused r id) : Refused r' id := by
  obtain ⟨reason, hh⟩ := hr
  rcases h.hold id _ hh with hh | ⟨he, _⟩
  · exact ⟨reason, hh⟩
  · cases he

theorem granted (h : Later r r') (hg : Granted r id) : Granted r' id := by
  obtain ⟨x, hx, hb⟩ := hg
  rcases h.hold id x hx with hx | ⟨_, x', hx', he | he⟩
  · exact ⟨x, hx, hb⟩
  · exact ⟨x', hx', by rw [he]; rfl⟩
  · exact ⟨x', hx', by rw [he]; rfl⟩

/-- What is backed stays backed. -/
theorem backed (h : Later r r') {p : Payload} (hp : Backed r p) : Backed r' p := by
  cases p with
  | orderCreated c =>
    obtain ⟨o, ho⟩ := hp
    obtain ⟨o', ho', _⟩ := h.order c.order o ho
    exact ⟨o', ho'⟩
  | productReserved p => exact h.granted hp
  | reservationFailed f => exact h.refused hp
  | payment p => exact h.charged hp
  | _ => exact hp

theorem holdCause (h : Later r r') {x : Hold} (hx : HoldCause r id x) : HoldCause r' id x := by
  cases x with
  | consumed => exact h.charged hx
  | returned => exact h.charged hx
  | _ => exact hx

theorem statusCause (h : Later r r') {x : OrderStatus} (hx : StatusCause r id x) :
    StatusCause r' id x := by
  cases x with
  | paymentPending => exact h.granted hx
  | paid => exact h.charged hx
  | productOutOfStock => exact h.refused hx
  | failed => exact h.charged hx
  | _ => exact hx

end Later

variable {r r' : Records}

theorem Later.trans {r'' : Records} (h : Later r r') (h' : Later r' r'') : Later r r'' := by
  refine ⟨fun p hp => h'.said p (h.said p hp), ?_, ?_,
    fun id x hx => h'.debit id x (h.debit id x hx)⟩
  · intro id o ho
    obtain ⟨o₁, ho₁, same₁⟩ := h.order id o ho
    obtain ⟨o₂, ho₂, same₂⟩ := h'.order id o₁ ho₁
    refine ⟨o₂, ho₂, fun final => ?_⟩
    have := same₁ final
    rw [← this] at final
    rw [same₂ final, this]
  · intro id x hx
    rcases h.hold id x hx with hx | ⟨rfl, x', hx', he⟩
    · exact h'.hold id x hx
    · rcases h'.hold id x' hx' with hx' | ⟨rfl, _⟩
      · exact .inr ⟨rfl, x', hx', he⟩
      · rcases he with he | he <;> cases he

/-! ## Agreement is kept -/

/-- **Records are never taken back.** -/
theorem Change.later (c : Change r r') (h : Agreement r) : Later r r' := by
  cases c with
  | quiet i o p holds reserved orders debits =>
    refine ⟨fun _ hp => hp, ?_, ?_, ?_⟩
    · intro id b hb
      exact ⟨b, by rw [← orders] at hb; exact hb, fun _ => rfl⟩
    · intro id x hx
      rw [← holds] at hx
      exact .inl hx
    · intro id x hx
      rw [← debits] at hx
      exact hx
  | place o new start =>
    refine ⟨fun _ hp => hp, ?_, (Later.refl r).hold, (Later.refl r).debit⟩
    intro id b hb
    exact ⟨b, Table.get?_put_of_none new hb, fun _ => rfl⟩
  | move p hp id status asks o found forward time =>
    refine ⟨fun _ hp => hp, ?_, (Later.refl r).hold, (Later.refl r).debit⟩
    intro j b hb
    by_cases hj : j = id
    · subst hj
      rw [found] at hb
      cases hb
      refine ⟨_, Table.get?_put_self _ _ _, fun final => ?_⟩
      rw [OrderStatus.not_canMoveTo_of_isFinal final] at forward
      cases forward
    · exact ⟨b, (Table.get?_put_of_ne hj).trans hb, fun _ => rfl⟩
  | refuse c hc first reason =>
    refine ⟨fun _ hp => hp, (Later.refl r).order, ?_, (Later.refl r).debit⟩
    intro id x hx
    exact .inl (Table.get?_put_of_none first hx)
  | hold c hc first a i holds reserved =>
    refine ⟨fun _ hp => hp, (Later.refl r).order, ?_, (Later.refl r).debit⟩
    intro id x hx
    rw [holds]
    exact .inl (Table.get?_put_of_none first hx)
  | settle p hp isOpen i holds reserved =>
    refine ⟨fun _ hp => hp, (Later.refl r).order, ?_, (Later.refl r).debit⟩
    intro id x hx
    rw [holds, Table.get?_put]
    by_cases hid : id = p.order
    · subst hid
      rw [(h.record p.order).1 isOpen] at hx
      cases hx
      refine .inr ⟨rfl, endOf p.status, if_pos rfl, ?_⟩
      cases p.status
      · exact .inl rfl
      · exact .inr rfl
    · rw [if_neg hid]
      exact .inl hx
  | charge p hp first x s debits =>
    refine ⟨fun _ hp => hp, (Later.refl r).order, (Later.refl r).hold, ?_⟩
    intro id y hy
    rw [debits]
    exact Table.get?_put_of_none first hy

/-- What asks an order to move is backed, and so the status it moves to has its cause. -/
theorem statusCause_of_asks {p : Payload} {id : OrderId} {status : OrderStatus}
    (asks : Asks p id status) (hp : Backed r p) : StatusCause r id status := by
  cases asks with
  | reserved p => exact hp
  | refused f => exact hp
  | paid p =>
    obtain ⟨o, a, status⟩ := p
    cases status <;> exact hp

/-- How a hold ends after a payment that is backed has its cause. -/
theorem holdCause_endOf {p : PaymentProcessed} (hp : Backed r (.payment p)) :
    HoldCause r p.order (endOf p.status) := by
  obtain ⟨o, a, status⟩ := p
  cases status <;> exact hp

theorem endOf_ne_held (status : PaymentStatus) : endOf status ≠ .held := by
  cases status <;> exact fun h => nomatch h

/-- An order may be written with a status that has its cause. -/
theorem Agreement.order_written (h : Agreement r) {o : OrderStore} {id : OrderId} {b : Order}
    (later : Later r { r with orders := o }) (orders : o.orders = r.orders.orders.put id b)
    (cause : StatusCause r id b.status) : Agreement { r with orders := o } := by
  refine ⟨fun p hp => later.backed (h.backed p hp), h.asked,
    fun j x hx => later.holdCause (h.settled j x hx), h.record, h.charged, ?_⟩
  intro j d hd
  rw [orders, Table.get?_put] at hd
  split at hd
  · rename_i hj
    cases hd
    subst hj
    exact later.statusCause cause
  · exact later.statusCause (h.moved j d hd)

/-- A hold may be written that has its cause, along with the open records. -/
theorem Agreement.hold_written (h : Agreement r) {i : InventoryStore} {id : OrderId} {x : Hold}
    (later : Later r { r with inventory := i })
    (holds : i.holds = r.inventory.holds.put id x)
    (asked : ∃ c, .orderCreated c ∈ r.said ∧ c.order = id) (cause : HoldCause r id x)
    (record : (i.reserved.get? id).isSome ↔ x = .held)
    (others : ∀ j, j ≠ id → i.reserved.get? j = r.inventory.reserved.get? j) :
    Agreement { r with inventory := i } := by
  refine ⟨fun p hp => later.backed (h.backed p hp), ?_, ?_, ?_, h.charged,
    fun j b hb => later.statusCause (h.moved j b hb)⟩
  · intro j y hy
    rw [holds, Table.get?_put] at hy
    split at hy
    · rename_i hj
      rw [hj]
      exact asked
    · exact h.asked j y hy
  · intro j y hy
    rw [holds, Table.get?_put] at hy
    split at hy
    · rename_i hj
      cases hy
      rw [hj]
      exact later.holdCause cause
    · exact later.holdCause (h.settled j y hy)
  · intro j
    rw [holds, Table.get?_put]
    by_cases hj : j = id
    · rw [if_pos hj, hj, record, Option.some.injEq]
    · rw [if_neg hj, others j hj]
      exact h.record j

/-- **Every change keeps the agreement.** -/
theorem Agreement.change (h : Agreement r) (c : Change r r') : Agreement r' := by
  have later := c.later h
  cases c with
  | quiet i o p holds reserved orders debits =>
    refine ⟨fun p hp => later.backed (h.backed p hp), ?_, ?_, ?_, ?_, ?_⟩
    · intro id x hx
      exact h.asked id x (holds ▸ hx)
    · intro id x hx
      exact later.holdCause (h.settled id x (holds ▸ hx))
    · intro id
      rw [reserved, holds]
      exact h.record id
    · intro id x hx
      exact h.charged id x (debits ▸ hx)
    · intro id b hb
      exact later.statusCause (h.moved id b (orders ▸ hb))
  | place o new start =>
    apply h.order_written later rfl
    rw [start]
    trivial
  | move p hp id status asks o found forward time =>
    exact h.order_written later rfl (statusCause_of_asks asks (h.backed p hp))
  | refuse c hc first reason =>
    refine h.hold_written later rfl ⟨c, hc, rfl⟩ trivial ?_ fun _ _ => rfl
    rw [h.record, first]
    exact ⟨fun he => (nomatch he), fun he => (nomatch he)⟩
  | hold c hc first a i holds reserved =>
    refine h.hold_written later holds ⟨c, hc, rfl⟩ trivial ?_ fun j hj => ?_
    · rw [reserved, Table.get?_put, if_pos rfl]
      exact ⟨fun _ => rfl, fun _ => rfl⟩
    · rw [reserved, Table.get?_put, if_neg hj]
  | settle p hp isOpen i holds reserved =>
    have asked := h.asked p.order .held ((h.record p.order).1 isOpen)
    refine h.hold_written later holds asked (holdCause_endOf (h.backed _ hp)) ?_ fun j hj => ?_
    · rw [reserved, Table.get?_erase, if_pos rfl]
      exact ⟨fun he => (nomatch he), fun he => (endOf_ne_held p.status he).elim⟩
    · rw [reserved, Table.get?_erase, if_neg hj]
  | charge p hp first x s debits =>
    refine ⟨fun p hp => later.backed (h.backed p hp), h.asked,
      fun id y hy => later.holdCause (h.settled id y hy), h.record, ?_,
      fun id b hb => later.statusCause (h.moved id b hb)⟩
    intro id y hy
    rw [debits, Table.get?_put] at hy
    split at hy
    · rename_i hid
      exact ⟨p, hp, hid.symm⟩
    · exact h.charged id y hy

/-- **Announcing what stands in the records keeps the agreement.** -/
theorem Agreement.say (h : Agreement r) {part : List Payload} (hp : ∀ p ∈ part, Backed r p) :
    Agreement { r with said := r.said ++ part } := by
  refine ⟨?_, ?_, h.settled, h.record, ?_, h.moved⟩
  · intro p hm
    rcases List.mem_append.1 hm with hm | hm
    · exact (Later.say r part).backed (h.backed p hm)
    · exact (Later.say r part).backed (hp p hm)
  · intro id x hx
    obtain ⟨c, hc, he⟩ := h.asked id x hx
    exact ⟨c, List.mem_append_left part hc, he⟩
  · intro id x hx
    obtain ⟨p, hp, he⟩ := h.charged id x hx
    exact ⟨p, List.mem_append_left part hp, he⟩

end Saga

end Marketplace
