import Mathlib.Logic.ExistsUnique
import Marketplace.Proofs.Saga.Agreement

/-!
# Orders are completed

When no message is pending, every order that was announced has ended, in exactly one of three ways,
and every order that was not announced has not begun. What carries this is the progress of the
traffic: what was published is pending or done at every service that subscribes to it. So the
announcement of an order leads to an answer of the inventory, that to the end of the order or to a
charge, and the charge to the end of the hold and of the order.

## Results

* `ended_of_announced`: an order that was announced has ended.
* `idle_of_unannounced`: an order that was not announced has not begun.
* `orders_complete`: both, with no open record left, in every run that comes to rest.
-/

namespace Marketplace

namespace Saga

open Relation

/-! ## The ways in which an order ends -/

inductive Ending where
  | paid
  | failed
  | outOfStock

/-- The status of an order that ended in this way. -/
def Ending.status : Ending → OrderStatus
  | .paid => .paid
  | .failed => .failed
  | .outOfStock => .productOutOfStock

/-- The order has ended in this way, in all three records. -/
def EndsAs (m : Market) (id : OrderId) (e : Ending) : Prop :=
  statusOf m id = some e.status ∧
  match e with
  | .paid => holdOf m id = some .consumed ∧ ∃ x, debitOf m id = some x ∧ x.isApproved = true
  | .failed => holdOf m id = some .returned ∧ ∃ x, debitOf m id = some x ∧ x.isApproved = false
  | .outOfStock => (∃ reason, holdOf m id = some (.refused reason)) ∧ debitOf m id = none

theorem EndsAs.unique {m : Market} {id : OrderId} {a b : Ending} (ha : EndsAs m id a)
    (hb : EndsAs m id b) : a = b := by
  have same : a.status = b.status := Option.some.inj (ha.1.symm.trans hb.1)
  cases a <;> cases b <;> first
    | rfl
    | cases same

/-! ## Records exclude each other -/

variable {r : Records} {id : OrderId}

theorem Charged.unique {a b : Bool} (ha : Charged r id a) (hb : Charged r id b) : a = b := by
  obtain ⟨x, hx, rfl⟩ := ha
  obtain ⟨y, hy, rfl⟩ := hb
  rw [hx] at hy
  cases hy
  rfl

theorem Granted.not_refused (hg : Granted r id) : ¬Refused r id := by
  rintro ⟨reason, hr⟩
  obtain ⟨x, hx, granted⟩ := hg
  rw [hr] at hx
  cases hx
  cases granted

/-- An order with a final status was paid or not, or was refused its stock. -/
theorem Agreement.ended_cases (h : Agreement r) (ended : Ended r id) :
    ∃ o, r.orders.orders.get? id = some o ∧
      ((o.status = .paid ∧ Charged r id true) ∨ (o.status = .failed ∧ Charged r id false) ∨
        (o.status = .productOutOfStock ∧ Refused r id)) := by
  obtain ⟨o, ho, final⟩ := ended
  have cause := h.moved id o ho
  refine ⟨o, ho, ?_⟩
  cases hs : o.status with
  | pending =>
    rw [hs] at final
    cases final
  | paymentPending =>
    rw [hs] at final
    cases final
  | paid =>
    rw [hs] at cause
    exact .inl ⟨rfl, cause⟩
  | productOutOfStock =>
    rw [hs] at cause
    exact .inr (.inr ⟨rfl, cause⟩)
  | canceled =>
    rw [hs] at cause
    exact cause.elim
  | failed =>
    rw [hs] at cause
    exact .inr (.inl ⟨rfl, cause⟩)

/-! ## At rest -/

/-- The part of each service in an order: what it is told by which event. -/
inductive Follows : Service → Topic → Prop
  | stock : Follows .inventory .orderCreated
  | charge : Follows .payments .productReserved
  | settlement : Follows .inventory .payment
  | refusal : Follows .orders .reservationFailed
  | outcome : Follows .orders .payment

theorem contains_names {σ : Type} {participant : Participant σ} {topic : Topic}
    (h : topic ∈ participant.topics) : participant.names.contains topic.name = true :=
  List.contains_iff_mem.2 (List.mem_map_of_mem h)

theorem Follows.subscribes {v : Service} {topic : Topic} (h : Follows v topic)
    (settings : MarketSettings) :
    v ∈ receivers ∧ (Market.handler settings v).names.contains topic.name = true := by
  cases h with
  | stock => exact ⟨by decide, contains_names (by simp [Seat.inventory, Inventory.participant])⟩
  | charge => exact ⟨by decide, contains_names (by simp [Seat.payments, Payments.participant])⟩
  | settlement =>
    exact ⟨by decide, contains_names (by simp [Seat.inventory, Inventory.participant])⟩
  | refusal => exact ⟨by decide, contains_names (by simp [Seat.orders, Orders.participant])⟩
  | outcome => exact ⟨by decide, contains_names (by simp [Seat.orders, Orders.participant])⟩

variable {t : Traffic}

/-- When nothing is pending, what was published is done at every subscriber. -/
theorem Traffic.Inv.done_of_idle (h : t.Inv) (idle : t.pending = []) {p : Payload} {v : Service}
    (hp : p ∈ t.records.said) (follows : Follows v p.topic) : Done t.records v p := by
  obtain ⟨e, he, rfl⟩ := List.mem_map.1 hp
  have subscribes : v ∈ subscribers t.market.settings e := by
    apply List.mem_filter.2
    rw [h.standard e he]
    exact follows.subscribes t.market.settings
  rcases h.progress e he v subscribes with hm | done
  · rw [idle] at hm
    cases hm
  · exact done

/-- An order whose stock was granted has been charged, and its hold and status say how. -/
theorem ended_of_granted (h : t.Inv) (idle : t.pending = []) {p : ProductReserved}
    (hp : .productReserved p ∈ t.records.said) : ∃ e, EndsAs t.market p.order e := by
  have billed : Billed t.records p.order :=
    h.done_of_idle idle hp .charge
  obtain ⟨q, hq, same⟩ := billed
  have closed : Closed t.records q.order :=
    h.done_of_idle idle hq .settlement
  have ended : Ended t.records q.order :=
    h.done_of_idle idle hq .outcome
  rw [← same]
  obtain ⟨x, hx, how⟩ := closed
  obtain ⟨o, ho, way⟩ := h.agreement.ended_cases ended
  have cause := h.agreement.settled q.order x hx
  have granted : Granted t.records q.order := by
    rw [same]
    exact h.agreement.backed _ hp
  have status : statusOf t.market q.order = some o.status :=
    congrArg (Option.map Order.status) ho
  rcases way with ⟨hs, charged⟩ | ⟨hs, charged⟩ | ⟨_, refused⟩
  · rw [hs] at status
    rcases how with rfl | rfl
    · exact ⟨.paid, status, hx, charged⟩
    · cases Charged.unique charged cause
  · rw [hs] at status
    rcases how with rfl | rfl
    · cases Charged.unique charged cause
    · exact ⟨.failed, status, hx, charged⟩
  · exact (granted.not_refused refused).elim

/-- An order that was refused its stock is out of stock and was never charged. -/
theorem ended_of_refused (h : t.Inv) (idle : t.pending = []) {f : ReservationFailed}
    (hf : .reservationFailed f ∈ t.records.said) : EndsAs t.market f.order .outOfStock := by
  have ended : Ended t.records f.order :=
    h.done_of_idle idle hf .refusal
  have refused : Refused t.records f.order := h.agreement.backed _ hf
  have uncharged : ∀ x, t.records.payments.debits.get? f.order ≠ some x := by
    intro x hx
    exact (h.agreement.granted hx).not_refused refused
  obtain ⟨o, ho, ⟨_, x, hx, _⟩ | ⟨_, x, hx, _⟩ | ⟨hs, _⟩⟩ := h.agreement.ended_cases ended
  · exact (uncharged x hx).elim
  · exact (uncharged x hx).elim
  · refine ⟨?_, refused, Option.eq_none_iff_forall_ne_some.2 uncharged⟩
    show statusOf t.market f.order = some .productOutOfStock
    rw [← hs]
    exact congrArg (Option.map Order.status) ho

/-- **An order that was announced has ended.** -/
theorem ended_of_announced (h : t.Inv) (idle : t.pending = []) {c : OrderCreated}
    (hc : .orderCreated c ∈ t.records.said) : ∃ e, EndsAs t.market c.order e := by
  have answered : Answered t.records c.order :=
    h.done_of_idle idle hc .stock
  rcases answered with ⟨p, hp, he⟩ | ⟨f, hf, he⟩
  · rw [← he]
    exact ended_of_granted h idle hp
  · rw [← he]
    exact ⟨.outOfStock, ended_of_refused h idle hf⟩

/-- **An order that was not announced has not begun.** -/
theorem idle_of_unannounced (h : Agreement r)
    (unsaid : ∀ c, .orderCreated c ∈ r.said → c.order ≠ id) :
    r.inventory.holds.get? id = none ∧ r.payments.debits.get? id = none ∧
      ∀ o, r.orders.orders.get? id = some o → o.status = .pending := by
  have unheld : ∀ x, r.inventory.holds.get? id ≠ some x := by
    intro x hx
    obtain ⟨c, hc, he⟩ := h.asked id x hx
    exact unsaid c hc he
  have uncharged : ∀ x, r.payments.debits.get? id ≠ some x := by
    intro x hx
    obtain ⟨y, hy, _⟩ := h.granted hx
    exact unheld y hy
  refine ⟨Option.eq_none_iff_forall_ne_some.2 unheld,
    Option.eq_none_iff_forall_ne_some.2 uncharged, ?_⟩
  intro o ho
  have cause := h.moved id o ho
  cases hs : o.status with
  | pending => rfl
  | paymentPending =>
    rw [hs] at cause
    obtain ⟨y, hy, _⟩ := cause
    exact (unheld y hy).elim
  | productOutOfStock =>
    rw [hs] at cause
    obtain ⟨reason, hy⟩ := cause
    exact (unheld _ hy).elim
  | canceled =>
    rw [hs] at cause
    exact cause.elim
  | paid =>
    rw [hs] at cause
    obtain ⟨x, hx, _⟩ := cause
    exact (uncharged x hx).elim
  | failed =>
    rw [hs] at cause
    obtain ⟨x, hx, _⟩ := cause
    exact (uncharged x hx).elim

/-- An order that ended has no open record. -/
theorem EndsAs.closed {m : Market} {e : Ending} (h : EndsAs m id e) :
    holdOf m id ≠ some .held := by
  obtain ⟨_, he⟩ := h
  intro hh
  cases e with
  | paid => rw [he.1] at hh; cases hh
  | failed => rw [he.1] at hh; cases hh
  | outOfStock =>
    obtain ⟨⟨reason, hr⟩, _⟩ := he
    rw [hr] at hh
    cases hh

/-- An open record is that of an open hold, and its order was announced. -/
theorem no_record_of_idle (h : t.Inv) (idle : t.pending = []) (id : OrderId) :
    t.market.inventory.store.reserved.get? id = none := by
  cases hr : t.market.inventory.store.reserved.get? id with
  | none => rfl
  | some a =>
    have held := (h.agreement.record id).1 (Option.isSome_iff_exists.2 ⟨a, hr⟩)
    obtain ⟨c, hc, rfl⟩ := h.agreement.asked id .held held
    obtain ⟨e, he⟩ := ended_of_announced h idle hc
    exact (he.closed held).elim

variable {settings : MarketSettings} {outlet : Outlet} {supply : Supply}

/-- **Orders are completed** in every run from empty stores that comes to rest. -/
theorem orders_complete (run : ReflTransGen Traffic.Step (.start settings outlet supply) t)
    (idle : t.pending = []) :
    (∀ c, .orderCreated c ∈ t.published.map Event.payload → ∃! e, EndsAs t.market c.order e) ∧
    (∀ id, (∀ c, .orderCreated c ∈ t.published.map Event.payload → c.order ≠ id) →
      holdOf t.market id = none ∧ debitOf t.market id = none ∧
        ∀ s, statusOf t.market id = some s → s = .pending) ∧
    ∀ id, t.market.inventory.store.reserved.get? id = none := by
  have h := Traffic.inv_of_run run
  refine ⟨?_, ?_, no_record_of_idle h idle⟩
  · intro c hc
    obtain ⟨e, he⟩ := ended_of_announced h idle hc
    exact ⟨e, he, fun _ ha => ha.unique he⟩
  · intro id unsaid
    obtain ⟨unheld, uncharged, waiting⟩ := idle_of_unannounced h.agreement unsaid
    refine ⟨unheld, uncharged, ?_⟩
    intro s hs
    obtain ⟨o, ho, rfl⟩ := Option.map_eq_some_iff.1 hs
    exact waiting o ho

/-- Six attempts, one of them repeated, bring the order of the sample to rest as paid. -/
theorem orders_complete_of_sampleTraffic :
    ReflTransGen Traffic.Step sampleStart (sampleTraffic.attempts 6) ∧
    (sampleTraffic.attempts 6).pending = [] ∧
    (∃! e, EndsAs (sampleTraffic.attempts 6).market sampleOrder e) ∧
    statusOf (sampleTraffic.attempts 6).market sampleOrder = some .paid := by
  have run := sampleTraffic_run.trans (Traffic.attempts_run 6 sampleTraffic)
  have idle : (sampleTraffic.attempts 6).pending = [] :=
    List.isEmpty_iff.1 (by decide +kernel)
  have said : .orderCreated ⟨sampleOrder, "pending", sampleAccount, ⟨Supply.identifier 3⟩, 3⟩ ∈
      (sampleTraffic.attempts 6).published.map Event.payload := by decide +kernel
  exact ⟨run, idle, (orders_complete run idle).1 _ said, by decide +kernel⟩

end Saga

end Marketplace
