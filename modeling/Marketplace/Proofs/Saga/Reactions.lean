import Marketplace.Event.Handler
import Marketplace.Proofs.Announcement
import Marketplace.Proofs.Inventory.Store
import Marketplace.Proofs.Orders.Store
import Marketplace.Proofs.Payments.Store
import Marketplace.Proofs.Saga.Records

/-!
# What the participants do about an order

Every operation that a participant commits changes the records in one of the ways that keep them in
agreement, announces only what then stands in the records, and, if all of that goes out, is all that
the event it reacts to will ever need of it. An attempt that fails before its commit fails for now:
it will be made again.

## Results

* `inventory_commit`, `orders_commit`, `payments_commit`: the reactions to events.
* `createMerchant_commit`, `createProduct_commit`, `place_commit`, `recharge_commit`: the calls of
  clients.
* `attempt`, `attempt_done`: what an attempt amounts to, however it comes out.
-/

namespace Marketplace

namespace Saga

variable {r : Records} {p : Payload} {stamp : Stamp}

/-- The order has a status that it keeps. -/
def Ended (r : Records) (id : OrderId) : Prop :=
  ∃ o, r.orders.orders.get? id = some o ∧ o.status.isFinal = true

/-- The hold of the order has ended. -/
def Closed (r : Records) (id : OrderId) : Prop :=
  ∃ x, r.inventory.holds.get? id = some x ∧ (x = .consumed ∨ x = .returned)

/-- It was said whether stock is held for the order. -/
def Answered (r : Records) (id : OrderId) : Prop :=
  (∃ p, .productReserved p ∈ r.said ∧ p.order = id) ∨
    ∃ f, .reservationFailed f ∈ r.said ∧ f.order = id

/-- It was said how the order was paid. -/
def Billed (r : Records) (id : OrderId) : Prop := ∃ p, .payment p ∈ r.said ∧ p.order = id

/-- What an event is for at a service has come about. -/
def Done (r : Records) : Service → Payload → Prop
  | .inventory, .orderCreated c => Answered r c.order
  | .inventory, .payment p => Closed r p.order
  | .payments, .productReserved p => Billed r p.order
  | .orders, .reservationFailed f => Ended r f.order
  | .orders, .payment p => Ended r p.order
  | _, _ => True

/-- What was said, or an event about an account or a grant, which may say anything. -/
def Heard (r : Records) (p : Payload) : Prop :=
  p ∈ r.said ∨ p.topic = .accountCreated ∨ p.topic = .policyUpdated

/-- What a commit amounts to: the records after it, its news, and the event it is for, if any. -/
structure Effect (r mid : Records) (news : List Payload) (v : Service) (p : Payload) : Prop where
  change : Change r mid
  backed : ∀ q ∈ news, Backed mid q
  done : Done { mid with said := mid.said ++ news } v p

theorem Change.refl (r : Records) : Change r r :=
  .quiet r.inventory r.orders r.payments rfl rfl rfl rfl

/-- A request for a grant says nothing about an order. -/
theorem backed_of_grants {news : List Payload} (h : ∀ q ∈ news, q.topic = .upsertPolicy) :
    ∀ q ∈ news, Backed r q := by
  intro q hq
  have topic := h q hq
  cases q with
  | upsertPolicy target => trivial
  | _ => cases topic

/-! ## Inventory -/

theorem inventory_unavailable {s : InventoryStore} {e : ServiceError} (h : s.check = .error e) :
    e.isRetryable = true := by
  unfold InventoryStore.check at h
  split at h
  · cases h
    rfl
  · cases h

/-- A hold that is there was asked for, and what it says about the order was announced before or can
be announced again. -/
theorem reserve_again {c : OrderCreated} {x : Hold} (h : Agreement r)
    (hx : r.inventory.holds.get? c.order = some x) :
    Effect r r (Inventory.report c (r.inventory.repeated c.order x)).1 .inventory
      (.orderCreated c) := by
  cases x with
  | held =>
    obtain ⟨a, ha⟩ := Option.isSome_iff_exists.1 ((h.record c.order).2 hx)
    have hn : (Inventory.report c (r.inventory.repeated c.order .held)).1 =
        [.productReserved ⟨c.order, c.account, a.payable⟩] := by
      unfold InventoryStore.repeated
      rw [ha]
      rfl
    rw [hn]
    refine ⟨.refl r, ?_, .inl ⟨_, List.mem_append_right _ List.mem_cons_self, rfl⟩⟩
    intro q hq
    cases List.mem_singleton.1 hq
    exact ⟨.held, hx, rfl⟩
  | refused reason =>
    refine ⟨.refl r, ?_, .inr ⟨_, List.mem_append_right _ List.mem_cons_self, rfl⟩⟩
    intro q hq
    cases List.mem_singleton.1 hq
    exact ⟨reason, hx⟩
  | consumed =>
    -- nothing is announced: the charge that ended the hold answered an announcement
    obtain ⟨y, hy, _⟩ := h.settled c.order _ hx
    obtain ⟨q, hq, he⟩ := h.charged c.order y hy
    exact ⟨.refl r, fun _ hq => (nomatch hq), .inl ⟨q, List.mem_append_left _ hq, he⟩⟩
  | returned =>
    obtain ⟨y, hy, _⟩ := h.settled c.order _ hx
    obtain ⟨q, hq, he⟩ := h.charged c.order y hy
    exact ⟨.refl r, fun _ hq => (nomatch hq), .inl ⟨q, List.mem_append_left _ hq, he⟩⟩

theorem reserve_commit {c : OrderCreated} {d : Commit InventoryStore Unit} (h : Agreement r)
    (hc : .orderCreated c ∈ r.said) (hd : Inventory.reserve c stamp r.inventory = .ok d) :
    Effect r { r with inventory := d.store } d.news .inventory (.orderCreated c) := by
  unfold Inventory.reserve at hd
  obtain ⟨⟨a, i⟩, hs, hd⟩ := bind_eq_ok.1 hd
  cases pure_eq_ok.1 hd
  rcases InventoryStore.reserve_eq_ok hs with ⟨x, hx, rfl, rfl⟩ | ⟨first, hs⟩
  · exact reserve_again h hx
  · rcases InventoryStore.reserveNew_cases hs with
      ⟨reason, rfl, rfl⟩ | ⟨b, payable, _, _, _, rfl, rfl⟩
    · refine ⟨.refuse c hc first reason, ?_,
        .inr ⟨_, List.mem_append_right _ List.mem_cons_self, rfl⟩⟩
      intro q hq
      cases List.mem_singleton.1 hq
      exact ⟨reason, Table.get?_put_self _ _ _⟩
    · refine ⟨.hold c hc first _ _ rfl rfl, ?_,
        .inl ⟨_, List.mem_append_right _ List.mem_cons_self, rfl⟩⟩
      intro q hq
      cases List.mem_singleton.1 hq
      exact ⟨.held, Table.get?_put_self _ _ _, rfl⟩

/-- Closing ends the open hold of an order as its payment says, or there is none. -/
theorem close_eq_ok {q : PaymentProcessed} {i : InventoryStore} {d : Commit InventoryStore Unit}
    (hd : Inventory.close q stamp i = .ok d) :
    d.news = [] ∧
    ((i.reserved.get? q.order = none ∧ d.store = i) ∨
      ((i.reserved.get? q.order).isSome ∧
        d.store.holds = i.holds.put q.order (endOf q.status) ∧
        d.store.reserved = i.reserved.erase q.order)) := by
  unfold Inventory.close at hd
  split at hd
  · rename_i status
    obtain ⟨⟨a, j⟩, hs, hd⟩ := bind_eq_ok.1 hd
    cases pure_eq_ok.1 hd
    rw [status]
    rcases InventoryStore.settle_cases (InventoryStore.consume_eq_ok hs) with
      ⟨hr, _, rfl⟩ | ⟨b, hr, _, rfl⟩
    · exact ⟨rfl, .inl ⟨hr, rfl⟩⟩
    · exact ⟨rfl, .inr ⟨by rw [hr]; rfl, rfl, rfl⟩⟩
  · rename_i status
    obtain ⟨⟨a, j⟩, hs, hd⟩ := bind_eq_ok.1 hd
    cases pure_eq_ok.1 hd
    rw [status]
    rcases InventoryStore.giveBack_eq_ok hs with ⟨hr, _, rfl⟩ | ⟨b, hr, _, rfl⟩
    · exact ⟨rfl, .inl ⟨hr, rfl⟩⟩
    · refine ⟨rfl, .inr ⟨by rw [hr]; rfl, ?_, ?_⟩⟩
      · exact InventoryStore.restock_holds
      · exact InventoryStore.restock_reserved

/-- An order that was paid for, or was not, and has no open hold, has one that ended. -/
theorem closed_of_no_record {q : PaymentProcessed} (h : Agreement r) (hq : .payment q ∈ r.said)
    (hr : r.inventory.reserved.get? q.order = none) : Closed r q.order := by
  obtain ⟨y, hy, _⟩ := h.backed _ hq
  obtain ⟨v, hv, he⟩ := h.charged q.order y hy
  obtain ⟨x, hx, granted⟩ := h.backed _ hv
  rw [he] at hx
  refine ⟨x, hx, ?_⟩
  cases x with
  | held =>
    have := (h.record q.order).2 hx
    rw [hr] at this
    cases this
  | refused reason => cases granted
  | consumed => exact .inl rfl
  | returned => exact .inr rfl

theorem close_commit {q : PaymentProcessed} {d : Commit InventoryStore Unit} (h : Agreement r)
    (hq : .payment q ∈ r.said) (hd : Inventory.close q stamp r.inventory = .ok d) :
    Effect r { r with inventory := d.store } d.news .inventory (.payment q) := by
  obtain ⟨hn, ⟨hr, hs⟩ | ⟨hr, holds, reserved⟩⟩ := close_eq_ok hd
  · rw [hn, hs]
    have closed : Closed r q.order := closed_of_no_record h hq hr
    exact ⟨.refl r, fun _ hq => (nomatch hq), closed⟩
  · rw [hn]
    refine ⟨.settle q hq hr d.store holds reserved, fun _ hq => (nomatch hq), endOf q.status,
      ?_, ?_⟩
    · show d.store.holds.get? q.order = some (endOf q.status)
      rw [holds, Table.get?_put, if_pos rfl]
    · cases q.status
      · exact .inl rfl
      · exact .inr rfl

theorem inventory_greet_news {a : AccountId} {role : Role} :
    ∀ q ∈ Inventory.welcome a role, q.topic = .upsertPolicy := by
  intro q hq
  cases role with
  | customer => cases List.mem_singleton.1 hq; rfl
  | seller => cases List.mem_singleton.1 hq; rfl
  | admin => cases hq

/-- **What the inventory service commits about an event.** -/
theorem inventory_commit {operation : Operation InventoryStore Unit}
    {d : Commit InventoryStore Unit} (h : Agreement r) (hp : Heard r p)
    (hr : Inventory.participant.react p = some (.perform operation))
    (hd : operation stamp r.inventory = .ok d) :
    Effect r { r with inventory := d.store } d.news .inventory p := by
  cases p with
  | accountCreated a role =>
    cases hr
    cases hd
    exact ⟨.refl r, backed_of_grants inventory_greet_news, trivial⟩
  | orderCreated c =>
    cases hr
    rcases hp with hp | ht | ht
    · exact reserve_commit h hp hd
    · cases ht
    · cases ht
  | payment q =>
    cases hr
    rcases hp with hp | ht | ht
    · exact close_commit h hp hd
    · cases ht
    · cases ht
  | _ => cases hr

/-- The inventory service fails before its commit only while its store is down. -/
theorem inventory_failure {operation : Operation InventoryStore Unit} {i : InventoryStore}
    {e : ServiceError} (hr : Inventory.participant.react p = some (.perform operation))
    (he : operation stamp i = .error e) : e.isRetryable = true := by
  cases p with
  | accountCreated a role =>
    cases hr
    cases he
  | orderCreated c =>
    cases hr
    unfold Inventory.reserve InventoryStore.reserve at he
    rcases bind_eq_error.1 he with he | ⟨_, _, he⟩
    · rcases bind_eq_error.1 he with he | ⟨_, _, he⟩
      · exact inventory_unavailable he
      · split at he <;> cases he
    · cases he
  | payment q =>
    cases hr
    unfold Inventory.close InventoryStore.consume InventoryStore.giveBack at he
    split at he
    · rcases bind_eq_error.1 he with he | ⟨_, _, he⟩
      · rcases bind_eq_error.1 he with he | ⟨_, _, he⟩
        · exact inventory_unavailable he
        · cases he
      · cases he
    · rcases bind_eq_error.1 he with he | ⟨_, _, he⟩
      · rcases bind_eq_error.1 he with he | ⟨_, _, he⟩
        · exact inventory_unavailable he
        · split at he <;> cases he
      · cases he
  | _ => cases hr

/-! ## Orders -/

theorem orders_unavailable {s : OrderStore} {e : ServiceError} (h : s.check = .error e) :
    e.isRetryable = true := by
  unfold OrderStore.check at h
  split at h
  · cases h
    rfl
  · cases h

/-- An order that cannot move to a final status has one. -/
theorem isFinal_of_not_canMoveTo {a b : OrderStatus} (hb : b.isFinal = true)
    (h : a.canMoveTo b = false) : a.isFinal = true := by
  cases a <;> cases b <;> simp_all [OrderStatus.isFinal, OrderStatus.canMoveTo, OrderStatus.rank]

theorem move_commit {id : OrderId} {status : OrderStatus} {d : Commit OrderStore Unit}
    (hp : p ∈ r.said) (asks : Asks p id status)
    (hd : Orders.move id status stamp r.orders = .ok d) :
    Change r { r with orders := d.store } ∧ d.news = [] ∧
      (status.isFinal = true → Ended { r with orders := d.store } id) := by
  obtain ⟨hn, o, ho, ⟨hm, hs⟩ | ⟨hm, hs⟩⟩ := Orders.move_eq_ok hd
  · rw [hs]
    refine ⟨.move p hp id status asks o ho hm stamp.time, hn, fun final => ?_⟩
    exact ⟨_, Table.get?_put_self _ _ _, final⟩
  · rw [hs]
    exact ⟨.refl r, hn, fun final => ⟨o, ho, isFinal_of_not_canMoveTo final hm⟩⟩

theorem paymentStatus_isFinal (status : PaymentStatus) :
    (Orders.paymentStatus status).isFinal = true := by
  cases status <;> rfl

/-- **What the order service commits about an event.** -/
theorem orders_commit {operation : Operation OrderStore Unit} {d : Commit OrderStore Unit}
    (hp : Heard r p) (hr : Orders.participant.react p = some (.perform operation))
    (hd : operation stamp r.orders = .ok d) :
    Effect r { r with orders := d.store } d.news .orders p := by
  cases p with
  | accountCreated a role =>
    cases hr
    cases hd
    refine ⟨.refl r, backed_of_grants fun q hq => ?_, trivial⟩
    cases role with
    | customer => cases List.mem_singleton.1 hq; rfl
    | _ => cases hq
  | productReserved q =>
    cases hr
    rcases hp with hp | ht | ht
    · obtain ⟨change, hn, _⟩ := move_commit hp (.reserved q) hd
      rw [hn]
      exact ⟨change, fun _ hq => (nomatch hq), trivial⟩
    · cases ht
    · cases ht
  | reservationFailed f =>
    cases hr
    rcases hp with hp | ht | ht
    · obtain ⟨change, hn, ended⟩ := move_commit hp (.refused f) hd
      rw [hn]
      exact ⟨change, fun _ hq => (nomatch hq), ended rfl⟩
    · cases ht
    · cases ht
  | payment q =>
    cases hr
    rcases hp with hp | ht | ht
    · obtain ⟨change, hn, ended⟩ := move_commit hp (.paid q) hd
      rw [hn]
      exact ⟨change, fun _ hq => (nomatch hq), ended (paymentStatus_isFinal q.status)⟩
    · cases ht
    · cases ht
  | _ => cases hr

/-- An order that is there is moved unless the store is down. -/
theorem move_failure {id : OrderId} {status : OrderStatus} {s : OrderStore} {e : ServiceError}
    (known : ∃ o, s.orders.get? id = some o) (he : Orders.move id status stamp s = .error e) :
    e.isRetryable = true := by
  obtain ⟨o, ho⟩ := known
  unfold Orders.move at he
  rcases bind_eq_error.1 he with he | ⟨⟨x, s'⟩, hs, he⟩
  · unfold OrderStore.updateStatus at he
    rcases bind_eq_error.1 he with he | ⟨_, _, he⟩
    · exact orders_unavailable he
    · rw [ho] at he
      dsimp only at he
      split at he <;> cases he
  · rcases OrderStore.updateStatus_eq_ok hs with
      ⟨hn, _⟩ | ⟨o', _, ⟨_, rfl, _⟩ | ⟨_, rfl, _⟩⟩
    · rw [ho] at hn
      cases hn
    · cases he
    · cases he

/-- An order of which anything was announced by the others is there. -/
theorem known_of_hold (h : Agreement r) {id : OrderId} {x : Hold}
    (hx : r.inventory.holds.get? id = some x) : ∃ o, r.orders.orders.get? id = some o := by
  obtain ⟨c, hc, rfl⟩ := h.asked id x hx
  exact h.backed _ hc

theorem known_of_asks (h : Agreement r) {id : OrderId} {status : OrderStatus} (hp : p ∈ r.said)
    (asks : Asks p id status) : ∃ o, r.orders.orders.get? id = some o := by
  cases asks with
  | reserved q =>
    obtain ⟨x, hx, _⟩ := h.backed _ hp
    exact known_of_hold h hx
  | refused f =>
    obtain ⟨reason, hx⟩ := h.backed _ hp
    exact known_of_hold h hx
  | paid q =>
    obtain ⟨y, hy, _⟩ := h.backed _ hp
    obtain ⟨v, hv, he⟩ := h.charged q.order y hy
    obtain ⟨x, hx, _⟩ := h.backed _ hv
    rw [he] at hx
    exact known_of_hold h hx

/-- The order service fails before its commit only while its store is down: the order is there. -/
theorem orders_failure {operation : Operation OrderStore Unit} {e : ServiceError}
    (h : Agreement r) (hp : Heard r p)
    (hr : Orders.participant.react p = some (.perform operation))
    (he : operation stamp r.orders = .error e) : e.isRetryable = true := by
  cases p with
  | accountCreated a role =>
    cases hr
    cases he
  | productReserved q =>
    cases hr
    rcases hp with hp | ht | ht
    · exact move_failure (known_of_asks h hp (.reserved q)) he
    · cases ht
    · cases ht
  | reservationFailed f =>
    cases hr
    rcases hp with hp | ht | ht
    · exact move_failure (known_of_asks h hp (.refused f)) he
    · cases ht
    · cases ht
  | payment q =>
    cases hr
    rcases hp with hp | ht | ht
    · exact move_failure (known_of_asks h hp (.paid q)) he
    · cases ht
    · cases ht
  | _ => cases hr

/-! ## Payments -/

theorem payments_unavailable {s : PaymentStore} {e : ServiceError} (h : s.check = .error e) :
    e.isRetryable = true := by
  unfold PaymentStore.check at h
  split at h
  · cases h
    rfl
  · cases h

/-- What is announced about a charge is how it went, and that is said. -/
theorem backed_report {q : ProductReserved} {x : Debit}
    (hx : r.payments.debits.get? q.order = some x) :
    (∀ n ∈ Payments.report q x, Backed r n) ∧
      ∃ n, .payment n ∈ Payments.report q x ∧ n.order = q.order := by
  unfold Payments.report
  cases x with
  | approved t =>
    refine ⟨fun n hn => ?_, _, List.mem_cons_of_mem _ List.mem_cons_self, rfl⟩
    rcases List.mem_cons.1 hn with rfl | hn
    · trivial
    · cases List.mem_singleton.1 hn
      exact ⟨_, hx, rfl⟩
  | _ =>
    refine ⟨fun n hn => ?_, _, List.mem_cons_self, rfl⟩
    cases List.mem_singleton.1 hn
    exact ⟨_, hx, rfl⟩

theorem charge_commit {q : ProductReserved} {d : Commit PaymentStore Unit}
    (hq : .productReserved q ∈ r.said) (hd : Payments.charge q stamp r.payments = .ok d) :
    Effect r { r with payments := d.store } d.news .payments (.productReserved q) := by
  unfold Payments.charge at hd
  obtain ⟨⟨x, s⟩, hs, hd⟩ := bind_eq_ok.1 hd
  cases pure_eq_ok.1 hd
  -- the outcome is there before or is new; either way it is there afterwards
  have change : Change r { r with payments := s } ∧ s.debits.get? q.order = some x := by
    rcases PaymentStore.charge_eq_ok hs with ⟨hx, rfl⟩ | ⟨first, hs⟩
    · exact ⟨.refl r, hx⟩
    · rcases PaymentStore.chargeNew_cases hs with
        ⟨_, rfl⟩ | ⟨w, rest, _, _, _, _, rfl, rfl⟩
      · exact ⟨.charge q hq first x _ rfl, Table.get?_put_self _ _ _⟩
      · exact ⟨.charge q hq first _ _ rfl, Table.get?_put_self _ _ _⟩
  obtain ⟨backed, n, hn, he⟩ := backed_report (r := { r with payments := s }) change.2
  exact ⟨change.1, backed, n, List.mem_append_right _ hn, he⟩

/-- **What the payment service commits about an event.** -/
theorem payments_commit {initial : Money} {operation : Operation PaymentStore Unit}
    {d : Commit PaymentStore Unit} (hp : Heard r p)
    (hr : (Payments.participant initial).react p = some (.perform operation))
    (hd : operation stamp r.payments = .ok d) :
    Effect r { r with payments := d.store } d.news .payments p := by
  cases p with
  | accountCreated a role =>
    cases hr
    unfold Payments.greet at hd
    obtain ⟨⟨w, s⟩, hs, hd⟩ := bind_eq_ok.1 hd
    cases pure_eq_ok.1 hd
    refine ⟨?_, backed_of_grants fun q hq => ?_, trivial⟩
    · rcases PaymentStore.openWallet_eq_ok hs with ⟨_, rfl⟩ | ⟨_, _, rfl⟩
      · exact .refl r
      · exact .quiet _ _ _ rfl rfl rfl rfl
    · cases role with
      | customer => cases List.mem_singleton.1 hq; rfl
      | _ => cases hq
  | productReserved q =>
    cases hr
    rcases hp with hp | ht | ht
    · exact charge_commit hp hd
    · cases ht
    · cases ht
  | _ => cases hr

/-- The payment service fails before its commit only while its store is down. -/
theorem payments_failure {initial : Money} {operation : Operation PaymentStore Unit}
    {s : PaymentStore} {e : ServiceError}
    (hr : (Payments.participant initial).react p = some (.perform operation))
    (he : operation stamp s = .error e) : e.isRetryable = true := by
  cases p with
  | accountCreated a role =>
    cases hr
    unfold Payments.greet PaymentStore.openWallet at he
    rcases bind_eq_error.1 he with he | ⟨_, _, he⟩
    · rcases bind_eq_error.1 he with he | ⟨_, _, he⟩
      · exact payments_unavailable he
      · split at he <;> cases he
    · cases he
  | productReserved q =>
    cases hr
    unfold Payments.charge PaymentStore.charge at he
    rcases bind_eq_error.1 he with he | ⟨_, _, he⟩
    · rcases bind_eq_error.1 he with he | ⟨_, _, he⟩
      · exact payments_unavailable he
      · split at he <;> cases he
    · cases he
  | _ => cases hr

/-! ## Calls of clients -/

theorem createMerchant_commit {owner : AccountId} {name : String}
    {d : Commit InventoryStore Merchant}
    (hd : Inventory.createMerchant owner name stamp r.inventory = .ok d) :
    Change r { r with inventory := d.store } ∧
      ∀ q ∈ d.news, Backed { r with inventory := d.store } q := by
  unfold Inventory.createMerchant at hd
  split at hd
  · cases hd
  · obtain ⟨⟨m, s⟩, hs, hd⟩ := bind_eq_ok.1 hd
    cases pure_eq_ok.1 hd
    obtain ⟨_, rfl⟩ := InventoryStore.createMerchant_eq_ok hs
    refine ⟨.quiet _ _ _ rfl rfl rfl rfl, backed_of_grants fun q hq => ?_⟩
    rcases List.mem_cons.1 hq with rfl | hq
    · rfl
    · cases List.mem_singleton.1 hq
      rfl

theorem createProduct_commit {owner : AccountId} {merchant : MerchantId} {name : String}
    {price : Money} {quantity : UInt32} {d : Commit InventoryStore Product}
    (hd : Inventory.createProduct owner merchant name price quantity stamp r.inventory = .ok d) :
    Change r { r with inventory := d.store } ∧
      ∀ q ∈ d.news, Backed { r with inventory := d.store } q := by
  unfold Inventory.createProduct at hd
  dsimp only at hd
  split at hd
  · cases hd
  · split at hd
    · cases hd
    · obtain ⟨⟨m, s⟩, hs, hd⟩ := bind_eq_ok.1 hd
      cases pure_eq_ok.1 hd
      obtain ⟨_, rfl⟩ := InventoryStore.createProduct_eq_ok hs
      refine ⟨.quiet _ _ _ rfl rfl rfl rfl, backed_of_grants fun q hq => ?_⟩
      cases List.mem_singleton.1 hq
      rfl

theorem place_commit {buyer : AccountId} {product : ProductId} {quantity : UInt32}
    {d : Commit OrderStore Order}
    (hd : Orders.place buyer product quantity stamp r.orders = .ok d) :
    Change r { r with orders := d.store } ∧
      ∀ q ∈ d.news, Backed { r with orders := d.store } q := by
  unfold Orders.place at hd
  split at hd
  · cases hd
  · obtain ⟨⟨o, s⟩, hs, hd⟩ := bind_eq_ok.1 hd
    cases pure_eq_ok.1 hd
    obtain ⟨new, rfl, rfl⟩ := OrderStore.create_eq_ok hs
    refine ⟨.place _ new rfl, fun q hq => ?_⟩
    rcases List.mem_cons.1 hq with rfl | hq
    · exact ⟨_, Table.get?_put_self _ _ _⟩
    · rcases List.mem_cons.1 hq with rfl | hq
      · trivial
      · cases List.mem_singleton.1 hq
        trivial

theorem recharge_commit {account : AccountId} {amount : Money}
    {d : Commit PaymentStore Transaction}
    (hd : Payments.recharge account amount stamp r.payments = .ok d) :
    Change r { r with payments := d.store } ∧
      ∀ q ∈ d.news, Backed { r with payments := d.store } q := by
  unfold Payments.recharge at hd
  split at hd
  · cases hd
  · obtain ⟨⟨t, s⟩, hs, hd⟩ := bind_eq_ok.1 hd
    cases pure_eq_ok.1 hd
    obtain ⟨w, balance, _, _, rfl, rfl⟩ := PaymentStore.credit_eq_ok hs
    refine ⟨.quiet _ _ _ rfl rfl rfl rfl, backed_of_grants fun q hq => ?_⟩
    cases List.mem_singleton.1 hq
    rfl

/-! ## Attempts -/

variable {σ α : Type} {store s : σ} {said : List Payload} (put : σ → Records)

/-- An attempt changes the records as its commit does, if it gets there, and announces no more. -/
theorem attempt {result : Except ServiceError (Commit σ α)} {x : Except ServiceError α}
    (out : Outcome result store x s said) (start : put store = r)
    (commit : ∀ c, result = .ok c →
      Change r (put c.store) ∧ ∀ q ∈ c.news, Backed (put c.store) q) :
    Change r (put s) ∧ ∀ q ∈ said, Backed (put s) q := by
  have same : Change r (put store) := by
    rw [start]
    exact .refl r
  exact out.elim (P := fun s => Change r (put s)) (Q := fun s => Backed (put s)) same commit

/-- An attempt that is not made again has done what the event is for. -/
theorem attempt_done {result : Except ServiceError (Commit σ Unit)}
    {x : Except ServiceError Unit} {v : Service} (out : Outcome result store x s said)
    (failure : ∀ e, result = .error e → e.isRetryable = true)
    (commit : ∀ c, result = .ok c →
      Done { put c.store with said := (put c.store).said ++ c.news } v p)
    (settled : Handler.disposition x ≠ .retry) :
    Done { put s with said := (put s).said ++ said } v p := by
  cases out with
  | refused e h => exact (settled (if_pos (failure e h))).elim
  | done c h => exact commit c h
  | cut c h b said part => exact (settled rfl).elim

/-! ## At a desk -/

/-- What a call of a client does to the records, wherever in them the store of the desk is. -/
theorem performFor_effect (participant : Participant σ) (g : Grants) (caller : Claims)
    (needed : List Permission) (correlation : String) (operation : Operation σ α) (d : Desk σ)
    (start : put d.store = r)
    (commit : ∀ stamp c, operation stamp d.store = .ok c →
      Change r (put c.store) ∧ ∀ q ∈ c.news, Backed (put c.store) q) :
    Change r (put (participant.performFor g caller needed correlation operation d).2.store) ∧
      ∀ q ∈ (participant.performedFor g caller needed correlation operation d).map Event.payload,
        Backed (put (participant.performFor g caller needed correlation operation d).2.store)
          q := by
  rcases participant.performFor_outcome g caller needed correlation operation d with
    ⟨_, hs, hn⟩ | out
  · rw [hs, hn, start]
    exact ⟨.refl r, fun _ hq => nomatch hq⟩
  · exact attempt put out start (commit _)

/-- What an event does to the records, and that it is done if it does not come again. -/
theorem handle_effect {v : Service} (participant : Participant σ) (g : Grants)
    (correlation : String) (d : Desk σ) (start : put d.store = r)
    (commit : ∀ operation stamp c, participant.react p = some (.perform operation) →
      operation stamp d.store = .ok c → Effect r (put c.store) c.news v p)
    (failure : ∀ operation stamp e, participant.react p = some (.perform operation) →
      operation stamp d.store = .error e → e.isRetryable = true)
    (idle : (∀ operation, participant.react p ≠ some (.perform operation)) →
      ∀ r : Records, Done r v p) :
    Change r (put (participant.handle g correlation p d).2.store) ∧
    (∀ q ∈ (participant.handled correlation p d).map Event.payload,
      Backed (put (participant.handle g correlation p d).2.store) q) ∧
    (Handler.disposition (participant.handle g correlation p d).1 ≠ .retry →
      let mid := put (participant.handle g correlation p d).2.store
      Done { mid with
        said := mid.said ++ (participant.handled correlation p d).map Event.payload } v p) := by
  rcases participant.handle_outcome g correlation p d with ⟨no, hs, hn⟩ | ⟨operation, hr, out⟩
  · rw [hs, hn, start]
    exact ⟨.refl r, fun _ hq => (nomatch hq), fun _ => idle no _⟩
  · obtain ⟨change, backed⟩ := attempt put out start fun c hc =>
      ⟨(commit operation _ c hr hc).change, (commit operation _ c hr hc).backed⟩
    refine ⟨change, backed, fun settled => ?_⟩
    exact attempt_done put out (failure operation _ · hr)
      (fun c hc => (commit operation _ c hr hc).done) settled

theorem inventory_idle (no : ∀ operation, Inventory.participant.react p ≠
    some (.perform operation)) (r : Records) : Done r .inventory p := by
  cases p with
  | orderCreated c => exact (no _ rfl).elim
  | payment q => exact (no _ rfl).elim
  | _ => trivial

theorem orders_idle (no : ∀ operation, Orders.participant.react p ≠ some (.perform operation))
    (r : Records) : Done r .orders p := by
  cases p with
  | reservationFailed f => exact (no _ rfl).elim
  | payment q => exact (no _ rfl).elim
  | _ => trivial

theorem payments_idle {initial : Money} (no : ∀ operation,
    (Payments.participant initial).react p ≠ some (.perform operation)) (r : Records) :
    Done r .payments p := by
  cases p with
  | productReserved q => exact (no _ rfl).elim
  | _ => trivial

/-- What is done stays done. -/
theorem Later.done {r' : Records} (h : Later r r') {v : Service} (hd : Done r v p) :
    Done r' v p := by
  have ended : ∀ {id}, Ended r id → Ended r' id := by
    rintro id ⟨o, ho, final⟩
    obtain ⟨o', ho', same⟩ := h.order id o ho
    exact ⟨o', ho', by rw [same final]; exact final⟩
  cases v with
  | inventory =>
    cases p with
    | orderCreated c =>
      rcases hd with ⟨q, hq, he⟩ | ⟨f, hf, he⟩
      · exact .inl ⟨q, h.said _ hq, he⟩
      · exact .inr ⟨f, h.said _ hf, he⟩
    | payment q =>
      obtain ⟨x, hx, he⟩ := hd
      rcases h.hold q.order x hx with hx | ⟨_, x', hx', he'⟩
      · exact ⟨x, hx, he⟩
      · exact ⟨x', hx', he'⟩
    | _ => trivial
  | orders =>
    cases p with
    | reservationFailed f => exact ended hd
    | payment q => exact ended hd
    | _ => trivial
  | payments =>
    cases p with
    | productReserved q =>
      obtain ⟨n, hn, he⟩ := hd
      exact ⟨n, h.said _ hn, he⟩
    | _ => trivial
  | _ => trivial

end Saga

end Marketplace
