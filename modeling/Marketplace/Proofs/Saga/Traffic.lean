import Mathlib.Logic.Relation
import Marketplace.Market.Basic
import Marketplace.Proofs.Saga.Reactions

/-!
# The traffic of the marketplace

The inventory, order and payment services at work, with the messages on their way between them.
Clients call, messages are delivered in any order and as often as one likes, stores go down, the
bus fails at any event, and events about accounts and grants arrive with any content. A message is
pending until an attempt on it is not to be made again; it may arrive more often than that.

Everything else of the market, such as the caches of grants, the list of grants, the accounts, the
clock, the identifiers and the bus, may change in any way between two steps.

## Results

* `deliver_effect`, `ClientCall.effect`: what one attempt does to the records.
* `Traffic.Step.published`: what counts as published is what the bus was given.
* `Traffic.Inv.step`: agreement, and progress on what is pending, are kept by every step.
-/

namespace Marketplace

/-! ## One attempt -/

namespace Market

variable {σ α : Type}

/-- The events that go out when a participant handles an event. -/
def handledAt (seat : Seat σ) (e : Event) (m : Market) : List Event :=
  (seat.participant m.settings).handled e.header.correlation e.payload (m.desk seat)

/-- The events that go out when a service handles an event. -/
def handled (v : Service) (e : Event) (m : Market) : List Event :=
  match v with
  | .identity => m.handledAt .identity e
  | .authorization => m.handledAt .authorization e
  | .inventory => m.handledAt .inventory e
  | .orders => m.handledAt .orders e
  | .payments => m.handledAt .payments e

/-- Hands an event to a service. -/
def deliver (v : Service) (e : Event) (m : Market) : Disposition × Market :=
  match (handler m.settings v).handle e.header.correlation e.payload m with
  | (r, m) => (Handler.disposition r, m)

/-- The events that go out when a caller asks for something. -/
def performedFor (seat : Seat σ) (caller : Claims) (needed : List Permission)
    (correlation : String) (operation : Operation σ α) (m : Market) : List Event :=
  (seat.participant m.settings).performedFor m.grants caller needed correlation operation
    (m.desk seat)

theorem atDesk_snd {β : Type} (seat : Seat σ) (work : Participant σ → Grants → Desk σ → β × Desk σ)
    (m : Market) : (m.atDesk seat work).2 =
      m.withDesk seat (work (seat.participant m.settings) m.grants (m.desk seat)).2 :=
  rfl

/-- To hand a service the octets of an event that it takes is to hand it the event. -/
theorem dispatch_of_taken {v : Service} {octets : ByteArray} {e : Event} {m : Market}
    (h : (handler m.settings v).read octets = .taken e) :
    m.dispatch v octets = ((m.deliver v e).1,
      Connected.count (.eventConsumed e.name (m.deliver v e).1) (m.deliver v e).2) := by
  unfold dispatch Handler.dispatch
  rw [h]
  rfl

/-- The log of the bus grows by what a service announces when it handles an event. -/
theorem deliver_log (v : Service) (e : Event) (m : Market) :
    (m.deliver v e).2.outlet.bus.log =
      m.outlet.bus.log ++ (m.handled v e).filterMap Registry.standard.post? := by
  cases v <;> exact Participant.handle_log _ _ _ _ _

/-- The log of the bus grows by what is announced when a caller asks for something. -/
theorem performFor_log (seat : Seat σ) (caller : Claims) (needed : List Permission)
    (correlation : String) (operation : Operation σ α) (m : Market) :
    (performFor seat caller needed correlation operation m).2.outlet.bus.log =
      m.outlet.bus.log ++ (performedFor seat caller needed correlation operation m).filterMap
        Registry.standard.post? :=
  Participant.performFor_log _ _ _ _ _ _ _

theorem deliver_settings (v : Service) (e : Event) (m : Market) :
    (m.deliver v e).2.settings = m.settings := by
  cases v <;> rfl

theorem performedFor_standard (seat : Seat σ) (caller : Claims) (needed : List Permission)
    (correlation : String) (operation : Operation σ α) (m : Market) :
    ∀ e ∈ performedFor seat caller needed correlation operation m, e.IsStandard :=
  Participant.performedFor_standard _ _ _ _ _ _ _

theorem handled_standard (v : Service) (e : Event) (m : Market) :
    ∀ a ∈ m.handled v e, a.IsStandard := by
  cases v <;> exact Participant.handled_standard _ _ _ _

end Market

namespace Saga

open Relation

/-- The services that take part in an order. -/
def receivers : List Service := [.inventory, .orders, .payments]

/-- The records of the three services. -/
def recordsOf (m : Market) (said : List Payload) : Records :=
  ⟨m.inventory.store, m.orders.store, m.payments.store, said⟩

theorem recordsOf_inventory (d : Desk InventoryStore) (m : Market) (said : List Payload) :
    recordsOf (m.withDesk .inventory d) said = { recordsOf m said with inventory := d.store } :=
  rfl

theorem recordsOf_orders (d : Desk OrderStore) (m : Market) (said : List Payload) :
    recordsOf (m.withDesk .orders d) said = { recordsOf m said with orders := d.store } :=
  rfl

theorem recordsOf_payments (d : Desk PaymentStore) (m : Market) (said : List Payload) :
    recordsOf (m.withDesk .payments d) said = { recordsOf m said with payments := d.store } :=
  rfl

/-- **What a delivery does to the records**, and that its event is done unless it is to come
again. -/
theorem deliver_effect {m : Market} {said : List Payload} {v : Service} {e : Event}
    (h : Agreement (recordsOf m said)) (hv : v ∈ receivers)
    (heard : Heard (recordsOf m said) e.payload) :
    Change (recordsOf m said) (recordsOf (m.deliver v e).2 said) ∧
    (∀ q ∈ (m.handled v e).map Event.payload, Backed (recordsOf (m.deliver v e).2 said) q) ∧
    ((m.deliver v e).1 ≠ .retry →
      Done (recordsOf (m.deliver v e).2 (said ++ (m.handled v e).map Event.payload)) v
        e.payload) := by
  simp only [receivers, List.mem_cons, List.not_mem_nil, or_false] at hv
  rcases hv with rfl | rfl | rfl
  · exact handle_effect (fun s => { recordsOf m said with inventory := s })
      Inventory.participant m.grants e.header.correlation (m.desk .inventory) rfl
      (fun _ _ _ hr hc => inventory_commit h heard hr hc)
      (fun _ _ _ hr he => inventory_failure hr he) inventory_idle
  · exact handle_effect (fun s => { recordsOf m said with orders := s })
      Orders.participant m.grants e.header.correlation (m.desk .orders) rfl
      (fun _ _ _ hr hc => orders_commit heard hr hc)
      (fun _ _ _ hr he => orders_failure h heard hr he) orders_idle
  · exact handle_effect (fun s => { recordsOf m said with payments := s })
      (Payments.participant m.settings.initialBalance) m.grants e.header.correlation
      (m.desk .payments) rfl
      (fun _ _ _ hr hc => payments_commit heard hr hc)
      (fun _ _ _ hr he => payments_failure hr he) payments_idle

/-! ## Calls of clients -/

/-- A call of a client that may concern an order. -/
inductive ClientCall where
  | createMerchant (name : String)
  | createProduct (merchant : MerchantId) (name : String) (price : Money) (quantity : UInt32)
  | placeOrder (product : ProductId) (quantity : UInt32)
  | recharge (amount : Money)

namespace ClientCall

/-- The market after a call. -/
def after (correlation : String) (caller : Claims) (m : Market) : ClientCall → Market
  | .createMerchant name => (m.createMerchant correlation caller name).2
  | .createProduct merchant name price quantity =>
    (m.createProduct correlation caller merchant name price quantity).2
  | .placeOrder product quantity => (m.placeOrder correlation caller product quantity).2
  | .recharge amount => (m.recharge correlation caller amount).2

/-- The events that go out at a call. -/
def announced (correlation : String) (caller : Claims) (m : Market) : ClientCall → List Event
  | .createMerchant name =>
    m.performedFor .inventory caller Inventory.createMerchantPermissions correlation
      (Inventory.createMerchant caller.account name)
  | .createProduct merchant name price quantity =>
    m.performedFor .inventory caller (Inventory.createProductPermissions merchant) correlation
      (Inventory.createProduct caller.account merchant name price quantity)
  | .placeOrder product quantity =>
    m.performedFor .orders caller Orders.placePermissions correlation
      (Orders.place caller.account product quantity)
  | .recharge amount =>
    m.performedFor .payments caller Payments.rechargePermissions correlation
      (Payments.recharge caller.account amount)

variable {correlation : String} {caller : Claims} {m : Market}

/-- Every call is made to the inventory, to the orders or to the payments. -/
theorem elim {motive : Market → List Event → Prop}
    (inventory : ∀ (α : Type) (needed : List Permission) (operation : Operation InventoryStore α),
      motive (Market.performFor .inventory caller needed correlation operation m).2
        (Market.performedFor .inventory caller needed correlation operation m))
    (orders : ∀ (α : Type) (needed : List Permission) (operation : Operation OrderStore α),
      motive (Market.performFor .orders caller needed correlation operation m).2
        (Market.performedFor .orders caller needed correlation operation m))
    (payments : ∀ (α : Type) (needed : List Permission) (operation : Operation PaymentStore α),
      motive (Market.performFor .payments caller needed correlation operation m).2
        (Market.performedFor .payments caller needed correlation operation m))
    (c : ClientCall) :
    motive (c.after correlation caller m) (c.announced correlation caller m) := by
  cases c with
  | createMerchant name => exact inventory _ _ _
  | createProduct merchant name price quantity => exact inventory _ _ _
  | placeOrder product quantity => exact orders _ _ _
  | recharge amount => exact payments _ _ _

theorem log (c : ClientCall) :
    (c.after correlation caller m).outlet.bus.log =
      m.outlet.bus.log ++
        (c.announced correlation caller m).filterMap Registry.standard.post? := by
  apply c.elim (motive := fun m' events => m'.outlet.bus.log =
    m.outlet.bus.log ++ events.filterMap Registry.standard.post?)
  all_goals
    intro α needed operation
    exact Market.performFor_log _ caller needed correlation operation m

theorem settings (c : ClientCall) : (c.after correlation caller m).settings = m.settings := by
  apply c.elim (motive := fun m' _ => m'.settings = m.settings)
  all_goals
    intro α needed operation
    unfold Market.performFor
    rw [Market.atDesk_snd]
    rfl

theorem announced_standard (c : ClientCall) :
    ∀ e ∈ c.announced correlation caller m, e.IsStandard := by
  apply c.elim (motive := fun _ events => ∀ e ∈ events, e.IsStandard)
  all_goals
    intro α needed operation
    exact Market.performedFor_standard _ caller needed correlation operation m

/-- **What a call does to the records.** -/
theorem effect (correlation : String) (caller : Claims) (m : Market) (c : ClientCall)
    (said : List Payload) :
    Change (recordsOf m said) (recordsOf (c.after correlation caller m) said) ∧
    ∀ q ∈ (c.announced correlation caller m).map Event.payload,
      Backed (recordsOf (c.after correlation caller m) said) q := by
  cases c with
  | createMerchant name =>
    dsimp only [after, announced, Market.createMerchant, Market.performFor]
    rw [Market.atDesk_snd, recordsOf_inventory]
    exact performFor_effect (fun s => { recordsOf m said with inventory := s })
      (Seat.inventory.participant m.settings) m.grants caller
      Inventory.createMerchantPermissions correlation
      (Inventory.createMerchant caller.account name) (m.desk .inventory) rfl
      fun _ _ hc => createMerchant_commit hc
  | createProduct merchant name price quantity =>
    dsimp only [after, announced, Market.createProduct, Market.performFor]
    rw [Market.atDesk_snd, recordsOf_inventory]
    exact performFor_effect (fun s => { recordsOf m said with inventory := s })
      (Seat.inventory.participant m.settings) m.grants caller
      (Inventory.createProductPermissions merchant) correlation
      (Inventory.createProduct caller.account merchant name price quantity)
      (m.desk .inventory) rfl fun _ _ hc => createProduct_commit hc
  | placeOrder product quantity =>
    dsimp only [after, announced, Market.placeOrder, Market.performFor]
    rw [Market.atDesk_snd, recordsOf_orders]
    exact performFor_effect (fun s => { recordsOf m said with orders := s })
      (Seat.orders.participant m.settings) m.grants caller Orders.placePermissions correlation
      (Orders.place caller.account product quantity) (m.desk .orders) rfl
      fun _ _ hc => place_commit hc
  | recharge amount =>
    dsimp only [after, announced, Market.recharge, Market.performFor]
    rw [Market.atDesk_snd, recordsOf_payments]
    exact performFor_effect (fun s => { recordsOf m said with payments := s })
      (Seat.payments.participant m.settings) m.grants caller
      Payments.rechargePermissions correlation (Payments.recharge caller.account amount)
      (m.desk .payments) rfl fun _ _ hc => recharge_commit hc

end ClientCall

/-! ## Steps -/

/-- An event on its way to a service. -/
structure Message where
  receiver : Service
  event : Event

/-- The market, every event that the three services published, and the messages that have not been
settled. -/
structure Traffic where
  market : Market
  published : List Event
  pending : List Message

namespace Traffic

/-- Before anything has happened. -/
def start (settings : MarketSettings) (outlet : Outlet) (supply : Supply) : Traffic :=
  ⟨.new settings outlet supply, [], []⟩

/-- The services of an order that subscribe to an event. -/
def subscribers (settings : MarketSettings) (e : Event) : List Service :=
  receivers.filter fun v => (Market.handler settings v).names.contains e.name

/-- One message for every service that subscribes to an event. -/
def messages (settings : MarketSettings) (events : List Event) : List Message :=
  events.flatMap fun e => (subscribers settings e).map fun v => ⟨v, e⟩

/-- The traffic after some events went out. -/
def publish (t : Traffic) (market : Market) (events : List Event) (pending : List Message) :
    Traffic :=
  ⟨market, t.published ++ events, pending ++ messages market.settings events⟩

/-- What may arrive at any time: what was published, and events about accounts and grants. -/
def MayArrive (t : Traffic) (e : Event) : Prop :=
  e.payload ∈ t.published.map Event.payload ∨ e.payload.topic = .accountCreated ∨
    e.payload.topic = .policyUpdated

/-- Two markets with the same settings and the same records of merchants, products, orders, holds
and payments. -/
structure SameRecords (m m' : Market) : Prop where
  settings : m'.settings = m.settings
  inventory : ∃ isDown, m'.inventory.store = { m.inventory.store with isDown := isDown }
  orders : ∃ isDown, m'.orders.store = { m.orders.store with isDown := isDown }
  payments : ∃ isDown, m'.payments.store = { m.payments.store with isDown := isDown }

/-- A step of the traffic. -/
inductive Step : Traffic → Traffic → Prop
  /-- A client calls. -/
  | call (correlation : String) (caller : Claims) (c : ClientCall) (t : Traffic) :
    Step t (t.publish (c.after correlation caller t.market)
      (c.announced correlation caller t.market) t.pending)
  /-- An event arrives, whether or not it is pending. -/
  | arrive (v : Service) (hv : v ∈ receivers) (e : Event) (t : Traffic) (he : t.MayArrive e) :
    Step t (t.publish (t.market.deliver v e).2 (t.market.handled v e) t.pending)
  /-- A pending message is attempted, and settled unless it is to come again. -/
  | attempt (before after : List Message) (m : Message) (t : Traffic)
    (hm : t.pending = before ++ m :: after) :
    Step t (t.publish (t.market.deliver m.receiver m.event).2
      (t.market.handled m.receiver m.event)
      (if (t.market.deliver m.receiver m.event).1 = .retry then t.pending else before ++ after))
  /-- Stores go down or up, and everything but the records changes. -/
  | surroundings (market : Market) (t : Traffic) (same : SameRecords t.market market) :
    Step t { t with market := market }

/-- The records of the services, and what they said. -/
def records (t : Traffic) : Records := recordsOf t.market (t.published.map Event.payload)

variable {t t' : Traffic}

/-- What counts as published is what the bus was given. -/
theorem Step.published (h : Step t t') :
    t'.published = t.published ∨ ∃ events, t'.published = t.published ++ events ∧
      t'.market.outlet.bus.log =
        t.market.outlet.bus.log ++ events.filterMap Registry.standard.post? := by
  cases h with
  | call correlation caller c => exact .inr ⟨_, rfl, c.log⟩
  | arrive v hv e _ he => exact .inr ⟨_, rfl, t.market.deliver_log v e⟩
  | attempt before after m _ hm => exact .inr ⟨_, rfl, t.market.deliver_log m.receiver m.event⟩
  | surroundings market _ same => exact .inl rfl

/-! ## The invariant -/

/-- The records agree; what is pending was published; and what was published is pending or done at
every service that subscribes to it. -/
structure Inv (t : Traffic) : Prop where
  agreement : Agreement t.records
  standard : ∀ e ∈ t.published, e.IsStandard
  pending : ∀ m ∈ t.pending, m.event ∈ t.published ∧ m.receiver ∈ receivers
  progress : ∀ e ∈ t.published, ∀ v ∈ subscribers t.market.settings e,
    ⟨v, e⟩ ∈ t.pending ∨ Done t.records v e.payload

theorem mem_messages {settings : MarketSettings} {events : List Event} {m : Message} :
    m ∈ messages settings events ↔
      m.event ∈ events ∧ m.receiver ∈ subscribers settings m.event := by
  unfold messages
  rw [List.mem_flatMap]
  constructor
  · rintro ⟨e, he, hm⟩
    obtain ⟨v, hv, rfl⟩ := List.mem_map.1 hm
    exact ⟨he, hv⟩
  · rintro ⟨he, hv⟩
    exact ⟨m.event, he, List.mem_map.2 ⟨m.receiver, hv, rfl⟩⟩

theorem inv_start (settings : MarketSettings) (outlet : Outlet) (supply : Supply) :
    Inv (start settings outlet supply) :=
  ⟨agreement_start, fun _ he => (nomatch he), fun _ hm => (nomatch hm), fun _ he => (nomatch he)⟩

/-- Publishing what stands in the records keeps the invariant, provided that what leaves the line
is done. -/
theorem Inv.publish (h : Inv t) {market : Market} {events : List Event}
    {pending : List Message} (settings : market.settings = t.market.settings)
    (change : Change t.records (recordsOf market (t.published.map Event.payload)))
    (backed : ∀ q ∈ events.map Event.payload,
      Backed (recordsOf market (t.published.map Event.payload)) q)
    (standard : ∀ e ∈ events, e.IsStandard)
    (sub : ∀ m ∈ pending, m ∈ t.pending)
    (left : ∀ m ∈ t.pending, m ∈ pending ∨
      Done (t.publish market events pending).records m.receiver m.event.payload) :
    Inv (t.publish market events pending) := by
  have records : (t.publish market events pending).records =
      recordsOf market (t.published.map Event.payload ++ events.map Event.payload) := by
    unfold Traffic.records Traffic.publish
    rw [List.map_append]
  have later : Later t.records (t.publish market events pending).records := by
    rw [records]
    exact (change.later h.agreement).trans (.say _ _)
  refine ⟨?_, ?_, ?_, ?_⟩
  · rw [records]
    exact (h.agreement.change change).say backed
  · intro e he
    rcases List.mem_append.1 he with he | he
    · exact h.standard e he
    · exact standard e he
  · intro m hm
    rcases List.mem_append.1 hm with hm | hm
    · obtain ⟨he, hv⟩ := h.pending m (sub m hm)
      exact ⟨List.mem_append_left _ he, hv⟩
    · obtain ⟨he, hv⟩ := mem_messages.1 hm
      exact ⟨List.mem_append_right _ he, (List.mem_filter.1 hv).1⟩
  · intro e he v hv
    rcases List.mem_append.1 he with he | he
    · have hv' : v ∈ subscribers t.market.settings e := settings ▸ hv
      rcases h.progress e he v hv' with hm | done
      · rcases left _ hm with hm | done
        · exact .inl (List.mem_append_left _ hm)
        · exact .inr done
      · exact .inr (later.done done)
    · exact .inl (List.mem_append_right _ (mem_messages.2 ⟨he, hv⟩))

section

variable {before after : List Message} {m : Message}

/-- What is attempted is pending, is for one of the three services, and was said. -/
theorem Inv.heard (h : Inv t) (hm : t.pending = before ++ m :: after) :
    m ∈ t.pending ∧ m.receiver ∈ receivers ∧ Heard t.records m.event.payload := by
  have pending : m ∈ t.pending := by
    rw [hm]
    exact List.mem_append_cons_self
  obtain ⟨he, hv⟩ := h.pending m pending
  exact ⟨pending, hv, .inl (List.mem_map_of_mem he)⟩

/-- What is pending after an attempt was pending before. -/
theorem mem_pending_of_left (hm : t.pending = before ++ m :: after) {d : Disposition}
    {a : Message} (ha : a ∈ if d = .retry then t.pending else before ++ after) :
    a ∈ t.pending := by
  split at ha
  · exact ha
  · rw [hm]
    exact List.perm_middle.mem_iff.2 (List.mem_cons_of_mem _ ha)

end

theorem SameRecords.change {m m' : Market} (h : SameRecords m m') (said : List Payload) :
    Change (recordsOf m said) (recordsOf m' said) := by
  obtain ⟨_, hi⟩ := h.inventory
  obtain ⟨_, ho⟩ := h.orders
  obtain ⟨_, hp⟩ := h.payments
  apply Change.quiet m'.inventory.store m'.orders.store m'.payments.store
  · rw [hi]
    rfl
  · rw [hi]
    rfl
  · rw [ho]
    rfl
  · rw [hp]
    rfl

/-- **Every step keeps the invariant.** -/
theorem Inv.step (h : Inv t) (step : Step t t') : Inv t' := by
  cases step with
  | call correlation caller c =>
    obtain ⟨change, backed⟩ := c.effect correlation caller t.market
      (t.published.map Event.payload)
    exact h.publish c.settings change backed c.announced_standard (fun _ hm => hm)
      fun _ hm => .inl hm
  | arrive v hv e _ he =>
    obtain ⟨change, backed, _⟩ := deliver_effect h.agreement hv he
    exact h.publish (t.market.deliver_settings v e) change backed
      (t.market.handled_standard v e) (fun _ hm => hm) fun _ hm => .inl hm
  | attempt before after m _ hm =>
    obtain ⟨_, hv, heard⟩ := h.heard hm
    obtain ⟨change, backed, done⟩ := deliver_effect h.agreement hv heard
    refine h.publish (t.market.deliver_settings m.receiver m.event) change backed
      (t.market.handled_standard m.receiver m.event) (fun _ => mem_pending_of_left hm) ?_
    intro a ha
    by_cases again : (t.market.deliver m.receiver m.event).1 = .retry
    · rw [if_pos again]
      exact .inl ha
    · rw [if_neg again]
      rw [hm] at ha
      rcases List.mem_cons.1 (List.perm_middle.mem_iff.1 ha) with rfl | ha
      · -- the message that leaves the line
        right
        have settled := done again
        rw [← List.map_append] at settled
        exact settled
      · exact .inl ha
  | surroundings market _ same =>
    have change := same.change (t.published.map Event.payload)
    refine ⟨h.agreement.change change, h.standard, h.pending, ?_⟩
    intro e he v hv
    have hv' : v ∈ subscribers t.market.settings e := same.settings ▸ hv
    rcases h.progress e he v hv' with hm | done
    · exact .inl hm
    · exact .inr ((change.later h.agreement).done done)

/-- The invariant holds in every run. -/
theorem inv_of_run {settings : MarketSettings} {outlet : Outlet} {supply : Supply}
    (run : ReflTransGen Step (start settings outlet supply) t) : Inv t := by
  induction run with
  | refl => exact inv_start settings outlet supply
  | tail _ step ih => exact ih.step step

/-! ## Runs that are computed -/

/-- The traffic after an attempt on the first message that is pending. -/
def attemptFirst (t : Traffic) : Traffic :=
  match t.pending with
  | [] => t
  | m :: rest =>
    t.publish (t.market.deliver m.receiver m.event).2 (t.market.handled m.receiver m.event)
      (if (t.market.deliver m.receiver m.event).1 = .retry then t.pending else rest)

/-- The traffic after some attempts, each on the message that is first then. -/
def attempts : Nat → Traffic → Traffic
  | 0, t => t
  | n + 1, t => attempts n t.attemptFirst

theorem attemptFirst_run (t : Traffic) : ReflTransGen Step t t.attemptFirst := by
  unfold attemptFirst
  split
  · exact .refl
  · rename_i m rest hm
    exact .single (.attempt [] rest m t hm)

theorem attempts_run : ∀ (n : Nat) (t : Traffic), ReflTransGen Step t (attempts n t)
  | 0, _ => .refl
  | n + 1, t => (attemptFirst_run t).trans (attempts_run n t.attemptFirst)

end Traffic

end Saga

end Marketplace
