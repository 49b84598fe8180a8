import Marketplace.Proofs.Saga.Traffic

/-!
# Dealing with orders, to the letter

While clients do nothing but place orders, little can happen to the records: an order is placed or
moves on, its stock is withheld or refused, taken or put back, and its buyer is charged or not. Here
every such change is written out in full, with what it takes from a product or a wallet and under
which condition, and every announcement with the records that it reports.

## Results

* `deliver_deals`, `place_deals`: what is committed about an event or an order is one of these
  changes, and what is announced is what stands in the records then.
* `Priced.step`: every product has a positive price, in every run.
-/

namespace Marketplace

/-- The news that an order was placed. -/
def Order.announcement (o : Order) : OrderCreated :=
  ⟨o.id, OrderStatus.pending.name, o.account, o.product, o.quantity⟩

namespace Saga

/-! ## Changes -/

/-- What becomes of the records when one service commits, or when stores go down or up. -/
inductive Dealing (r : Records) : Records → Prop
  | quiet (i o p : Bool) :
    Dealing r ⟨{ r.inventory with isDown := i }, { r.orders with isDown := o },
      { r.payments with isDown := p }, r.said⟩
  | place (o : Order) (first : r.orders.orders.get? o.id = none) :
    Dealing r { r with orders.orders := r.orders.orders.put o.id o }
  | move (id : OrderId) (o : Order) (found : r.orders.orders.get? id = some o)
    (status : OrderStatus) (time : Instant) :
    Dealing r { r with orders.orders :=
      r.orders.orders.put id { o with status := status, updatedAt := time } }
  | refuse (c : OrderCreated) (hc : .orderCreated c ∈ r.said)
    (first : r.inventory.holds.get? c.order = none)
    (costless : r.inventory.cost? c.product c.quantity = none) (reason : Refusal) :
    Dealing r { r with inventory.holds := r.inventory.holds.put c.order (.refused reason) }
  | hold (c : OrderCreated) (hc : .orderCreated c ∈ r.said)
    (first : r.inventory.holds.get? c.order = none) (p : Product)
    (known : r.inventory.products.get? c.product = some p) (enough : c.quantity ≤ p.quantity)
    (payable : Money) (price : p.price.times? c.quantity = some payable) :
    Dealing r { r with inventory := { r.inventory with
      products := r.inventory.products.put c.product { p with quantity := p.quantity - c.quantity }
      reserved := r.inventory.reserved.put c.order ⟨c.order, c.product, c.quantity, payable⟩
      holds := r.inventory.holds.put c.order .held } }
  /-- The stock of a paid order is gone. -/
  | consume (id : OrderId) (a : Reserved) (isOpen : r.inventory.reserved.get? id = some a) :
    Dealing r { r with inventory := { r.inventory with
      reserved := r.inventory.reserved.erase id
      holds := r.inventory.holds.put id .consumed } }
  /-- The stock of an order that was not paid goes back. -/
  | giveBack (id : OrderId) (a : Reserved) (isOpen : r.inventory.reserved.get? id = some a) :
    Dealing r { r with inventory := InventoryStore.restock a.product a.quantity { r.inventory with
      reserved := r.inventory.reserved.erase id
      holds := r.inventory.holds.put id .returned } }
  | decline (q : ProductReserved) (hq : .productReserved q ∈ r.said)
    (first : r.payments.debits.get? q.order = none) (x : Debit) (refused : x.isApproved = false)
    (short : 0 < q.payable.cents → ¬r.payments.Affords q.account q.payable) :
    Dealing r { r with payments.debits := r.payments.debits.put q.order x }
  | charge (q : ProductReserved) (hq : .productReserved q ∈ r.said)
    (first : r.payments.debits.get? q.order = none) (w : Wallet)
    (owned : r.payments.wallets.get? q.account = some w) (rest : Money)
    (left : rest.cents = w.balance.cents - q.payable.cents) (some_left : 0 < rest.cents)
    (time : Instant) (ledger : List Transaction) (x : Debit) (approved : x.isApproved = true) :
    Dealing r { r with payments := { r.payments with
      wallets := r.payments.wallets.put q.account { w with balance := rest, updatedAt := time }
      ledger := ledger
      debits := r.payments.debits.put q.order x } }

/-- What an announcement reports, where the records were `r` and are `mid` now. -/
def Tells (r mid : Records) : Payload → Prop
  | .orderCreated c => r.orders.orders.get? c.order = none ∧ c.quantity ≠ 0 ∧
    ∃ o, mid.orders.orders.get? c.order = some o ∧ c = o.announcement
  | .productReserved q => ∃ c a, .orderCreated c ∈ r.said ∧
    mid.inventory.reserved.get? c.order = some a ∧ q = ⟨c.order, c.account, a.payable⟩
  | .accountCreated _ _ => False
  | _ => True

variable {r mid : Records} {p : Payload} {stamp : Stamp}

theorem Dealing.refl (r : Records) : Dealing r r :=
  .quiet r.inventory.isDown r.orders.isDown r.payments.isDown

/-- Nothing is announced in a change of the records. -/
theorem Dealing.said (h : Dealing r mid) : mid.said = r.said := by
  cases h <;> rfl

/-- A request for a grant reports nothing. -/
theorem tells_of_grants {news : List Payload} (h : ∀ q ∈ news, q.topic = .upsertPolicy) :
    ∀ q ∈ news, Tells r mid q := by
  intro q hq
  have topic := h q hq
  cases q with
  | upsertPolicy target => trivial
  | _ => cases topic

/-! ## Commits -/

theorem reserve_deals {c : OrderCreated} {d : Commit InventoryStore Unit}
    (hc : .orderCreated c ∈ r.said) (hd : Inventory.reserve c stamp r.inventory = .ok d) :
    Dealing r { r with inventory := d.store } ∧
      ∀ q ∈ d.news, Tells r { r with inventory := d.store } q := by
  unfold Inventory.reserve at hd
  obtain ⟨⟨a, i⟩, hs, hd⟩ := bind_eq_ok.1 hd
  cases pure_eq_ok.1 hd
  have refused : ∀ reason s, ∀ q ∈ (Inventory.report c (.refused reason)).1,
      Tells r { r with inventory := s } q := by
    intro reason s q hq
    cases List.mem_singleton.1 hq
    trivial
  rcases InventoryStore.reserve_eq_ok hs with ⟨x, hx, rfl, rfl⟩ | ⟨first, hs⟩
  · refine ⟨.refl r, ?_⟩
    cases ha : r.inventory.repeated c.order x with
    | reserved b =>
      intro q hq
      cases List.mem_singleton.1 hq
      exact ⟨c, b, hc, (InventoryStore.repeated_eq_reserved ha).2, rfl⟩
    | refused reason => exact refused reason _
    | settled => exact fun _ hq => nomatch hq
  · rcases InventoryStore.reserveNew_cases hs with
      ⟨reason, rfl, rfl⟩ | ⟨p, payable, known, enough, price, rfl, rfl⟩
    · exact ⟨.refuse c hc first (InventoryStore.cost?_eq_none_of_refused hs) reason,
        refused reason _⟩
    · refine ⟨.hold c hc first p known enough payable price, fun q hq => ?_⟩
      cases List.mem_singleton.1 hq
      exact ⟨c, _, hc, Table.get?_put_self _ _ _, rfl⟩

theorem close_deals {q : PaymentProcessed} {d : Commit InventoryStore Unit}
    (hd : Inventory.close q stamp r.inventory = .ok d) :
    Dealing r { r with inventory := d.store } ∧ d.news = [] := by
  unfold Inventory.close at hd
  split at hd
  · obtain ⟨⟨a, i⟩, hs, hd⟩ := bind_eq_ok.1 hd
    cases pure_eq_ok.1 hd
    rcases InventoryStore.settle_cases (InventoryStore.consume_eq_ok hs) with
      ⟨_, _, rfl⟩ | ⟨b, hr, _, rfl⟩
    · exact ⟨.refl r, rfl⟩
    · exact ⟨.consume q.order b hr, rfl⟩
  · obtain ⟨⟨a, i⟩, hs, hd⟩ := bind_eq_ok.1 hd
    cases pure_eq_ok.1 hd
    rcases InventoryStore.giveBack_eq_ok hs with ⟨_, _, rfl⟩ | ⟨b, hr, _, rfl⟩
    · exact ⟨.refl r, rfl⟩
    · exact ⟨.giveBack q.order b hr, rfl⟩

theorem inventory_deals {operation : Operation InventoryStore Unit}
    {d : Commit InventoryStore Unit} (hp : Heard r p)
    (hr : Inventory.participant.react p = some (.perform operation))
    (hd : operation stamp r.inventory = .ok d) :
    Dealing r { r with inventory := d.store } ∧
      ∀ q ∈ d.news, Tells r { r with inventory := d.store } q := by
  cases p with
  | accountCreated a role =>
    cases hr
    cases hd
    exact ⟨.refl r, tells_of_grants inventory_greet_news⟩
  | orderCreated c =>
    cases hr
    rcases hp with hp | ht | ht
    · exact reserve_deals hp hd
    · cases ht
    · cases ht
  | payment q =>
    cases hr
    obtain ⟨deals, hn⟩ := close_deals hd
    rw [hn]
    exact ⟨deals, fun _ hq => nomatch hq⟩
  | _ => cases hr

theorem move_deals {id : OrderId} {status : OrderStatus} {d : Commit OrderStore Unit}
    (hd : Orders.move id status stamp r.orders = .ok d) :
    Dealing r { r with orders := d.store } ∧ ∀ q ∈ d.news, Tells r { r with orders := d.store } q := by
  obtain ⟨hn, o, ho, ⟨_, hs⟩ | ⟨_, hs⟩⟩ := Orders.move_eq_ok hd
  · rw [hn, hs]
    exact ⟨.move id o ho status stamp.time, fun _ hq => nomatch hq⟩
  · rw [hn, hs]
    exact ⟨.refl r, fun _ hq => nomatch hq⟩

theorem orders_deals {operation : Operation OrderStore Unit} {d : Commit OrderStore Unit}
    (hr : Orders.participant.react p = some (.perform operation))
    (hd : operation stamp r.orders = .ok d) :
    Dealing r { r with orders := d.store } ∧
      ∀ q ∈ d.news, Tells r { r with orders := d.store } q := by
  cases p with
  | accountCreated a role =>
    cases hr
    cases hd
    refine ⟨.refl r, tells_of_grants fun q hq => ?_⟩
    cases role with
    | customer => cases List.mem_singleton.1 hq; rfl
    | _ => cases hq
  | productReserved q => cases hr; exact move_deals hd
  | reservationFailed f => cases hr; exact move_deals hd
  | payment q => cases hr; exact move_deals hd
  | _ => cases hr

theorem charge_deals {q : ProductReserved} {d : Commit PaymentStore Unit}
    (hq : .productReserved q ∈ r.said) (hd : Payments.charge q stamp r.payments = .ok d) :
    Dealing r { r with payments := d.store } ∧
      ∀ n ∈ d.news, Tells r { r with payments := d.store } n := by
  unfold Payments.charge at hd
  obtain ⟨⟨x, s⟩, hs, hd⟩ := bind_eq_ok.1 hd
  cases pure_eq_ok.1 hd
  refine ⟨?_, ?_⟩
  · rcases PaymentStore.charge_eq_ok hs with ⟨_, rfl⟩ | ⟨first, hs⟩
    · exact .refl r
    · rcases PaymentStore.chargeNew_cases hs with
        ⟨refused, rfl⟩ | ⟨w, rest, owned, _, left, some_left, rfl, rfl⟩
      · exact .decline q hq first x refused (PaymentStore.not_affords_of_refused hs refused)
      · exact .charge q hq first w owned rest left some_left _ _ _ rfl
  · intro n hn
    unfold Payments.report at hn
    split at hn
    · rcases List.mem_cons.1 hn with rfl | hn
      · trivial
      · cases List.mem_singleton.1 hn
        trivial
    · cases List.mem_singleton.1 hn
      trivial

/-- The accounts that an event is about have a wallet. -/
def Opened (s : PaymentStore) (p : Payload) : Prop :=
  ∀ a role, p = .accountCreated a role → (s.wallets.get? a).isSome

theorem payments_deals {initial : Money} {operation : Operation PaymentStore Unit}
    {d : Commit PaymentStore Unit} (hp : Heard r p) (opened : Opened r.payments p)
    (hr : (Payments.participant initial).react p = some (.perform operation))
    (hd : operation stamp r.payments = .ok d) :
    Dealing r { r with payments := d.store } ∧
      ∀ q ∈ d.news, Tells r { r with payments := d.store } q := by
  cases p with
  | accountCreated a role =>
    cases hr
    unfold Payments.greet at hd
    obtain ⟨⟨w, s⟩, hs, hd⟩ := bind_eq_ok.1 hd
    cases pure_eq_ok.1 hd
    rcases PaymentStore.openWallet_eq_ok hs with ⟨_, rfl⟩ | ⟨unknown, _⟩
    · refine ⟨.refl r, tells_of_grants fun q hq => ?_⟩
      cases role with
      | customer => cases List.mem_singleton.1 hq; rfl
      | _ => cases hq
    · have := opened a role rfl
      rw [unknown] at this
      cases this
  | productReserved q =>
    cases hr
    rcases hp with hp | ht | ht
    · exact charge_deals hp hd
    · cases ht
    · cases ht
  | _ => cases hr

theorem place_commit_deals {buyer : AccountId} {product : ProductId} {quantity : UInt32}
    {d : Commit OrderStore Order}
    (hd : Orders.place buyer product quantity stamp r.orders = .ok d) :
    Dealing r { r with orders := d.store } ∧
      ∀ q ∈ d.news, Tells r { r with orders := d.store } q := by
  unfold Orders.place at hd
  split at hd
  · cases hd
  · rename_i some_pieces
    obtain ⟨⟨o, s⟩, hs, hd⟩ := bind_eq_ok.1 hd
    cases pure_eq_ok.1 hd
    obtain ⟨first, rfl, rfl⟩ := OrderStore.create_eq_ok hs
    refine ⟨.place _ first, fun q hq => ?_⟩
    rcases List.mem_cons.1 hq with rfl | hq
    · exact ⟨first, some_pieces, _, Table.get?_put_self _ _ _, rfl⟩
    · rcases List.mem_cons.1 hq with rfl | hq
      · trivial
      · cases List.mem_singleton.1 hq
        trivial

/-! ## Attempts -/

/-- **What a delivery does to the records**, once every account that is heard of has a wallet. -/
theorem deliver_deals {m : Market} {said : List Payload} {v : Service} {e : Event}
    (hv : v ∈ receivers) (heard : Heard (recordsOf m said) e.payload)
    (opened : Opened m.payments.store e.payload) :
    Dealing (recordsOf m said) (recordsOf (m.deliver v e).2 said) ∧
      ∀ q ∈ (m.handled v e).map Event.payload,
        Tells (recordsOf m said) (recordsOf (m.deliver v e).2 said) q := by
  simp only [receivers, List.mem_cons, List.not_mem_nil, or_false] at hv
  rcases hv with rfl | rfl | rfl
  · exact Participant.handle_elim (P := fun s => Dealing _ { recordsOf m said with inventory := s })
      (Q := fun s => Tells _ { recordsOf m said with inventory := s }) Inventory.participant
      m.grants e.header.correlation e.payload (m.desk .inventory) (.refl _)
      fun _ _ _ hr hc => inventory_deals heard hr hc
  · exact Participant.handle_elim (P := fun s => Dealing _ { recordsOf m said with orders := s })
      (Q := fun s => Tells _ { recordsOf m said with orders := s }) Orders.participant
      m.grants e.header.correlation e.payload (m.desk .orders) (.refl _)
      fun _ _ _ hr hc => orders_deals hr hc
  · exact Participant.handle_elim (P := fun s => Dealing _ { recordsOf m said with payments := s })
      (Q := fun s => Tells _ { recordsOf m said with payments := s })
      (Payments.participant m.settings.initialBalance) m.grants e.header.correlation e.payload
      (m.desk .payments) (.refl _) fun _ _ _ hr hc => payments_deals heard opened hr hc

/-- **What placing an order does to the records.** -/
theorem place_deals (correlation : String) (caller : Claims) (product : ProductId)
    (quantity : UInt32) (m : Market) (said : List Payload) :
    let c : ClientCall := .placeOrder product quantity
    Dealing (recordsOf m said) (recordsOf (c.after correlation caller m) said) ∧
      ∀ q ∈ (c.announced correlation caller m).map Event.payload,
        Tells (recordsOf m said) (recordsOf (c.after correlation caller m) said) q := by
  dsimp only [ClientCall.after, ClientCall.announced, Market.placeOrder, Market.performFor,
    Market.performedFor]
  rw [Market.atDesk_snd, recordsOf_orders]
  exact Participant.performFor_elim
    (P := fun s => Dealing (recordsOf m said) { recordsOf m said with orders := s })
    (Q := fun s => Tells (recordsOf m said) { recordsOf m said with orders := s })
    (Seat.orders.participant m.settings) m.grants caller Orders.placePermissions correlation
    (Orders.place caller.account product quantity) (m.desk .orders) (.refl _)
    fun _ _ hc => place_commit_deals hc

/-! ## Prices -/

/-- Every product has a positive price. -/
def Priced (s : InventoryStore) : Prop :=
  ∀ id p, s.products.get? id = some p → 0 < p.price.cents

theorem Priced.put {s : InventoryStore} (h : Priced s) {i : ProductId} {p : Product}
    (price : 0 < p.price.cents) : Priced { s with products := s.products.put i p } := by
  intro id x hx
  rw [Table.get?_put] at hx
  split at hx
  · cases hx
    exact price
  · exact h id x hx

theorem Priced.restock {s : InventoryStore} (h : Priced s) (id : ProductId) (q : UInt32) :
    Priced (s.restock id q) := by
  unfold InventoryStore.restock
  split
  · exact h
  · rename_i p hp
    exact h.put (h id p hp)

/-- A change of the records leaves prices alone. -/
theorem Dealing.priced (h : Dealing r mid) (priced : Priced r.inventory) :
    Priced mid.inventory := by
  cases h with
  | hold c hc first p known enough payable price =>
    have same : 0 < p.price.cents := priced _ p known
    exact priced.put same
  | giveBack id a isOpen =>
    have settled : Priced { r.inventory with
      reserved := r.inventory.reserved.erase id
      holds := r.inventory.holds.put id .returned } := priced
    exact settled.restock a.product a.quantity
  | _ => exact priced

theorem createMerchant_priced {owner : AccountId} {name : String} {s : InventoryStore}
    {d : Commit InventoryStore Merchant} (priced : Priced s)
    (hd : Inventory.createMerchant owner name stamp s = .ok d) : Priced d.store := by
  unfold Inventory.createMerchant at hd
  split at hd
  · cases hd
  · obtain ⟨⟨m, s⟩, hs, hd⟩ := bind_eq_ok.1 hd
    cases pure_eq_ok.1 hd
    obtain ⟨_, rfl⟩ := InventoryStore.createMerchant_eq_ok hs
    exact priced

theorem createProduct_priced {owner : AccountId} {merchant : MerchantId} {name : String}
    {price : Money} {quantity : UInt32} {s : InventoryStore} {d : Commit InventoryStore Product}
    (priced : Priced s)
    (hd : Inventory.createProduct owner merchant name price quantity stamp s = .ok d) :
    Priced d.store := by
  unfold Inventory.createProduct at hd
  dsimp only at hd
  split at hd
  · cases hd
  · split at hd
    · cases hd
    · rename_i hprice
      obtain ⟨⟨m, s⟩, hs, hd⟩ := bind_eq_ok.1 hd
      cases pure_eq_ok.1 hd
      obtain ⟨_, rfl⟩ := InventoryStore.createProduct_eq_ok hs
      exact priced.put (Money.isPositive_iff.1 (by simpa using hprice))

theorem deliver_priced {m : Market} {said : List Payload} {v : Service} {e : Event}
    (hv : v ∈ receivers) (heard : Heard (recordsOf m said) e.payload)
    (priced : Priced m.inventory.store) : Priced (m.deliver v e).2.inventory.store := by
  simp only [receivers, List.mem_cons, List.not_mem_nil, or_false] at hv
  rcases hv with rfl | rfl | rfl
  · refine (Participant.handle_elim (P := Priced) (Q := fun _ _ => True) Inventory.participant
      m.grants e.header.correlation e.payload (m.desk .inventory) priced ?_).1
    intro operation stamp d hr hd
    have deals := (inventory_deals (r := recordsOf m said) heard hr hd).1
    exact ⟨deals.priced priced, fun _ _ => trivial⟩
  · exact priced
  · exact priced

theorem performFor_priced {α : Type} {m : Market} {correlation : String} {caller : Claims}
    {needed : List Permission} {operation : Operation InventoryStore α}
    (priced : Priced m.inventory.store)
    (commit : ∀ stamp d, operation stamp m.inventory.store = .ok d → Priced d.store) :
    Priced (Market.performFor .inventory caller needed correlation operation m).2.inventory.store :=
  (Participant.performFor_elim (P := Priced) (Q := fun _ _ => True) Inventory.participant m.grants
    caller needed correlation operation (m.desk .inventory) priced
    fun stamp d hd => ⟨commit stamp d hd, fun _ _ => trivial⟩).1

theorem ClientCall.after_priced {correlation : String} {caller : Claims} {m : Market}
    (priced : Priced m.inventory.store) (c : ClientCall) :
    Priced (c.after correlation caller m).inventory.store := by
  cases c with
  | createMerchant name =>
    dsimp only [ClientCall.after, Market.createMerchant]
    exact performFor_priced priced fun _ _ => createMerchant_priced priced
  | createProduct merchant name price quantity =>
    dsimp only [ClientCall.after, Market.createProduct]
    exact performFor_priced priced fun _ _ => createProduct_priced priced
  | placeOrder product quantity =>
    dsimp only [ClientCall.after, Market.placeOrder, Market.performFor]
    rw [Market.atDesk_snd]
    exact priced
  | recharge amount =>
    dsimp only [ClientCall.after, Market.recharge, Market.performFor]
    rw [Market.atDesk_snd]
    exact priced

variable {t t' : Traffic}

theorem Priced.step (h : t.Inv) (step : Traffic.Step t t')
    (priced : Priced t.market.inventory.store) : Priced t'.market.inventory.store := by
  cases step with
  | call correlation caller c => exact ClientCall.after_priced priced c
  | arrive v hv e _ he => exact deliver_priced hv he priced
  | attempt before after m _ hm =>
    obtain ⟨_, hv, heard⟩ := h.heard hm
    exact deliver_priced hv heard priced
  | surroundings market _ same =>
    obtain ⟨_, hi⟩ := same.inventory
    intro id p hp
    rw [hi] at hp
    exact priced id p hp

/-- **Every product has a positive price**, in every run from empty stores. -/
theorem priced_of_run {settings : MarketSettings} {outlet : Outlet} {supply : Supply}
    (run : Relation.ReflTransGen Traffic.Step (.start settings outlet supply) t) :
    Priced t.market.inventory.store := by
  induction run with
  | refl => exact fun _ _ h => nomatch h
  | tail before step ih => exact ih.step (Traffic.inv_of_run before) step

end Saga

end Marketplace
