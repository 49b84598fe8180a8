import Marketplace.Proofs.Saga.Apart
import Marketplace.Proofs.Saga.Completion

/-!
# Orders end as the start foretells

From a state of rest, clients place orders of which no two share a product or a buyer. However the
messages are then delivered, repeated and retried, and whatever stores and announcements fail in
between: when nothing is pending any more, the status of every order, what is left of its product
and what is left to its buyer can be computed from the state of rest alone.

## Results

* `since_start`, `track_start`: at rest, everything is settled.
* `Underway.step`: the track of every order that keeps apart, along every step.
* `orders_foretold`: the outcome, as a function of the start.
-/

namespace Marketplace

namespace Saga

open Relation

/-! ## Steps in which orders are placed -/

/-- A step of the traffic in which clients do nothing but place orders. No account is created, so
whatever still arrives about accounts is about those that have their wallet. -/
inductive Traffic.Placing : Traffic → Traffic → Prop
  | place (correlation : String) (caller : Claims) (product : ProductId) (quantity : UInt32)
    (t : Traffic) :
    Placing t (t.publish
      ((ClientCall.placeOrder product quantity).after correlation caller t.market)
      ((ClientCall.placeOrder product quantity).announced correlation caller t.market) t.pending)
  | arrive (v : Service) (hv : v ∈ receivers) (e : Event) (t : Traffic) (he : t.MayArrive e)
    (opened : Opened t.market.payments.store e.payload) :
    Placing t (t.publish (t.market.deliver v e).2 (t.market.handled v e) t.pending)
  | attempt (before after : List Message) (m : Message) (t : Traffic)
    (hm : t.pending = before ++ m :: after) :
    Placing t (t.publish (t.market.deliver m.receiver m.event).2
      (t.market.handled m.receiver m.event)
      (if (t.market.deliver m.receiver m.event).1 = .retry then t.pending else before ++ after))
  | surroundings (market : Market) (t : Traffic) (same : Traffic.SameRecords t.market market) :
    Placing t { t with market := market }

variable {t₀ t t' : Traffic}

theorem Traffic.Placing.step (h : Placing t t') : Step t t' := by
  cases h with
  | place correlation caller product quantity => exact .call _ _ _ t
  | arrive v hv e _ he opened => exact .arrive v hv e t he
  | attempt before after m _ hm => exact .attempt before after m t hm
  | surroundings market _ same => exact .surroundings market t same

theorem opened_of_tells {r mid : Records} {p : Payload} (h : Tells r mid p) (s : PaymentStore) :
    Opened s p := by
  rintro a role rfl
  exact h.elim

theorem Traffic.records_publish (t : Traffic) (market : Market) (events : List Event)
    (pending : List Message) :
    (t.publish market events pending).records =
      { recordsOf market (t.published.map Event.payload) with
        said := t.published.map Event.payload ++ events.map Event.payload } := by
  unfold Traffic.records Traffic.publish
  rw [List.map_append]
  rfl

theorem Traffic.mem_pending_publish {market : Market} {events : List Event}
    {pending : List Message} {m : Message} (hm : m ∈ (t.publish market events pending).pending) :
    m ∈ pending ∨ m.event.payload ∈ events.map Event.payload := by
  rcases List.mem_append.1 hm with hm | hm
  · exact .inl hm
  · exact .inr (List.mem_map_of_mem (mem_messages.1 hm).1)

/-- What a step amounts to: a change of the records, and what is announced about it. -/
theorem Traffic.Placing.deals (h : t.Inv)
    (opened : ∀ m ∈ t.pending, ∀ s, Opened s m.event.payload) (step : Placing t t') :
    ∃ mid part, Dealing t.records mid ∧ (∀ q ∈ part, Tells t.records mid q) ∧
      t'.records = { mid with said := mid.said ++ part } ∧
      ∀ m ∈ t'.pending, m ∈ t.pending ∨ m.event.payload ∈ part := by
  cases step with
  | place correlation caller product quantity =>
    obtain ⟨deal, tells⟩ := place_deals correlation caller product quantity t.market
      (t.published.map Event.payload)
    exact ⟨_, _, deal, tells, t.records_publish _ _ _, fun _ => mem_pending_publish⟩
  | arrive v hv e _ he opened =>
    obtain ⟨deal, tells⟩ := deliver_deals hv he opened
    exact ⟨_, _, deal, tells, t.records_publish _ _ _, fun _ => mem_pending_publish⟩
  | attempt before after m _ hm =>
    obtain ⟨pending, hv, heard⟩ := h.heard hm
    obtain ⟨deal, tells⟩ := deliver_deals hv heard (opened m pending _)
    refine ⟨_, _, deal, tells, t.records_publish _ _ _, fun a ha => ?_⟩
    exact (mem_pending_publish ha).imp_left (mem_pending_of_left hm)
  | surroundings market _ same =>
    obtain ⟨i, hi⟩ := same.inventory
    obtain ⟨o, ho⟩ := same.orders
    obtain ⟨p, hp⟩ := same.payments
    refine ⟨_, [], .quiet i o p, ?_, ?_, ?_⟩
    · exact fun _ hq => nomatch hq
    · unfold Traffic.records recordsOf
      rw [hi, ho, hp, List.append_nil]
    · exact fun _ hm => .inl hm

/-! ## At rest -/

theorem EndsAs.hold_isSome {m : Market} {id : OrderId} {e : Ending} (h : EndsAs m id e) :
    (holdOf m id).isSome := by
  obtain ⟨_, he⟩ := h
  cases e with
  | paid => rw [he.1]; rfl
  | failed => rw [he.1]; rfl
  | outOfStock =>
    obtain ⟨⟨reason, hr⟩, _⟩ := he
    rw [hr]
    rfl

/-- At rest, everything is settled. -/
theorem since_start (h : t₀.Inv) (idle : t₀.pending = []) : Since t₀.records t₀.records := by
  refine ⟨fun c hc => Option.isSome_iff_exists.2 (h.agreement.backed _ hc), fun _ known => known,
    ?_, ?_, fun c new => (new.2 new.1).elim, ?_, fun _ hq => .inl hq⟩
  · intro c hc
    obtain ⟨e, he⟩ := ended_of_announced h idle hc
    exact he.hold_isSome
  · intro q hq
    have billed : Billed t₀.records q.order := h.done_of_idle idle hq .charge
    obtain ⟨p, hp, same⟩ := billed
    obtain ⟨x, hx, _⟩ := h.agreement.backed _ hp
    rw [← same]
    exact Option.isSome_iff_exists.2 ⟨x, hx⟩
  · intro id a ha
    have none_open := no_record_of_idle h idle id
    cases none_open.symm.trans ha

/-- At rest, an order that is not known has not begun. -/
theorem track_start (h : t₀.Inv) {c : OrderCreated}
    (unknown : t₀.records.orders.orders.get? c.order = none) : Track t₀.records t₀.records c := by
  have unsaid : ∀ c', .orderCreated c' ∈ t₀.records.said → c'.order ≠ c.order := by
    intro c' hc' same
    obtain ⟨o, ho⟩ := h.agreement.backed _ hc'
    rw [same, unknown] at ho
    cases ho
  obtain ⟨unheld, uncharged, _⟩ := idle_of_unannounced h.agreement unsaid
  refine ⟨?_, ?_, ?_⟩
  · rw [unheld]
    rfl
  · rw [uncharged]
    rfl
  · intro q hq own
    obtain ⟨x, hx, _⟩ := h.agreement.backed _ hq
    rw [own, unheld] at hx
    cases hx

/-! ## Underway -/

/-- What holds on the way from a state of rest. -/
structure Underway (t₀ t : Traffic) : Prop where
  inv : t.Inv
  since : Since t₀.records t.records
  /-- Nothing that is pending opens a wallet. -/
  opened : ∀ m ∈ t.pending, ∀ s, Opened s m.event.payload
  track : ∀ c, t₀.records.orders.orders.get? c.order = none → c.quantity ≠ 0 →
    Alone t₀.records t.records c → Track t₀.records t.records c

/-- An order of some pieces comes to some money. -/
theorem Priced.cost_pos {s : InventoryStore} (h : Priced s) {id : ProductId} {q : UInt32}
    (pieces : q ≠ 0) {payable : Money} (cost : s.cost? id q = some payable) :
    0 < payable.cents := by
  obtain ⟨p, known, _, price⟩ := InventoryStore.cost?_eq_some.1 cost
  rw [Money.times?_eq_some.1 price]
  have some_pieces : 0 < q.toNat := Nat.pos_of_ne_zero fun he => pieces (UInt32.toNat_inj.1 he)
  exact Int.mul_pos (h id p known) (by omega)

theorem Underway.step (priced : Priced t₀.records.inventory) (h : Underway t₀ t)
    (step : t.Placing t') : Underway t₀ t' := by
  have inv' := h.inv.step step.step
  obtain ⟨mid, part, deal, tells, records, pending⟩ := step.deals h.inv h.opened
  have since := h.since.deal deal tells
  refine ⟨inv', records ▸ since, ?_, ?_⟩
  · intro m hm s
    rcases pending m hm with hm | hm
    · exact h.opened m hm s
    · exact opened_of_tells (tells _ hm) s
  · intro c unknown pieces alone
    rw [records] at alone ⊢
    have before : Alone t₀.records t.records c := fun c' new => alone c' (new.deal deal)
    exact (h.track c unknown pieces before).deal h.since before unknown
      (fun _ => priced.cost_pos pieces) h.inv.agreement (records ▸ inv'.agreement) deal tells

theorem underway_of_run (rested : t₀.Inv) (idle : t₀.pending = [])
    (priced : Priced t₀.records.inventory) (run : ReflTransGen Traffic.Placing t₀ t) :
    Underway t₀ t := by
  induction run with
  | refl =>
    refine ⟨rested, since_start rested idle, fun m hm => ?_, fun c unknown _ _ =>
      track_start rested unknown⟩
    rw [idle] at hm
    cases hm
  | tail _ step ih => exact ih.step priced step

/-! ## The outcome -/

/-- The pieces that are left of a product, if it is known. -/
def piecesOf (m : Market) (id : ProductId) : Option Nat :=
  (m.inventory.store.products.get? id).map fun p => p.quantity.toNat

/-- The cents in the wallet of an account, if it has one. -/
def centsOf (m : Market) (a : AccountId) : Option Int :=
  (m.payments.store.wallets.get? a).map fun w => w.balance.cents

/-- What became of an order, of its product and of the wallet of its buyer. -/
structure Fate where
  status : Option OrderStatus
  pieces : Option Nat
  cents : Option Int
  deriving DecidableEq

def fateOf (m : Market) (c : OrderCreated) : Fate :=
  ⟨statusOf m c.order, piecesOf m c.product, centsOf m c.account⟩

/-- What will become of an order that is placed now and keeps apart from all others: it is out of
stock if it has no cost, paid if its buyer has more than the cost, and failed otherwise. Only an
order that is paid takes something. -/
def foretold (m : Market) (c : OrderCreated) : Fate :=
  match m.inventory.store.cost? c.product c.quantity, centsOf m c.account with
  | none, cents => ⟨some .productOutOfStock, piecesOf m c.product, cents⟩
  | some _, none => ⟨some .failed, piecesOf m c.product, none⟩
  | some cost, some cents =>
    if cost.cents < cents then
      ⟨some .paid, (piecesOf m c.product).map (· - c.quantity.toNat), some (cents - cost.cents)⟩
    else ⟨some .failed, piecesOf m c.product, some cents⟩

variable {m m' : Market} {c : OrderCreated}

theorem piecesOf_congr {id : ProductId} (same : m'.inventory.store.products.get? id =
    m.inventory.store.products.get? id) : piecesOf m' id = piecesOf m id := by
  unfold piecesOf
  rw [same]

theorem centsOf_congr {a : AccountId} (same : m'.payments.store.wallets.get? a =
    m.payments.store.wallets.get? a) : centsOf m' a = centsOf m a := by
  unfold centsOf
  rw [same]

theorem foretold_of_costless (h : m.inventory.store.cost? c.product c.quantity = none) :
    foretold m c = ⟨some .productOutOfStock, piecesOf m c.product, centsOf m c.account⟩ := by
  unfold foretold
  rw [h]

theorem foretold_of_short {cost : Money}
    (h : m.inventory.store.cost? c.product c.quantity = some cost)
    (short : ¬m.payments.store.Affords c.account cost) :
    foretold m c = ⟨some .failed, piecesOf m c.product, centsOf m c.account⟩ := by
  unfold foretold
  rw [h]
  cases hw : centsOf m c.account with
  | none => rfl
  | some cents =>
    obtain ⟨w, owned, rfl⟩ := Option.map_eq_some_iff.1 hw
    exact if_neg fun enough => short ⟨w, owned, enough⟩

theorem foretold_of_afforded {cost : Money} {w : Wallet}
    (h : m.inventory.store.cost? c.product c.quantity = some cost)
    (owned : m.payments.store.wallets.get? c.account = some w)
    (enough : cost.cents < w.balance.cents) :
    foretold m c = ⟨some .paid, (piecesOf m c.product).map (· - c.quantity.toNat),
      some (w.balance.cents - cost.cents)⟩ := by
  have cents : centsOf m c.account = some w.balance.cents := by
    unfold centsOf
    rw [owned]
    rfl
  unfold foretold
  rw [h, cents]
  exact if_pos enough

/-- What is left of a product when the stock of an order is taken. -/
theorem Taken.pieces {payable : Money}
    (h : Taken m.inventory.store m'.inventory.store c payable) :
    piecesOf m' c.product = (piecesOf m c.product).map (· - c.quantity.toNat) := by
  obtain ⟨p, known, enough, _, left⟩ := h
  unfold piecesOf
  rw [known, left]
  exact congrArg some (UInt32.toNat_sub_of_le _ _ enough)

/-- An order that ended on its track has the fate that the start foretells. -/
theorem Track.fate (h : Track t₀.records t.records c) {e : Ending}
    (ends : EndsAs t.market c.order e) : fateOf t.market c = foretold t₀.market c := by
  have standing : Standing t₀.market.inventory.store t.market.inventory.store c
    (holdOf t.market c.order) := h.standing
  have paying : Paying t₀.records t.market.payments.store c (debitOf t.market c.order) := h.paying
  obtain ⟨status, how⟩ := ends
  unfold fateOf
  rw [status]
  cases e with
  | paid =>
    obtain ⟨hold, x, debit, approved⟩ := how
    rw [hold] at standing
    rw [debit] at paying
    obtain ⟨_, taken⟩ := standing
    obtain ⟨cost, price, paid⟩ := paying
    rw [approved] at paid
    obtain ⟨w, w', owned, now, left, some_left⟩ := paid
    have enough : cost.cents < w.balance.cents := by omega
    have cents : centsOf t.market c.account = some (w.balance.cents - cost.cents) :=
      (congrArg (Option.map fun w : Wallet => w.balance.cents) now).trans (congrArg some left)
    rw [foretold_of_afforded price owned enough, taken.pieces, cents]
    rfl
  | failed =>
    obtain ⟨hold, x, debit, refused⟩ := how
    rw [hold] at standing
    rw [debit] at paying
    obtain ⟨cost, price, unpaid⟩ := paying
    rw [refused] at unpaid
    rw [foretold_of_short price unpaid.1, piecesOf_congr standing, centsOf_congr unpaid.2]
    rfl
  | outOfStock =>
    obtain ⟨⟨reason, hold⟩, uncharged⟩ := how
    rw [hold] at standing
    rw [uncharged] at paying
    rw [foretold_of_costless standing.1, piecesOf_congr standing.2, centsOf_congr paying]
    rfl

variable {settings : MarketSettings} {outlet : Outlet} {supply : Supply}

/-- **Orders end as the start foretells**: from any state of rest, if no two of the orders that are
placed share a product or a buyer, whatever the schedule. -/
theorem orders_foretold (before : ReflTransGen Traffic.Step (.start settings outlet supply) t₀)
    (rested : t₀.pending = []) (run : ReflTransGen Traffic.Placing t₀ t) (idle : t.pending = [])
    (apart : ∀ c c', New t₀.records t.records c → New t₀.records t.records c' →
      c.order ≠ c'.order → c.product ≠ c'.product ∧ c.account ≠ c'.account) :
    ∀ c, New t₀.records t.records c → fateOf t.market c = foretold t₀.market c := by
  intro c new
  have h := underway_of_run (Traffic.inv_of_run before) rested (priced_of_run before) run
  obtain ⟨unknown, pieces, o, ho, hann⟩ := h.since.announced c new
  have alone : Alone t₀.records t.records c := by
    intro c' new'
    by_cases same : c'.order = c.order
    · obtain ⟨_, _, o', ho', hann'⟩ := h.since.announced c' new'
      rw [same] at ho'
      cases ho.symm.trans ho'
      exact .inl (hann'.trans hann.symm)
    · exact .inr ⟨same, apart c' c new' new same⟩
  obtain ⟨e, ends⟩ := ended_of_announced h.inv idle new.1
  exact (h.track c unknown pieces alone).fate ends

/-! ## Two orders -/

/-- The orders among some announcements. -/
def ordersOf (said : List Payload) : List OrderCreated :=
  said.filterMap fun
    | .orderCreated c => some c
    | _ => none

theorem mem_ordersOf {said : List Payload} {c : OrderCreated} :
    c ∈ ordersOf said ↔ .orderCreated c ∈ said := by
  unfold ordersOf
  rw [List.mem_filterMap]
  constructor
  · rintro ⟨p, hp, hc⟩
    cases p with
    | orderCreated c' =>
      cases hc
      exact hp
    | _ => cases hc
  · intro hc
    exact ⟨_, hc, rfl⟩

theorem Traffic.Placing.attempts_run : ∀ (n : Nat) (t : Traffic),
    ReflTransGen Placing t (t.attempts n)
  | 0, _ => .refl
  | n + 1, t => by
    refine .trans ?_ (attempts_run n t.attemptFirst)
    unfold attemptFirst
    split
    · exact .refl
    · rename_i m rest hm
      exact .single (.attempt [] rest m t hm)

/-- Another account, which may place orders. -/
def sampleRival : AccountId := ⟨8⟩

/-- Both may place orders, and the twelfth message will not be published. -/
def sampleFair : Market :=
  { sampleMarket with
    authorization.store.grants := sampleMarket.authorization.store.grants.put
      ⟨sampleRival.subject, Resource.orders, Action.any, wildcard⟩ ()
    outlet.bus.failOn := some 12 }

/-- The news that an account was opened, at the payments. -/
def sampleOpened (a : AccountId) (t : Traffic) : Traffic :=
  let e : Event := { sampleOpening with payload := .accountCreated a .seller }
  t.publish (t.market.deliver .payments e).2 (t.market.handled .payments e) t.pending

/-- A shop with ten mugs and four cups, and two wallets with ten units each. -/
def sampleRested : Traffic :=
  let t : Traffic := { sampleStart with market := sampleFair }
  let t := sampleCall (.createMerchant "shop") t
  let t := sampleCall (.createProduct ⟨Supply.identifier 0⟩ "mug" (.ofUnits 2) 10) t
  let t := sampleCall (.createProduct ⟨Supply.identifier 0⟩ "cup" (.ofUnits 3) 4) t
  sampleOpened sampleRival (sampleOpened sampleAccount t)

/-- One order of an account. -/
def sampleOrdered (buyer : AccountId) (product : ProductId) (quantity : UInt32) (t : Traffic) :
    Traffic :=
  let c : ClientCall := .placeOrder product quantity
  t.publish (c.after "request" ⟨buyer, "", .customer⟩ t.market)
    (c.announced "request" ⟨buyer, "", .customer⟩ t.market) t.pending

/-- Three mugs for six units, and four cups for twelve. -/
def sampleSale : Traffic :=
  let t := sampleOrdered sampleAccount ⟨Supply.identifier 3⟩ 3 sampleRested
  (sampleOrdered sampleRival ⟨Supply.identifier 5⟩ 4 t).attempts 11

def sampleMugs : OrderCreated :=
  ⟨⟨Supply.identifier 9⟩, "pending", sampleAccount, ⟨Supply.identifier 3⟩, 3⟩

def sampleCups : OrderCreated :=
  ⟨⟨Supply.identifier 13⟩, "pending", sampleRival, ⟨Supply.identifier 5⟩, 4⟩

theorem sampleRested_run : ReflTransGen Traffic.Step sampleStart sampleRested := by
  refine .tail (.tail (.tail (.tail (.tail (.single ?_) (.call _ _ _ _)) (.call _ _ _ _))
    (.call _ _ _ _)) (.arrive .payments (by decide) _ _ (.inr (.inl rfl))))
    (.arrive .payments (by decide) _ _ (.inr (.inl rfl)))
  exact .surroundings sampleFair sampleStart ⟨rfl, ⟨false, rfl⟩, ⟨false, rfl⟩, ⟨false, rfl⟩⟩

theorem sampleSale_run : ReflTransGen Traffic.Placing sampleRested sampleSale :=
  .trans (.tail (.single (.place _ _ _ _ _)) (.place _ _ _ _ _))
    (Traffic.Placing.attempts_run 11 _)

/-- The mugs are paid, after a failed announcement; the cups cost more than the buyer has. -/
theorem orders_foretold_of_sampleSale :
    fateOf sampleSale.market sampleMugs = ⟨some .paid, some 7, some 400⟩ ∧
    fateOf sampleSale.market sampleCups = ⟨some .failed, some 4, some 1000⟩ := by
  have placed : ordersOf sampleRested.records.said = [] ∧
      ordersOf sampleSale.records.said = [sampleMugs, sampleCups] := by decide +kernel
  have new : ∀ c, New sampleRested.records sampleSale.records c ↔ c = sampleMugs ∨ c = sampleCups := by
    intro c
    unfold New
    rw [← mem_ordersOf, ← mem_ordersOf, placed.1, placed.2]
    simp
  have fates := orders_foretold sampleRested_run (List.isEmpty_iff.1 (by decide +kernel))
    sampleSale_run (List.isEmpty_iff.1 (by decide +kernel)) (by
      intro c c' hc hc' other
      rw [new] at hc hc'
      rcases hc with rfl | rfl <;> rcases hc' with rfl | rfl
      · exact (other rfl).elim
      · decide
      · decide
      · exact (other rfl).elim)
  refine ⟨(fates sampleMugs ((new _).2 (.inl rfl))).trans ?_,
    (fates sampleCups ((new _).2 (.inr rfl))).trans ?_⟩
  · decide +kernel
  · decide +kernel

end Saga

end Marketplace
