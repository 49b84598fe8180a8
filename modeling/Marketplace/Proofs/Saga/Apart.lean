import Marketplace.Proofs.Saga.Dealing

/-!
# Orders that keep apart

At the start every order that was announced has ended. From then on clients do nothing but place
orders. A new order that shares neither its product nor its buyer with another new order keeps apart
from all the others: whatever happens to them, its product and the wallet of its buyer are as they
were at the start, but for what is taken for this order. So one can read off the start what it will
be granted and charged.

## Results

* `Since.deal`: every hold, every open record and every announcement is either of the start, and
  then it is settled, or belongs to a new order.
* `Track.deal`: where an order that keeps apart stands, and what is left of its product and in the
  wallet of its buyer.
-/

namespace Marketplace

namespace Saga

/-! ## Since the start -/

/-- The order was announced since the start. -/
def New (r₀ r : Records) (c : OrderCreated) : Prop :=
  .orderCreated c ∈ r.said ∧ .orderCreated c ∉ r₀.said

/-- The orders of the start are settled; whatever is not settled belongs to a new order. -/
structure Since (r₀ r : Records) : Prop where
  known : ∀ c, .orderCreated c ∈ r₀.said → (r₀.orders.orders.get? c.order).isSome
  kept : ∀ id, (r₀.orders.orders.get? id).isSome → (r.orders.orders.get? id).isSome
  answered : ∀ c, .orderCreated c ∈ r₀.said → (r.inventory.holds.get? c.order).isSome
  charged : ∀ q, .productReserved q ∈ r₀.said → (r.payments.debits.get? q.order).isSome
  /-- A new order is announced as it was placed. -/
  announced : ∀ c, New r₀ r c → r₀.orders.orders.get? c.order = none ∧ c.quantity ≠ 0 ∧
    ∃ o, r.orders.orders.get? c.order = some o ∧ c = o.announcement
  record : ∀ id a, r.inventory.reserved.get? id = some a →
    ∃ c, New r₀ r c ∧ c.order = id ∧ a.product = c.product
  reserved : ∀ q, .productReserved q ∈ r.said → .productReserved q ∈ r₀.said ∨
    ∃ c, New r₀ r c ∧ c.order = q.order ∧ c.account = q.account

variable {r₀ r mid : Records} {c : OrderCreated} {part : List Payload}

/-! ### What is kept -/

theorem Dealing.order (h : Dealing r mid) {id : OrderId} {o : Order}
    (ho : r.orders.orders.get? id = some o) :
    ∃ o', mid.orders.orders.get? id = some o' ∧ o'.announcement = o.announcement := by
  cases h with
  | place b first => exact ⟨o, Table.get?_put_of_none first ho, rfl⟩
  | move j b found status time =>
    by_cases hj : id = j
    · subst hj
      cases found.symm.trans ho
      exact ⟨_, Table.get?_put_self _ _ _, rfl⟩
    · exact ⟨o, (Table.get?_put_of_ne hj).trans ho, rfl⟩
  | _ => exact ⟨o, ho, rfl⟩

theorem Dealing.hold_isSome (h : Dealing r mid) {id : OrderId}
    (hh : (r.inventory.holds.get? id).isSome) : (mid.inventory.holds.get? id).isSome := by
  cases h with
  | refuse c hc first costless reason => exact Table.isSome_get?_put hh
  | hold c hc first p known enough payable price => exact Table.isSome_get?_put hh
  | consume j a isOpen => exact Table.isSome_get?_put hh
  | giveBack j a isOpen =>
    show ((InventoryStore.restock _ _ _).holds.get? id).isSome
    rw [InventoryStore.restock_holds]
    exact Table.isSome_get?_put hh
  | _ => exact hh

theorem Dealing.debit_isSome (h : Dealing r mid) {id : OrderId}
    (hx : (r.payments.debits.get? id).isSome) : (mid.payments.debits.get? id).isSome := by
  cases h with
  | decline q hq first x refused short => exact Table.isSome_get?_put hx
  | charge q hq first w owned rest left some_left time ledger x approved =>
    exact Table.isSome_get?_put hx
  | _ => exact hx

/-- An open record was open before, or is that of an order whose stock is withheld just now. -/
theorem Dealing.record (h : Dealing r mid) {id : OrderId} {a : Reserved}
    (ha : mid.inventory.reserved.get? id = some a) :
    r.inventory.reserved.get? id = some a ∨
    ∃ c, .orderCreated c ∈ r.said ∧ r.inventory.holds.get? c.order = none ∧ c.order = id ∧
      a.product = c.product := by
  cases h with
  | hold c hc first p known enough payable price =>
    by_cases hid : id = c.order
    · subst hid
      cases (Table.get?_put_self _ _ _).symm.trans ha
      exact .inr ⟨c, hc, first, rfl, rfl⟩
    · exact .inl ((Table.get?_put_of_ne hid).symm.trans ha)
  | consume j b isOpen => exact .inl (Table.get?_of_get?_erase ha)
  | giveBack j b isOpen =>
    dsimp only at ha
    rw [InventoryStore.restock_reserved] at ha
    exact .inl (Table.get?_of_get?_erase ha)
  | _ => exact .inl ha

/-! ### What is new -/

theorem New.deal (h : New r₀ r c) (deal : Dealing r mid) :
    New r₀ { mid with said := mid.said ++ part } c := by
  refine ⟨List.mem_append_left _ ?_, h.2⟩
  rw [deal.said]
  exact h.1

/-- An order that is asked for the first time is new. -/
theorem Since.new_of_first (h : Since r₀ r) (hc : .orderCreated c ∈ r.said)
    (first : r.inventory.holds.get? c.order = none) : New r₀ r c := by
  refine ⟨hc, fun old => ?_⟩
  have answered := h.answered c old
  rw [first] at answered
  cases answered

/-- An announcement about an order with the identifier of a new order is about a new order. -/
theorem Since.new_of_order (h : Since r₀ r) {c' : OrderCreated} (hc : .orderCreated c ∈ r.said)
    (unknown : r₀.orders.orders.get? c'.order = none) (same : c.order = c'.order) :
    New r₀ r c := by
  refine ⟨hc, fun old => ?_⟩
  have known := h.known c old
  rw [same, unknown] at known
  cases known

/-- **Only new orders are not settled**, whatever is done to the records. -/
theorem Since.deal (h : Since r₀ r) (deal : Dealing r mid)
    (tells : ∀ q ∈ part, Tells r mid q) : Since r₀ { mid with said := mid.said ++ part } := by
  have said : ∀ {q}, q ∈ mid.said ++ part → q ∈ r.said ∨ q ∈ part := by
    intro q hq
    rw [deal.said] at hq
    exact List.mem_append.1 hq
  have record : ∀ id a, mid.inventory.reserved.get? id = some a →
      ∃ c, New r₀ r c ∧ c.order = id ∧ a.product = c.product := by
    intro id a ha
    rcases deal.record ha with ha | ⟨c, hc, first, same, product⟩
    · exact h.record id a ha
    · exact ⟨c, h.new_of_first hc first, same, product⟩
  refine ⟨h.known, ?_, fun c hc => deal.hold_isSome (h.answered c hc),
    fun q hq => deal.debit_isSome (h.charged q hq), ?_, ?_, ?_⟩
  · -- orders stay
    intro id known
    obtain ⟨o, ho⟩ := Option.isSome_iff_exists.1 (h.kept id known)
    obtain ⟨o', ho', _⟩ := deal.order ho
    exact Option.isSome_iff_exists.2 ⟨o', ho'⟩
  · -- an order that is announced now was not there before
    rintro c ⟨hc, new⟩
    rcases said hc with hc | hc
    · obtain ⟨unknown, pieces, o, ho, hann⟩ := h.announced c ⟨hc, new⟩
      obtain ⟨o', ho', same⟩ := deal.order ho
      exact ⟨unknown, pieces, o', ho', hann.trans same.symm⟩
    · obtain ⟨first, pieces, o, ho, hann⟩ := tells _ hc
      refine ⟨Option.not_isSome_iff_eq_none.1 fun known => ?_, pieces, o, ho, hann⟩
      have kept := h.kept _ known
      rw [first] at kept
      cases kept
  · intro id a ha
    obtain ⟨c, new, same⟩ := record id a ha
    exact ⟨c, new.deal deal, same⟩
  · -- a reservation is announced from an open record, and that belongs to a new order
    intro q hq
    rcases said hq with hq | hq
    · rcases h.reserved q hq with old | ⟨c, new, same⟩
      · exact .inl old
      · exact .inr ⟨c, new.deal deal, same⟩
    · obtain ⟨c, a, hc, ha, rfl⟩ := tells _ hq
      obtain ⟨c', new, same, _⟩ := record _ a ha
      have unknown := (h.announced c' new).1
      exact .inr ⟨c, (h.new_of_order hc unknown same.symm).deal deal, rfl, rfl⟩

/-! ## One order on its own -/

/-- No other new order has the product or the buyer of this one. -/
def Alone (r₀ r : Records) (c : OrderCreated) : Prop :=
  ∀ c', New r₀ r c' → c' = c ∨
    (c'.order ≠ c.order ∧ c'.product ≠ c.product ∧ c'.account ≠ c.account)

/-- The product of the order is as it was. -/
def Untouched (s₀ s : InventoryStore) (c : OrderCreated) : Prop :=
  s.products.get? c.product = s₀.products.get? c.product

/-- The product has what is left when the stock of the order, which comes to so much, is taken. -/
def Taken (s₀ s : InventoryStore) (c : OrderCreated) (payable : Money) : Prop :=
  ∃ p, s₀.products.get? c.product = some p ∧ c.quantity ≤ p.quantity ∧
    p.price.times? c.quantity = some payable ∧
    s.products.get? c.product = some { p with quantity := p.quantity - c.quantity }

/-- What the hold of an order means for its record and for its product. -/
def Standing (s₀ s : InventoryStore) (c : OrderCreated) : Option Hold → Prop
  | none => Untouched s₀ s c
  | some .held => ∃ payable,
    s.reserved.get? c.order = some ⟨c.order, c.product, c.quantity, payable⟩ ∧ Taken s₀ s c payable
  | some (.refused _) => s₀.cost? c.product c.quantity = none ∧ Untouched s₀ s c
  | some .consumed => ∃ payable, Taken s₀ s c payable
  | some .returned => Untouched s₀ s c

section Standing

variable {s₀ s s' : InventoryStore} {payable : Money}

theorem Taken.cost (h : Taken s₀ s c payable) :
    s₀.cost? c.product c.quantity = some payable := by
  obtain ⟨p, known, enough, price, _⟩ := h
  exact InventoryStore.cost?_eq_some.2 ⟨p, known, enough, price⟩

/-- What goes back makes up for what was taken. -/
theorem Taken.restock (h : Taken s₀ s c payable) :
    Untouched s₀ (s.restock c.product c.quantity) c := by
  obtain ⟨p, known, _, _, left⟩ := h
  unfold Untouched
  rw [InventoryStore.get?_restock left, known]
  dsimp only
  rw [UInt32.sub_add_cancel]

/-- Only the record of the order and its product matter. -/
theorem Standing.congr {x : Option Hold} (h : Standing s₀ s c x)
    (reserved : s'.reserved.get? c.order = s.reserved.get? c.order)
    (products : s'.products.get? c.product = s.products.get? c.product) :
    Standing s₀ s' c x := by
  have untouched : Untouched s₀ s c → Untouched s₀ s' c := fun h => products.trans h
  have taken : ∀ {payable}, Taken s₀ s c payable → Taken s₀ s' c payable := by
    rintro payable ⟨p, known, enough, price, left⟩
    exact ⟨p, known, enough, price, products.trans left⟩
  match x, h with
  | none, h => exact untouched h
  | some .held, ⟨payable, record, left⟩ => exact ⟨payable, reserved.trans record, taken left⟩
  | some (.refused _), ⟨costless, h⟩ => exact ⟨costless, untouched h⟩
  | some .consumed, ⟨payable, left⟩ => exact ⟨payable, taken left⟩
  | some .returned, h => exact untouched h

/-- **What an order is granted** is decided by the start. -/
theorem Standing.deal (h : Standing s₀ r.inventory c (r.inventory.holds.get? c.order))
    (agreement : Agreement r) (since : Since r₀ r) (alone : Alone r₀ r c)
    (deal : Dealing r mid) :
    Standing s₀ mid.inventory c (mid.inventory.holds.get? c.order) := by
  cases deal with
  | quiet i o p => exact h.congr rfl rfl
  | refuse c' hc first costless reason =>
    dsimp only
    rcases alone c' (since.new_of_first hc first) with rfl | ⟨order, _, _⟩
    · rw [first] at h
      rw [Table.get?_put_self]
      exact ⟨(InventoryStore.cost?_congr h).symm.trans costless, h⟩
    · rw [Table.get?_put_of_ne order.symm]
      exact h.congr rfl rfl
  | hold c' hc first p known enough payable price =>
    dsimp only
    rcases alone c' (since.new_of_first hc first) with rfl | ⟨order, product, _⟩
    · rw [first] at h
      rw [Table.get?_put_self]
      exact ⟨payable, Table.get?_put_self _ _ _, p, h.symm.trans known, enough, price,
        Table.get?_put_self _ _ _⟩
    · rw [Table.get?_put_of_ne order.symm]
      exact h.congr (Table.get?_put_of_ne order.symm) (Table.get?_put_of_ne product.symm)
  | consume id a ha =>
    dsimp only
    have held := (agreement.record id).1 (Option.isSome_iff_exists.2 ⟨a, ha⟩)
    by_cases hid : c.order = id
    · rw [hid, held] at h
      obtain ⟨payable, _, taken⟩ := h
      rw [hid, Table.get?_put_self]
      exact ⟨payable, taken⟩
    · rw [Table.get?_put_of_ne hid]
      exact h.congr (Table.get?_erase_of_ne hid) rfl
  | giveBack id a ha =>
    dsimp only
    rw [InventoryStore.restock_holds]
    have held := (agreement.record id).1 (Option.isSome_iff_exists.2 ⟨a, ha⟩)
    by_cases hid : c.order = id
    · rw [hid, held] at h
      obtain ⟨payable, record, taken⟩ := h
      rw [hid] at record
      cases ha.symm.trans record
      rw [hid, Table.get?_put_self]
      exact Taken.restock taken
    · -- the stock that goes back is that of another order, and so of another product
      obtain ⟨c', new, order, product⟩ := since.record id a ha
      have apart : c.product ≠ a.product := by
        rcases alone c' new with rfl | ⟨_, apart, _⟩
        · exact (hid order).elim
        · rw [product]
          exact apart.symm
      rw [Table.get?_put_of_ne hid]
      refine h.congr ?_ (InventoryStore.get?_restock_of_ne apart)
      rw [InventoryStore.restock_reserved]
      exact Table.get?_erase_of_ne hid
  | _ => exact h

end Standing

/-- What the outcome of charging an order means for the wallet of its buyer. -/
def Paying (r₀ : Records) (s : PaymentStore) (c : OrderCreated) : Option Debit → Prop
  | none => s.wallets.get? c.account = r₀.payments.wallets.get? c.account
  | some x => ∃ payable, r₀.inventory.cost? c.product c.quantity = some payable ∧
    if x.isApproved then
      ∃ w w', r₀.payments.wallets.get? c.account = some w ∧
        s.wallets.get? c.account = some w' ∧
        w'.balance.cents = w.balance.cents - payable.cents ∧ 0 < w'.balance.cents
    else ¬r₀.payments.Affords c.account payable ∧
      s.wallets.get? c.account = r₀.payments.wallets.get? c.account

section Paying

variable {s s' : PaymentStore}

/-- Only the wallet of the buyer matters. -/
theorem Paying.congr {x : Option Debit} (h : Paying r₀ s c x)
    (wallets : s'.wallets.get? c.account = s.wallets.get? c.account) : Paying r₀ s' c x := by
  cases x with
  | none => exact wallets.trans h
  | some x =>
    obtain ⟨payable, cost, h⟩ := h
    refine ⟨payable, cost, ?_⟩
    rw [wallets]
    exact h

theorem affords_congr {a : AccountId} {amount : Money}
    (same : s'.wallets.get? a = s.wallets.get? a) : s'.Affords a amount ↔ s.Affords a amount := by
  unfold PaymentStore.Affords
  rw [same]

/-- **What an order is charged** is decided by the start. -/
theorem Paying.deal (h : Paying r₀ r.payments c (r.payments.debits.get? c.order))
    (since : Since r₀ r) (alone : Alone r₀ r c)
    (told : ∀ q, .productReserved q ∈ r.said → q.order = c.order →
      q.account = c.account ∧ r₀.inventory.cost? c.product c.quantity = some q.payable)
    (positive : ∀ payable, r₀.inventory.cost? c.product c.quantity = some payable →
      0 < payable.cents)
    (deal : Dealing r mid) : Paying r₀ mid.payments c (mid.payments.debits.get? c.order) := by
  cases deal with
  | quiet i o p => exact h.congr rfl
  | decline q hq first x refused short =>
    dsimp only
    by_cases own : q.order = c.order
    · obtain ⟨account, cost⟩ := told q hq own
      rw [own] at first ⊢
      rw [first] at h
      rw [account] at short
      rw [Table.get?_put_self]
      refine ⟨q.payable, cost, ?_⟩
      rw [refused, ← affords_congr h]
      exact ⟨short (positive q.payable cost), h⟩
    · rw [Table.get?_put_of_ne (Ne.symm own)]
      exact h.congr rfl
  | charge q hq first w owned rest left some_left time ledger x approved =>
    dsimp only
    by_cases own : q.order = c.order
    · obtain ⟨account, cost⟩ := told q hq own
      rw [own] at first ⊢
      rw [first] at h
      rw [account] at owned ⊢
      rw [Table.get?_put_self]
      refine ⟨q.payable, cost, ?_⟩
      rw [approved]
      exact ⟨w, _, h.symm.trans owned, Table.get?_put_self _ _ _, left, some_left⟩
    · have apart : c.account ≠ q.account := by
        rcases since.reserved q hq with old | ⟨c', new, order, account⟩
        · have charged := since.charged q old
          rw [first] at charged
          cases charged
        · rcases alone c' new with rfl | ⟨_, _, apart⟩
          · exact (own order.symm).elim
          · rw [← account]
            exact apart.symm
      rw [Table.get?_put_of_ne (Ne.symm own)]
      exact h.congr (Table.get?_put_of_ne apart)
  | _ => exact h

end Paying

/-- A new order that keeps apart, followed from the start. -/
structure Track (r₀ r : Records) (c : OrderCreated) : Prop where
  standing : Standing r₀.inventory r.inventory c (r.inventory.holds.get? c.order)
  paying : Paying r₀ r.payments c (r.payments.debits.get? c.order)
  /-- What the buyer is asked to pay is what the order came to at the start. -/
  told : ∀ q, .productReserved q ∈ r.said → q.order = c.order →
    q.account = c.account ∧ r₀.inventory.cost? c.product c.quantity = some q.payable

/-- **An order that keeps apart stays on its track**, whatever is done to the records. -/
theorem Track.deal (h : Track r₀ r c) (since : Since r₀ r) (alone : Alone r₀ r c)
    (unknown : r₀.orders.orders.get? c.order = none)
    (positive : ∀ payable, r₀.inventory.cost? c.product c.quantity = some payable →
      0 < payable.cents)
    (agreement : Agreement r) (agreement' : Agreement { mid with said := mid.said ++ part })
    (deal : Dealing r mid) (tells : ∀ q ∈ part, Tells r mid q) :
    Track r₀ { mid with said := mid.said ++ part } c := by
  have standing := h.standing.deal agreement since alone deal
  have paying := h.paying.deal since alone h.told positive deal
  refine ⟨standing, paying, ?_⟩
  intro q hq own
  dsimp only at hq
  rw [deal.said] at hq
  rcases List.mem_append.1 hq with hq | hq
  · exact h.told q hq own
  · obtain ⟨c', a, hc', ha, rfl⟩ := tells _ hq
    rcases alone c' (since.new_of_order hc' unknown own) with rfl | ⟨other, _⟩
    · have held := (agreement'.record c'.order).1 (Option.isSome_iff_exists.2 ⟨a, ha⟩)
      dsimp only at held
      rw [held] at standing
      obtain ⟨payable, record, taken⟩ := standing
      cases ha.symm.trans record
      exact ⟨rfl, taken.cost⟩
    · exact (other own).elim

end Saga

end Marketplace
