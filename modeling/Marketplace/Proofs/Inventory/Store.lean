import Marketplace.Market.Inventory
import Marketplace.Proofs.Result
import Marketplace.Proofs.Table

/-!
# What the calls of the inventory store do

One lemma for every call: what it answered and what the store is afterwards, when it succeeded. All
calls need the store to be up; a call that fails leaves the store as it was, which its type says.
-/

namespace Marketplace

namespace InventoryStore

variable {s s' : InventoryStore} {o : OrderId} {id : ProductId} {q : UInt32}

theorem check_eq_ok_iff : s.check = .ok () ↔ s.isDown = false := by
  unfold check
  cases s.isDown <;> simp

theorem createMerchant_eq_ok {m a : Merchant} (h : s.createMerchant m = .ok (a, s')) :
    a = m ∧ s' = { s with merchants := s.merchants.put m.id m } := by
  unfold createMerchant at h
  obtain ⟨_, _, h⟩ := bind_eq_ok.1 h
  split at h
  · cases h
  · cases h
    exact ⟨rfl, rfl⟩

theorem createProduct_eq_ok {p a : Product} (h : s.createProduct p = .ok (a, s')) :
    a = p ∧ s' = { s with products := s.products.put p.id p } := by
  unfold createProduct at h
  obtain ⟨_, _, h⟩ := bind_eq_ok.1 h
  split at h
  · cases h
  · cases h
    exact ⟨rfl, rfl⟩

/-- The first request of an order is refused or takes the whole quantity off the product. -/
theorem reserveNew_cases {a : Reservation} (h : s.reserveNew o id q = (a, s')) :
    (∃ reason, a = .refused reason ∧ s' = { s with holds := s.holds.put o (.refused reason) }) ∨
    ∃ p payable, s.products.get? id = some p ∧ q ≤ p.quantity ∧
      p.price.times? q = some payable ∧ a = .reserved ⟨o, id, q, payable⟩ ∧
      s' = { s with
        products := s.products.put id { p with quantity := p.quantity - q }
        reserved := s.reserved.put o ⟨o, id, q, payable⟩
        holds := s.holds.put o .held } := by
  unfold reserveNew at h
  split at h
  · cases h
    exact .inl ⟨_, rfl, rfl⟩
  · rename_i p hp
    split at h
    · cases h
      exact .inl ⟨_, rfl, rfl⟩
    · rename_i enough
      split at h
      · cases h
        exact .inl ⟨_, rfl, rfl⟩
      · rename_i payable hpay
        cases h
        exact .inr ⟨p, payable, hp, UInt32.not_lt.1 enough, hpay, rfl, rfl⟩

/-- What a first request comes to, if it is granted: the product is known, it is not short, and the
price of the quantity is an amount of money. -/
def cost? (s : InventoryStore) (id : ProductId) (q : UInt32) : Option Money :=
  match s.products.get? id with
  | none => none
  | some p => if p.quantity < q then none else p.price.times? q

theorem cost?_of_known {p : Product} (hp : s.products.get? id = some p) (enough : q ≤ p.quantity) :
    s.cost? id q = p.price.times? q := by
  unfold cost?
  rw [hp]
  exact if_neg (UInt32.not_lt.2 enough)

theorem cost?_eq_some {payable : Money} :
    s.cost? id q = some payable ↔ ∃ p, s.products.get? id = some p ∧ q ≤ p.quantity ∧
      p.price.times? q = some payable := by
  constructor
  · intro h
    unfold cost? at h
    split at h
    · cases h
    · rename_i p hp
      split at h
      · cases h
      · rename_i enough
        exact ⟨p, hp, UInt32.not_lt.1 enough, h⟩
  · rintro ⟨p, hp, enough, price⟩
    rw [cost?_of_known hp enough, price]

/-- The cost depends on the product only. -/
theorem cost?_congr (same : s'.products.get? id = s.products.get? id) :
    s'.cost? id q = s.cost? id q := by
  unfold cost?
  rw [same]

/-- A first request is refused only if it has no cost. -/
theorem cost?_eq_none_of_refused {reason : Refusal}
    (h : s.reserveNew o id q = (.refused reason, s')) : s.cost? id q = none := by
  cases hc : s.cost? id q with
  | none => rfl
  | some payable =>
    obtain ⟨p, known, enough, price⟩ := cost?_eq_some.1 hc
    unfold reserveNew at h
    rw [known] at h
    dsimp only at h
    rw [if_neg (UInt32.not_lt.2 enough), price] at h
    cases h

/-- A request for stock is answered from the hold that the order has, or it is its first. -/
theorem reserve_eq_ok {a : Reservation} (h : s.reserve o id q = .ok (a, s')) :
    (∃ hold, s.holds.get? o = some hold ∧ a = s.repeated o hold ∧ s' = s) ∨
    (s.holds.get? o = none ∧ s.reserveNew o id q = (a, s')) := by
  unfold reserve at h
  obtain ⟨_, _, h⟩ := bind_eq_ok.1 h
  split at h
  · rename_i hold hh
    cases pure_eq_ok.1 h
    exact .inl ⟨hold, hh, rfl, rfl⟩
  · rename_i hh
    exact .inr ⟨hh, pure_eq_ok.1 h⟩

/-- Asking again while the store is up is answered from the hold and changes nothing. -/
theorem reserve_of_hold (up : s.isDown = false) {hold : Hold} (hh : s.holds.get? o = some hold) :
    s.reserve o id q = .ok (s.repeated o hold, s) := by
  unfold reserve
  rw [check_eq_ok_iff.2 up, hh]
  rfl

theorem reserve_of_down (down : s.isDown = true) :
    s.reserve o id q = .error (.storeUnavailable "inventory store") := by
  unfold reserve check
  rw [down]
  rfl

/-- As long as the store is up it has an answer. -/
theorem exists_reserve (up : s.isDown = false) (o : OrderId) (id : ProductId) (q : UInt32) :
    ∃ a s', s.reserve o id q = .ok (a, s') := by
  cases hh : s.holds.get? o with
  | some hold => exact ⟨_, _, reserve_of_hold up hh⟩
  | none =>
    refine ⟨(s.reserveNew o id q).1, (s.reserveNew o id q).2, ?_⟩
    unfold reserve
    rw [check_eq_ok_iff.2 up, hh]
    rfl

/-- A request that was answered leaves a hold that gives this answer again. -/
theorem repeated_of_reserve {a : Reservation} (h : s.reserve o id q = .ok (a, s')) :
    ∃ hold, s'.holds.get? o = some hold ∧ s'.repeated o hold = a := by
  rcases reserve_eq_ok h with ⟨hold, hh, rfl, rfl⟩ | ⟨_, first⟩
  · exact ⟨hold, hh, rfl⟩
  · rcases reserveNew_cases first with ⟨reason, rfl, rfl⟩ | ⟨_, payable, _, _, _, rfl, rfl⟩
    · exact ⟨.refused reason, Table.get?_put_self _ _ _, rfl⟩
    · refine ⟨.held, Table.get?_put_self _ _ _, ?_⟩
      unfold repeated
      dsimp only
      rw [Table.get?_put_self]

/-- A repeated request is answered a record only from an open hold. -/
theorem repeated_eq_reserved {hold : Hold} {r : Reserved} (h : s.repeated o hold = .reserved r) :
    hold = .held ∧ s.reserved.get? o = some r := by
  unfold repeated at h
  split at h
  · split at h
    · rename_i hr
      cases h
      exact ⟨rfl, hr⟩
    · cases h
  all_goals cases h

/-- Settling closes the open record of an order, if there is one. -/
theorem settle_cases {outcome : Hold} {a : Option Reserved} (h : s.settle o outcome = (a, s')) :
    (s.reserved.get? o = none ∧ a = none ∧ s' = s) ∨
    ∃ r, s.reserved.get? o = some r ∧ a = some r ∧
      s' = { s with reserved := s.reserved.erase o, holds := s.holds.put o outcome } := by
  unfold settle at h
  split at h
  · rename_i hr
    cases h
    exact .inl ⟨hr, rfl, rfl⟩
  · rename_i r hr
    cases h
    exact .inr ⟨r, hr, rfl, rfl⟩

theorem consume_eq_ok {a : Option Reserved} (h : s.consume o = .ok (a, s')) :
    s.settle o .consumed = (a, s') := by
  unfold consume at h
  obtain ⟨_, _, h⟩ := bind_eq_ok.1 h
  exact pure_eq_ok.1 h

/-- Giving back settles the open record, if there is one, and puts its quantity back. -/
theorem giveBack_eq_ok {a : Option Reserved} (h : s.giveBack o = .ok (a, s')) :
    (s.reserved.get? o = none ∧ a = none ∧ s' = s) ∨
    ∃ r, s.reserved.get? o = some r ∧ a = some r ∧
      s' = restock r.product r.quantity
        { s with reserved := s.reserved.erase o, holds := s.holds.put o .returned } := by
  unfold giveBack at h
  obtain ⟨_, _, h⟩ := bind_eq_ok.1 h
  split at h
  · rename_i s₁ hs
    cases pure_eq_ok.1 h
    rcases settle_cases hs with ⟨hr, _, rfl⟩ | ⟨_, _, ha, _⟩
    · exact .inl ⟨hr, rfl, rfl⟩
    · cases ha
  · rename_i r s₁ hs
    cases pure_eq_ok.1 h
    rcases settle_cases hs with ⟨_, ha, _⟩ | ⟨r', hr, ha, rfl⟩
    · cases ha
    · cases ha
      exact .inr ⟨r, hr, rfl, rfl⟩

/-- An open record goes to the call that ends the hold, whichever it is. -/
theorem consume_of_record {a : Reserved} (up : s.isDown = false)
    (record : s.reserved.get? o = some a) :
    s.consume o = .ok (some a, { s with
      reserved := s.reserved.erase o, holds := s.holds.put o .consumed }) := by
  unfold consume settle
  rw [check_eq_ok_iff.2 up, record]
  rfl

theorem giveBack_of_record {a : Reserved} (up : s.isDown = false)
    (record : s.reserved.get? o = some a) :
    s.giveBack o = .ok (some a, restock a.product a.quantity { s with
      reserved := s.reserved.erase o, holds := s.holds.put o .returned }) := by
  unfold giveBack settle
  rw [check_eq_ok_iff.2 up, record]
  rfl

/-- A call that gets no record changes nothing. -/
theorem eq_of_consume (h : s.consume o = .ok (none, s')) : s' = s := by
  rcases settle_cases (consume_eq_ok h) with ⟨_, _, same⟩ | ⟨_, _, some, _⟩
  · exact same
  · cases some

theorem eq_of_giveBack (h : s.giveBack o = .ok (none, s')) : s' = s := by
  rcases giveBack_eq_ok h with ⟨_, _, same⟩ | ⟨_, _, some, _⟩
  · exact same
  · cases some

/-- A call that gets a record gets the open one. -/
theorem record_of_consume {a : Reserved} (h : s.consume o = .ok (some a, s')) :
    s.reserved.get? o = some a ∧
      s' = { s with reserved := s.reserved.erase o, holds := s.holds.put o .consumed } := by
  rcases settle_cases (consume_eq_ok h) with ⟨_, none, _⟩ | ⟨_, record, same, rfl⟩
  · cases none
  · cases same
    exact ⟨record, rfl⟩

theorem record_of_giveBack {a : Reserved} (h : s.giveBack o = .ok (some a, s')) :
    s.reserved.get? o = some a ∧
      s' = restock a.product a.quantity { s with
        reserved := s.reserved.erase o, holds := s.holds.put o .returned } := by
  rcases giveBack_eq_ok h with ⟨_, none, _⟩ | ⟨_, record, same, rfl⟩
  · cases none
  · cases same
    exact ⟨record, rfl⟩

/-- A call that ends a hold leaves no record of it, whether there was one or not. -/
theorem reserved_of_consume {a : Option Reserved} (h : s.consume o = .ok (a, s')) :
    s'.reserved.get? o = none := by
  rcases settle_cases (consume_eq_ok h) with ⟨none, _, rfl⟩ | ⟨_, _, _, rfl⟩
  · exact none
  · exact (Table.get?_erase _ _ _).trans (if_pos rfl)

/-! ## Putting stock back -/

@[simp] theorem restock_holds : (s.restock id q).holds = s.holds := by
  unfold restock
  split <;> rfl

@[simp] theorem restock_reserved : (s.restock id q).reserved = s.reserved := by
  unfold restock
  split <;> rfl

theorem reserved_of_giveBack {a : Option Reserved} (h : s.giveBack o = .ok (a, s')) :
    s'.reserved.get? o = none := by
  rcases giveBack_eq_ok h with ⟨none, _, rfl⟩ | ⟨_, _, _, rfl⟩
  · exact none
  · rw [restock_reserved]
    exact (Table.get?_erase _ _ _).trans (if_pos rfl)

theorem isSome_restock (known : (s.products.get? id).isSome) (j : ProductId) (q : UInt32) :
    ((s.restock j q).products.get? id).isSome := by
  unfold restock
  split
  · exact known
  · exact Table.isSome_get?_put known

theorem restock_of_known {p : Product} (hp : s.products.get? id = some p) :
    s.restock id q =
      { s with products := s.products.put id { p with quantity := p.quantity + q } } := by
  unfold restock
  rw [hp]

theorem get?_restock_of_ne {j : ProductId} (hj : j ≠ id) :
    (s.restock id q).products.get? j = s.products.get? j := by
  unfold restock
  split
  · rfl
  · exact Table.get?_put_of_ne hj

theorem get?_restock {p : Product} (hp : s.products.get? id = some p) :
    (s.restock id q).products.get? id = some { p with quantity := p.quantity + q } := by
  rw [restock_of_known hp, Table.get?_put, if_pos rfl]

end InventoryStore

end Marketplace
