import Marketplace.Proofs.Inventory.Store
import Marketplace.Proofs.Table

/-!
# Stock is conserved

What a product was created with is, at every moment, what is left of it, what open holds withhold
and what was consumed. Holds and records are two tables that change in different branches, and the
quantities are 32-bit words; that none of them wraps around follows from the sum over all orders.

A run is any list of calls, with the store down or up in between. Beside the store it keeps what
the calls were answered: the products as they were created, and the record that each order got.

## Results

* `Inv.after`: every call keeps the invariant, for any order and any quantity.
* `stock_conserved`: the balance, the bounds of the arithmetic and the agreement of records and
  holds, after every run.
-/

namespace Marketplace

/-- A call that may change the inventory store. -/
inductive StockCall where
  | createMerchant (m : Merchant)
  | createProduct (p : Product)
  | reserve (order : OrderId) (product : ProductId) (quantity : UInt32)
  | consume (order : OrderId)
  | giveBack (order : OrderId)
  /-- The store becomes unreachable, or reachable again. -/
  | setDown (isDown : Bool)

/-- The product that a call creates. -/
def StockCall.createdId? : StockCall → Option ProductId
  | .createProduct p => some p.id
  | _ => none

/-- The inventory store in the course of a run, and what was answered so far. -/
structure StockRun where
  store : InventoryStore
  /-- Products as they were created. -/
  created : Table ProductId Product
  /-- The record that an order was answered. -/
  granted : Table OrderId Reserved

namespace StockRun

/-- Before the first call. -/
def start : StockRun := ⟨.empty, .empty, .empty⟩

/-- The run after one more call; a call that fails changes nothing. -/
def after (r : StockRun) : StockCall → StockRun
  | .createMerchant m =>
    match r.store.createMerchant m with
    | .ok (_, s) => { r with store := s }
    | .error _ => r
  | .createProduct p =>
    match r.store.createProduct p with
    | .ok (p, s) => { r with store := s, created := r.created.put p.id p }
    | .error _ => r
  | .reserve order product quantity =>
    match r.store.reserve order product quantity with
    | .ok (.reserved a, s) => { r with store := s, granted := r.granted.put order a }
    | .ok (_, s) => { r with store := s }
    | .error _ => r
  | .consume order =>
    match r.store.consume order with
    | .ok (_, s) => { r with store := s }
    | .error _ => r
  | .giveBack order =>
    match r.store.giveBack order with
    | .ok (_, s) => { r with store := s }
    | .error _ => r
  | .setDown isDown => { r with store.isDown := isDown }

/-- The run of a list of calls, from the empty store. -/
def ofCalls (calls : List StockCall) : StockRun := calls.foldl after start

/-- What a record counts for a product among the orders with some hold. -/
def share (a : Reserved) (actual : Option Hold) (hold : Hold) (id : ProductId) : Nat :=
  if a.product = id ∧ actual = some hold then a.quantity.toNat else 0

/-- The quantity of a product in records of orders with some hold. -/
def quantityIn (granted : Table OrderId Reserved) (holds : Table OrderId Hold) (hold : Hold)
    (id : ProductId) : Nat :=
  granted.total fun order a => share a (holds.get? order) hold id

/-- The quantity of a product that was granted to orders whose hold is now as given. -/
def amount (r : StockRun) (hold : Hold) (id : ProductId) : Nat :=
  quantityIn r.granted r.store.holds hold id

/-- Stock is conserved, its arithmetic is exact, and records and holds agree. -/
structure Conserved (r : StockRun) : Prop where
  /-- The store has exactly the products that were created. -/
  known : ∀ id, (r.store.products.get? id).isSome = (r.created.get? id).isSome
  /-- What is left, withheld and consumed of a product is what it was created with. -/
  balance : ∀ id p c, r.store.products.get? id = some p → r.created.get? id = some c →
    p.quantity.toNat + r.amount .held id + r.amount .consumed id = c.quantity.toNat
  /-- Taking stock for an order does not go below zero. -/
  takes : ∀ order id q a s, r.store.holds.get? order = none →
    r.store.reserve order id q = .ok (.reserved a, s) →
    ∃ p p', r.store.products.get? id = some p ∧ s.products.get? id = some p' ∧
      q.toNat ≤ p.quantity.toNat ∧ p'.quantity.toNat = p.quantity.toNat - q.toNat
  /-- The product of a record is there, and has room for what the record withholds. -/
  room : ∀ order a, r.store.reserved.get? order = some a →
    ∃ p, r.store.products.get? a.product = some p ∧
      p.quantity.toNat + a.quantity.toNat < UInt32.size
  /-- Putting stock back does not wrap around. -/
  gives : ∀ order a s, r.store.giveBack order = .ok (some a, s) →
    ∃ p p', r.store.products.get? a.product = some p ∧ s.products.get? a.product = some p' ∧
      p'.quantity.toNat = p.quantity.toNat + a.quantity.toNat
  /-- An order has a record exactly as long as its hold is open. -/
  recorded : ∀ order, (r.store.reserved.get? order).isSome ↔ r.store.holds.get? order = some .held
  /-- An order whose hold is open is answered its record. -/
  answered : ∀ order id q, r.store.holds.get? order = some .held → r.store.isDown = false →
    ∃ a, r.store.reserve order id q = .ok (.reserved a, r.store)

/-! ## The invariant -/

/-- How the tables refer to each other. The record of an order is the one that it was granted, as
long as its hold is open. -/
structure Linked (r : StockRun) : Prop where
  known : ∀ id, (r.store.products.get? id).isSome = (r.created.get? id).isSome
  recorded : ∀ order a, r.store.reserved.get? order = some a ↔
    r.granted.get? order = some a ∧ r.store.holds.get? order = some .held
  held : ∀ order, r.store.holds.get? order = some .held → (r.granted.get? order).isSome
  ungranted : ∀ order, r.store.holds.get? order = none → r.granted.get? order = none
  product : ∀ order a, r.granted.get? order = some a →
    (r.store.products.get? a.product).isSome

/-- What every call keeps. -/
structure Inv (r : StockRun) : Prop extends Linked r where
  balance : ∀ id p c, r.store.products.get? id = some p → r.created.get? id = some c →
    p.quantity.toNat + r.amount .held id + r.amount .consumed id = c.quantity.toNat

variable {r r' : StockRun} {o : OrderId} {a : Reserved} {new hold : Hold} {id : ProductId}

theorem inv_start : Inv start := by
  refine ⟨⟨fun _ => rfl, ?_, ?_, fun _ _ => rfl, ?_⟩, ?_⟩
  · intro order a
    constructor
    · intro h
      cases h
    · rintro ⟨h, _⟩
      cases h
  · intro order h
    cases h
  · intro order a h
    cases h
  · intro id p c hp
    cases hp

/-! ### What a change of a hold does to the amounts -/

section Amounts

variable {granted : Table OrderId Reserved} {holds : Table OrderId Hold}

/-- A new hold of an order that was granted something moves the order's share. -/
theorem quantityIn_of_granted (holds : Table OrderId Hold) (new hold : Hold) (id : ProductId)
    (ha : granted.get? o = some a) :
    quantityIn granted (holds.put o new) hold id + share a (holds.get? o) hold id =
      quantityIn granted holds hold id + share a (some new) hold id := by
  have := Table.total_shift (f := fun order a => share a ((holds.put o new).get? order) hold id)
    (g := fun order a => share a (holds.get? order) hold id) ha (by
      intro j w hj
      rw [Table.get?_put, if_neg hj])
  rw [Table.get?_put, if_pos rfl] at this
  exact this

/-- A new hold of an order that was granted nothing counts for no product. -/
theorem quantityIn_of_ungranted (new : Hold) (ha : granted.get? o = none) :
    quantityIn granted (holds.put o new) hold id = quantityIn granted holds hold id := by
  apply Table.total_congr
  intro j w hj
  have : j ≠ o := by
    rintro rfl
    rw [ha] at hj
    cases hj
  rw [Table.get?_put, if_neg this]

/-- A grant adds its share. -/
theorem quantityIn_of_grant (ha : granted.get? o = none) :
    quantityIn (granted.put o a) (holds.put o new) hold id =
      share a (some new) hold id + quantityIn granted holds hold id := by
  have := Table.total_put_of_none (v := a)
    (f := fun order a => share a ((holds.put o new).get? order) hold id) ha
  rw [Table.get?_put, if_pos rfl] at this
  rw [← quantityIn_of_ungranted new ha]
  exact this

/-- A product that nobody was granted anything of counts nothing. -/
theorem quantityIn_eq_zero (h : ∀ order a, granted.get? order = some a → a.product ≠ id) :
    quantityIn granted holds hold id = 0 := by
  have : quantityIn granted holds hold id = granted.total fun _ _ => 0 := by
    apply Table.total_congr
    intro order a ha
    unfold share
    rw [if_neg fun hs => h order a ha hs.1]
  rw [this, Table.total_zero]

end Amounts

/-! ### One lemma for every change -/

/-- A product that is there may change; no table refers to more than its identifier. -/
theorem Linked.product_changed (h : Linked r) {p : Product}
    (hp : (r.store.products.get? id).isSome) :
    Linked { r with store.products := r.store.products.put id p } := by
  refine ⟨?_, h.recorded, h.held, h.ungranted,
    fun order a ha => Table.isSome_get?_put (h.product order a ha)⟩
  intro j
  show ((r.store.products.put id p).get? j).isSome = _
  rw [Table.get?_put]
  split
  · rename_i hj
    subst hj
    rw [← h.known, hp]
    rfl
  · exact h.known j

/-- Closing an open hold takes its record away. -/
theorem Linked.settled (h : Linked r) (hnew : new ≠ .held) :
    Linked { r with store := { r.store with
      reserved := r.store.reserved.erase o, holds := r.store.holds.put o new } } := by
  refine ⟨h.known, ?_, ?_, ?_, h.product⟩
  · intro order b
    show (r.store.reserved.erase o).get? order = some b ↔
      r.granted.get? order = some b ∧ (r.store.holds.put o new).get? order = some .held
    rw [Table.get?_erase, Table.get?_put]
    split
    · constructor
      · intro hb
        cases hb
      · rintro ⟨_, hb⟩
        cases hb
        exact absurd rfl hnew
    · exact h.recorded order b
  · intro order hh
    change (r.store.holds.put o new).get? order = some .held at hh
    rw [Table.get?_put] at hh
    split at hh
    · cases hh
      exact absurd rfl hnew
    · exact h.held order hh
  · intro order hh
    change (r.store.holds.put o new).get? order = none at hh
    rw [Table.get?_put] at hh
    split at hh
    · cases hh
    · exact h.ungranted order hh

/-- The record of a first request becomes the grant of its order. -/
theorem Linked.granted (h : Linked r) (hp : (r.store.products.get? a.product).isSome) :
    Linked { r with
      store := { r.store with
        reserved := r.store.reserved.put o a, holds := r.store.holds.put o .held }
      granted := r.granted.put o a } := by
  refine ⟨h.known, ?_, ?_, ?_, ?_⟩
  · intro order b
    show (r.store.reserved.put o a).get? order = some b ↔
      (r.granted.put o a).get? order = some b ∧ (r.store.holds.put o .held).get? order = some .held
    rw [Table.get?_put, Table.get?_put, Table.get?_put]
    split
    · simp
    · exact h.recorded order b
  · intro order hh
    show ((r.granted.put o a).get? order).isSome
    change (r.store.holds.put o .held).get? order = some .held at hh
    rw [Table.get?_put] at hh ⊢
    split
    · rfl
    · rename_i hne
      rw [if_neg hne] at hh
      exact h.held order hh
  · intro order hh
    show (r.granted.put o a).get? order = none
    change (r.store.holds.put o .held).get? order = none at hh
    rw [Table.get?_put] at hh ⊢
    split
    · rename_i he
      rw [if_pos he] at hh
      cases hh
    · rename_i hne
      rw [if_neg hne] at hh
      exact h.ungranted order hh
  · intro order b hb
    change (r.granted.put o a).get? order = some b at hb
    rw [Table.get?_put] at hb
    split at hb
    · cases hb
      exact hp
    · exact h.product order b hb

theorem Linked.refused (h : Linked r) {reason : Refusal} (ho : r.store.holds.get? o = none) :
    Linked { r with store.holds := r.store.holds.put o (.refused reason) } := by
  have hg := h.ungranted o ho
  refine ⟨h.known, ?_, ?_, ?_, h.product⟩
  · intro order b
    show r.store.reserved.get? order = some b ↔
      r.granted.get? order = some b ∧ (r.store.holds.put o _).get? order = some .held
    rw [h.recorded, Table.get?_put]
    split
    · rename_i he
      subst he
      simp [hg]
    · exact Iff.rfl
  · intro order hh
    change (r.store.holds.put o _).get? order = some .held at hh
    rw [Table.get?_put] at hh
    split at hh
    · cases hh
    · exact h.held order hh
  · intro order hh
    change (r.store.holds.put o _).get? order = none at hh
    rw [Table.get?_put] at hh
    split at hh
    · cases hh
    · exact h.ungranted order hh

theorem Linked.created (h : Linked r) (p : Product) :
    Linked { r with
      store.products := r.store.products.put p.id p, created := r.created.put p.id p } := by
  refine ⟨?_, h.recorded, h.held, h.ungranted,
    fun order a ha => Table.isSome_get?_put (h.product order a ha)⟩
  intro j
  show ((r.store.products.put p.id p).get? j).isSome = ((r.created.put p.id p).get? j).isSome
  rw [Table.get?_put, Table.get?_put]
  split
  · rfl
  · exact h.known j

/-! ### The balance -/

/-- A product with a new identifier starts with all that it was created with. -/
theorem Inv.created (h : Inv r) {p : Product} (fresh : r.created.get? p.id = none) :
    Inv { r with
      store.products := r.store.products.put p.id p, created := r.created.put p.id p } := by
  refine ⟨h.toLinked.created p, ?_⟩
  intro j q c hq hc
  change (r.store.products.put p.id p).get? j = some q at hq
  change (r.created.put p.id p).get? j = some c at hc
  show q.quantity.toNat + r.amount .held j + r.amount .consumed j = c.quantity.toNat
  rw [Table.get?_put] at hq hc
  by_cases hj : j = p.id
  · subst hj
    rw [if_pos rfl] at hq hc
    cases hq
    cases hc
    have unused : ∀ order a, r.granted.get? order = some a → a.product ≠ p.id := by
      intro order a ha he
      have := h.product order a ha
      rw [he, h.known, fresh] at this
      cases this
    unfold amount
    rw [quantityIn_eq_zero unused, quantityIn_eq_zero unused]
    rfl
  · rw [if_neg hj] at hq hc
    exact h.balance j q c hq hc

theorem Inv.refused (h : Inv r) {reason : Refusal} (ho : r.store.holds.get? o = none) :
    Inv { r with store.holds := r.store.holds.put o (.refused reason) } := by
  refine ⟨h.toLinked.refused ho, ?_⟩
  intro j q c hq hc
  have hg := h.ungranted o ho
  show q.quantity.toNat + quantityIn r.granted (r.store.holds.put o _) .held j +
    quantityIn r.granted (r.store.holds.put o _) .consumed j = c.quantity.toNat
  rw [quantityIn_of_ungranted _ hg, quantityIn_of_ungranted _ hg]
  exact h.balance j q c hq hc

/-- What a first request takes off the product, its order's open hold withholds. -/
theorem Inv.granted (h : Inv r) {p : Product} (hp : r.store.products.get? a.product = some p)
    (enough : a.quantity ≤ p.quantity) (ho : r.store.holds.get? o = none) :
    Inv { r with
      store := { r.store with
        products := r.store.products.put a.product { p with quantity := p.quantity - a.quantity }
        reserved := r.store.reserved.put o a
        holds := r.store.holds.put o .held }
      granted := r.granted.put o a } := by
  have known : (r.store.products.get? a.product).isSome := by rw [hp]; rfl
  refine ⟨(h.toLinked.product_changed known).granted (Table.isSome_get?_put known), ?_⟩
  intro j q c hq hc
  have hg := h.ungranted o ho
  change (r.store.products.put a.product _).get? j = some q at hq
  show q.quantity.toNat + quantityIn (r.granted.put o a) (r.store.holds.put o .held) .held j +
    quantityIn (r.granted.put o a) (r.store.holds.put o .held) .consumed j = c.quantity.toNat
  rw [quantityIn_of_grant hg, quantityIn_of_grant hg]
  rw [Table.get?_put] at hq
  by_cases hj : j = a.product
  · subst hj
    rw [if_pos rfl] at hq
    cases hq
    have := h.balance a.product p c hp hc
    have sub : (p.quantity - a.quantity).toNat = p.quantity.toNat - a.quantity.toNat :=
      UInt32.toNat_sub_of_le _ _ enough
    have le : a.quantity.toNat ≤ p.quantity.toNat := UInt32.le_iff_toNat_le.1 enough
    simp only [share, sub, amount] at this ⊢
    simp
    omega
  · rw [if_neg hj] at hq
    have hj' : ¬a.product = j := fun e => hj e.symm
    have := h.balance j q c hq hc
    simp only [share, hj', amount] at this ⊢
    simpa using this

/-- Closing an open hold takes its quantity out of what is withheld, and adds it to what is consumed
if the hold is consumed. -/
theorem Inv.amounts_settled (h : Inv r) (hr : r.store.reserved.get? o = some a) (new : Hold)
    (hnew : new ≠ .held) (id : ProductId) :
    quantityIn r.granted (r.store.holds.put o new) .held id + share a (some .held) .held id =
        r.amount .held id ∧
      quantityIn r.granted (r.store.holds.put o new) .consumed id =
        r.amount .consumed id + share a (some new) .consumed id := by
  obtain ⟨hg, hh⟩ := (h.recorded o a).1 hr
  have held := quantityIn_of_granted r.store.holds new .held id hg
  have used := quantityIn_of_granted r.store.holds new .consumed id hg
  have left : share a (some new) .held id = 0 := by simp [share, hnew]
  have unused : share a (some .held) .consumed id = 0 := by simp [share]
  rw [hh] at held used
  rw [left] at held
  rw [unused] at used
  exact ⟨held, used⟩

/-- What an open hold withheld is consumed with it. -/
theorem Inv.consumed (h : Inv r) (hr : r.store.reserved.get? o = some a) :
    Inv { r with store := { r.store with
      reserved := r.store.reserved.erase o, holds := r.store.holds.put o .consumed } } := by
  refine ⟨h.toLinked.settled (by decide), ?_⟩
  intro j q c hq hc
  show q.quantity.toNat + quantityIn r.granted (r.store.holds.put o .consumed) .held j +
    quantityIn r.granted (r.store.holds.put o .consumed) .consumed j = c.quantity.toNat
  obtain ⟨held, used⟩ := h.amounts_settled hr .consumed (by decide) j
  have same : share a (some .held) .held j = share a (some .consumed) .consumed j := by
    simp [share]
  have balance := h.balance j q c hq hc
  omega

/-- An open record fits on top of what is left of its product. -/
theorem Inv.room (h : Inv r) (hr : r.store.reserved.get? o = some a) :
    ∃ p, r.store.products.get? a.product = some p ∧
      p.quantity.toNat + a.quantity.toNat < UInt32.size := by
  obtain ⟨hg, _⟩ := (h.recorded o a).1 hr
  have known := h.product o a hg
  obtain ⟨p, hp⟩ := Option.isSome_iff_exists.1 known
  rw [h.known] at known
  obtain ⟨c, hc⟩ := Option.isSome_iff_exists.1 known
  obtain ⟨held, _⟩ := h.amounts_settled hr .returned (by decide) a.product
  have balance := h.balance a.product p c hp hc
  have bound := c.quantity.toNat_lt
  have whole : share a (some .held) .held a.product = a.quantity.toNat := by simp [share]
  refine ⟨p, hp, ?_⟩
  have : UInt32.size = 2 ^ 32 := rfl
  omega

/-- What an open hold withheld goes back to its product. -/
theorem Inv.returned (h : Inv r) (hr : r.store.reserved.get? o = some a) :
    Inv { r with store := InventoryStore.restock a.product a.quantity { r.store with
      reserved := r.store.reserved.erase o, holds := r.store.holds.put o .returned } } := by
  obtain ⟨p, hp, room⟩ := h.room hr
  have restocked := InventoryStore.restock_of_known (q := a.quantity) (s := { r.store with
    reserved := r.store.reserved.erase o, holds := r.store.holds.put o .returned }) hp
  rw [restocked]
  have known : (r.store.products.get? a.product).isSome := by rw [hp]; rfl
  refine ⟨(h.toLinked.product_changed known).settled (by decide), ?_⟩
  intro j q c hq hc
  change (r.store.products.put a.product _).get? j = some q at hq
  show q.quantity.toNat + quantityIn r.granted (r.store.holds.put o .returned) .held j +
    quantityIn r.granted (r.store.holds.put o .returned) .consumed j = c.quantity.toNat
  obtain ⟨held, used⟩ := h.amounts_settled hr .returned (by decide) j
  have unused : share a (some .returned) .consumed j = 0 := by simp [share]
  rw [Table.get?_put] at hq
  by_cases hj : j = a.product
  · subst hj
    rw [if_pos rfl] at hq
    cases hq
    have balance := h.balance a.product p c hp hc
    have whole : share a (some .held) .held a.product = a.quantity.toNat := by simp [share]
    have sum : (p.quantity + a.quantity).toNat = p.quantity.toNat + a.quantity.toNat := by
      rw [UInt32.toNat_add, Nat.mod_eq_of_lt room]
    simp only [sum]
    omega
  · rw [if_neg hj] at hq
    have balance := h.balance j q c hq hc
    have nothing : share a (some .held) .held j = 0 := if_neg fun e => hj e.1.symm
    omega

/-! ## Runs -/

/-- **Every call keeps the invariant**, provided that a product is created once. -/
theorem Inv.after (h : Inv r) (c : StockCall)
    (fresh : ∀ id, c.createdId? = some id → r.created.get? id = none) : Inv (r.after c) := by
  cases c with
  | createMerchant m =>
    simp only [StockRun.after]
    split
    · rename_i b s hs
      obtain ⟨_, rfl⟩ := InventoryStore.createMerchant_eq_ok hs
      exact ⟨⟨h.known, h.recorded, h.held, h.ungranted, h.product⟩, h.balance⟩
    · exact h
  | createProduct p =>
    simp only [StockRun.after]
    split
    · rename_i b s hs
      obtain ⟨rfl, rfl⟩ := InventoryStore.createProduct_eq_ok hs
      exact h.created (fresh _ rfl)
    · exact h
  | reserve o id q =>
    simp only [StockRun.after]
    split
    · rename_i b s hs
      rcases InventoryStore.reserve_eq_ok hs with ⟨hold, hh, hb, rfl⟩ | ⟨ho, hs⟩
      · -- the answer to a repeated request is the record that was granted
        have hr := InventoryStore.repeated_eq_reserved hb.symm
        rw [Table.put_eq_self ((h.recorded o b).1 hr.2).1]
        exact h
      · rcases InventoryStore.reserveNew_cases hs with
          ⟨_, hb, _⟩ | ⟨p, payable, hp, enough, _, hb, rfl⟩
        · cases hb
        · cases hb
          exact h.granted (a := ⟨o, id, q, payable⟩) hp enough ho
    · rename_i b s hb hs
      rcases InventoryStore.reserve_eq_ok hs with ⟨_, _, _, rfl⟩ | ⟨ho, hs⟩
      · exact h
      · rcases InventoryStore.reserveNew_cases hs with ⟨_, _, rfl⟩ | ⟨_, _, _, _, _, hr, _⟩
        · exact h.refused ho
        · exact (hb _ hr).elim
    · exact h
  | consume o =>
    simp only [StockRun.after]
    split
    · rename_i b s hs
      rcases InventoryStore.settle_cases (InventoryStore.consume_eq_ok hs) with
        ⟨_, _, rfl⟩ | ⟨a, hr, _, rfl⟩
      · exact h
      · exact h.consumed hr
    · exact h
  | giveBack o =>
    simp only [StockRun.after]
    split
    · rename_i b s hs
      rcases InventoryStore.giveBack_eq_ok hs with ⟨_, _, rfl⟩ | ⟨a, hr, _, rfl⟩
      · exact h
      · exact h.returned hr
    · exact h
  | setDown isDown =>
    exact ⟨⟨h.known, h.recorded, h.held, h.ungranted, h.product⟩, h.balance⟩

/-- A call adds at most its own product to those created. -/
theorem created_after {c : StockCall} {id : ProductId} (hc : c.createdId? ≠ some id)
    (h : r.created.get? id = none) : (r.after c).created.get? id = none := by
  cases c with
  | createProduct p =>
    simp only [StockRun.after]
    split
    · rename_i b s hs
      obtain ⟨rfl, _⟩ := InventoryStore.createProduct_eq_ok hs
      have : id ≠ b.id := by
        rintro rfl
        exact hc rfl
      show (r.created.put b.id b).get? id = none
      rw [Table.get?_put, if_neg this, h]
    · exact h
  | _ =>
    simp only [StockRun.after]
    repeat' split
    all_goals exact h

/-- The invariant holds after any list of calls that creates every product once. -/
theorem Inv.foldl : ∀ (calls : List StockCall) (r : StockRun), Inv r →
    (calls.filterMap StockCall.createdId?).Nodup →
    (∀ id ∈ calls.filterMap StockCall.createdId?, r.created.get? id = none) →
    Inv (calls.foldl StockRun.after r)
  | [], _, h, _, _ => h
  | c :: calls, r, h, nodup, fresh => by
    have own : ∀ id, c.createdId? = some id →
        id ∈ (c :: calls).filterMap StockCall.createdId? := by
      intro id hid
      rw [List.filterMap_cons_some hid]
      exact List.mem_cons_self
    have later : ∀ id ∈ calls.filterMap StockCall.createdId?, c.createdId? ≠ some id := by
      intro id hid hc
      rw [List.filterMap_cons_some hc, List.nodup_cons] at nodup
      exact nodup.1 hid
    have sub : (calls.filterMap StockCall.createdId?).Sublist
        ((c :: calls).filterMap StockCall.createdId?) :=
      (List.sublist_cons_self c calls).filterMap _
    refine Inv.foldl calls (r.after c) (h.after c fun id hid => fresh id (own id hid))
      (nodup.sublist sub) ?_
    intro id hid
    exact created_after (later id hid) (fresh id (sub.subset hid))

theorem Inv.conserved (h : Inv r) : Conserved r := by
  refine ⟨h.known, h.balance, ?_, fun _ _ hr => h.room hr, ?_, ?_, ?_⟩
  · -- taking stock
    intro order id q a s ho hs
    rcases InventoryStore.reserve_eq_ok hs with ⟨_, hh, _, _⟩ | ⟨_, hs⟩
    · rw [ho] at hh
      cases hh
    · rcases InventoryStore.reserveNew_cases hs with ⟨_, hb, _⟩ | ⟨p, _, hp, enough, _, _, rfl⟩
      · cases hb
      · refine ⟨p, { p with quantity := p.quantity - q }, hp, ?_, ?_, ?_⟩
        · show (r.store.products.put id _).get? id = _
          rw [Table.get?_put, if_pos rfl]
        · exact UInt32.le_iff_toNat_le.1 enough
        · exact UInt32.toNat_sub_of_le _ _ enough
  · -- putting stock back
    intro order a s hs
    rcases InventoryStore.giveBack_eq_ok hs with ⟨_, ha, _⟩ | ⟨b, hr, ha, rfl⟩
    · cases ha
    · cases ha
      obtain ⟨p, hp, room⟩ := h.room hr
      refine ⟨p, { p with quantity := p.quantity + a.quantity }, hp, ?_, ?_⟩
      · exact InventoryStore.get?_restock hp
      · show (p.quantity + a.quantity).toNat = _
        rw [UInt32.toNat_add, Nat.mod_eq_of_lt room]
  · -- records and open holds
    intro order
    constructor
    · intro hr
      obtain ⟨a, ha⟩ := Option.isSome_iff_exists.1 hr
      exact ((h.recorded order a).1 ha).2
    · intro hh
      obtain ⟨a, ha⟩ := Option.isSome_iff_exists.1 (h.held order hh)
      rw [(h.recorded order a).2 ⟨ha, hh⟩]
      rfl
  · -- asking again
    intro order id q hh up
    obtain ⟨a, ha⟩ := Option.isSome_iff_exists.1 (h.held order hh)
    have hr := (h.recorded order a).2 ⟨ha, hh⟩
    refine ⟨a, ?_⟩
    rw [InventoryStore.reserve_of_hold up hh]
    simp only [InventoryStore.repeated, hr]

/-- **Stock is conserved** in every run that creates every product once, whatever orders, products
and quantities its calls name and whenever the store is down. -/
theorem stock_conserved (calls : List StockCall)
    (fresh : (calls.filterMap StockCall.createdId?).Nodup) : Conserved (ofCalls calls) :=
  (Inv.foldl calls start inv_start fresh fun _ _ => rfl).conserved

/-- Four orders of one product with ten pieces: three are consumed, two withheld, four returned and
twenty refused. -/
def sampleCalls : List StockCall :=
  let product : ProductId := ⟨.ofNat 7⟩
  [.createMerchant ⟨⟨.ofNat 1⟩, "shop", ⟨3⟩, ⟨0⟩⟩,
    .createProduct ⟨product, ⟨.ofNat 1⟩, "mug", .ofUnits 2, 10, ⟨0⟩⟩,
    .reserve ⟨.ofNat 11⟩ product 3, .reserve ⟨.ofNat 12⟩ product 2,
    .reserve ⟨.ofNat 13⟩ product 4, .reserve ⟨.ofNat 14⟩ product 20,
    .consume ⟨.ofNat 11⟩, .setDown true, .giveBack ⟨.ofNat 12⟩, .setDown false,
    .giveBack ⟨.ofNat 13⟩, .giveBack ⟨.ofNat 13⟩]

theorem stock_conserved_of_sampleCalls :
    (sampleCalls.filterMap StockCall.createdId?).Nodup ∧ Conserved (ofCalls sampleCalls) ∧
      (ofCalls sampleCalls).amount .held ⟨.ofNat 7⟩ = 2 ∧
      (ofCalls sampleCalls).amount .consumed ⟨.ofNat 7⟩ = 3 :=
  ⟨by decide, stock_conserved sampleCalls (by decide), by decide, by decide⟩

end StockRun

end Marketplace
