import Marketplace.Market.Basic
import Marketplace.Proofs.Authorization.Store
import Marketplace.Proofs.Identifier

/-!
# What a grant rests on

A grant is justified by something that was done: an account was registered in some role, a merchant
was opened, a product was added, an order was placed, money was moved. None of these records is ever
taken back, so what is justified stays so. An event is backed when what it says stands in the
records and what it asks for is justified.

## Results

* `Justified.later`: what is justified stays so.
* `Justified.isWellFormed`: a justified grant is well-formed.
-/

namespace Marketplace

/-- Every account that was ever registered, the list of grants, and what grants are about. -/
structure Deeds where
  accounts : List Account
  book : GrantBook
  inventory : InventoryStore
  orders : OrderStore
  payments : PaymentStore

namespace Deeds

variable {d d' : Deeds} {g : Grant} {p : Payload}

/-- Something was done that a grant rests on. -/
inductive Justified (d : Deeds) : Grant → Prop
  /-- An account controls itself. -/
  | self (a : Account) (h : a ∈ d.accounts) :
    Justified d ⟨a.id.subject, Resource.accounts, Action.any, a.id.subject⟩
  /-- Customers look at products, place orders and recharge their wallets. -/
  | browse (a : Account) (h : a ∈ d.accounts) (customer : a.role = .customer) :
    Justified d ⟨a.id.subject, Resource.products, Action.get, wildcard⟩
  | order (a : Account) (h : a ∈ d.accounts) (customer : a.role = .customer) :
    Justified d ⟨a.id.subject, Resource.orders, Action.post, wildcard⟩
  | recharge (a : Account) (h : a ∈ d.accounts) (customer : a.role = .customer) :
    Justified d ⟨a.id.subject, Resource.transactions, Action.post, wildcard⟩
  /-- Sellers open merchants. -/
  | trade (a : Account) (h : a ∈ d.accounts) (seller : a.role = .seller) :
    Justified d ⟨a.id.subject, Resource.merchants, Action.post, wildcard⟩
  /-- Owners control their merchants, add products and control those. -/
  | merchant (id : MerchantId) (m : Merchant) (h : d.inventory.merchants.get? id = some m) :
    Justified d ⟨m.owner.subject, Resource.merchants, Action.any, toString id⟩
  | stock (id : MerchantId) (m : Merchant) (h : d.inventory.merchants.get? id = some m) :
    Justified d ⟨m.owner.subject, Resource.products, Action.post, wildcard⟩
  | product (id : ProductId) (p : Product) (h : d.inventory.products.get? id = some p)
    (m : Merchant) (hm : d.inventory.merchants.get? p.merchant = some m) :
    Justified d ⟨m.owner.subject, Resource.products, Action.any, toString id⟩
  /-- Buyers look at their orders and change them. -/
  | see (id : OrderId) (o : Order) (h : d.orders.orders.get? id = some o) :
    Justified d ⟨o.account.subject, Resource.orders, Action.get, toString id⟩
  | change (id : OrderId) (o : Order) (h : d.orders.orders.get? id = some o) :
    Justified d ⟨o.account.subject, Resource.orders, Action.put, toString id⟩
  /-- Whoever moved money looks at the entry. -/
  | entry (t : Transaction) (h : t ∈ d.payments.ledger) :
    Justified d ⟨t.madeBy.subject, Resource.transactions, Action.get, toString t.id⟩

/-- The names of resources and actions in grants. -/
def names : List String :=
  [Resource.accounts, Resource.merchants, Resource.products, Resource.orders,
    Resource.transactions, Action.get, Action.post, Action.put, Action.any]

theorem isField_of_mem_names : ∀ s ∈ names, Grant.isField s = true := by decide +kernel

theorem isWellFormed_of_names (a : AccountId) {t act i : String} (ht : t ∈ names)
    (hact : act ∈ names) (hi : Grant.isField i = true) :
    (Grant.mk a.subject t act i).isWellFormed = true :=
  Grant.isWellFormed_iff.2
    ⟨a.isField_subject, isField_of_mem_names t ht, isField_of_mem_names act hact, hi⟩

/-- **A justified grant is well-formed.** -/
theorem Justified.isWellFormed (h : Justified d g) : g.isWellFormed = true := by
  have wild : Grant.isField wildcard = true := isField_of_mem_names Action.any (by simp [names])
  cases h with
  | self a h =>
    exact isWellFormed_of_names _ (by simp [names]) (by simp [names]) a.id.isField_subject
  | merchant id m h =>
    exact isWellFormed_of_names _ (by simp [names]) (by simp [names]) id.isField_toString
  | product id p h m hm =>
    exact isWellFormed_of_names _ (by simp [names]) (by simp [names]) id.isField_toString
  | see id o h =>
    exact isWellFormed_of_names _ (by simp [names]) (by simp [names]) id.isField_toString
  | change id o h =>
    exact isWellFormed_of_names _ (by simp [names]) (by simp [names]) id.isField_toString
  | entry t h =>
    exact isWellFormed_of_names _ (by simp [names]) (by simp [names]) t.id.isField_toString
  | _ => exact isWellFormed_of_names _ (by simp [names]) (by simp [names]) wild

/-! ## Who holds a grant -/

variable {a : AccountId}

/-- Only accounts of sellers may open merchants. -/
theorem Justified.opens (h : Justified d g)
    (covers : g.covers ⟨a.subject, Resource.merchants, Action.post, wildcard⟩ = true) :
    ∃ b ∈ d.accounts, b.id = a ∧ b.role = .seller := by
  obtain ⟨own, type, action, resource⟩ := Grant.covers_iff.1 covers
  cases h with
  | trade b there seller => exact ⟨b, there, (AccountId.subject_injective own).symm, seller⟩
  | merchant id m there =>
    rw [or_self] at resource
    exact (id.toString_ne_wildcard resource).elim
  | _ => exact absurd type (by dsimp only; decide)

/-- Only its owner may change a merchant. -/
theorem Justified.owns {id : MerchantId} (h : Justified d g)
    (covers : g.covers ⟨a.subject, Resource.merchants, Action.put, toString id⟩ = true) :
    ∃ m, d.inventory.merchants.get? id = some m ∧ m.owner = a := by
  obtain ⟨own, type, action, resource⟩ := Grant.covers_iff.1 covers
  cases h with
  | trade b there seller => exact absurd action (by dsimp only; decide)
  | merchant id' m there =>
    rcases resource with same | wild
    · cases Id.toString_injective same
      exact ⟨m, there, (AccountId.subject_injective own).symm⟩
    · exact (id'.toString_ne_wildcard wild).elim
  | _ => exact absurd type (by dsimp only; decide)

/-- Only accounts of customers may place orders. -/
theorem Justified.buys (h : Justified d g)
    (covers : g.covers ⟨a.subject, Resource.orders, Action.post, wildcard⟩ = true) :
    ∃ b ∈ d.accounts, b.id = a ∧ b.role = .customer := by
  obtain ⟨own, type, action, resource⟩ := Grant.covers_iff.1 covers
  cases h with
  | order b there customer => exact ⟨b, there, (AccountId.subject_injective own).symm, customer⟩
  | see id o there => exact absurd action (by dsimp only; decide)
  | change id o there => exact absurd action (by dsimp only; decide)
  | _ => exact absurd type (by dsimp only; decide)

/-- Only accounts of customers may recharge wallets. -/
theorem Justified.recharges (h : Justified d g)
    (covers : g.covers ⟨a.subject, Resource.transactions, Action.post, wildcard⟩ = true) :
    ∃ b ∈ d.accounts, b.id = a ∧ b.role = .customer := by
  obtain ⟨own, type, action, resource⟩ := Grant.covers_iff.1 covers
  cases h with
  | recharge b there customer => exact ⟨b, there, (AccountId.subject_injective own).symm, customer⟩
  | entry t there => exact absurd action (by dsimp only; decide)
  | _ => exact absurd type (by dsimp only; decide)

/-- Only an account itself may delete it. -/
theorem Justified.deletes {b : AccountId} (h : Justified d g)
    (covers : g.covers ⟨a.subject, Resource.accounts, Action.delete, toString b⟩ = true) :
    a = b ∧ ∃ c ∈ d.accounts, c.id = a := by
  obtain ⟨own, type, action, resource⟩ := Grant.covers_iff.1 covers
  cases h with
  | self c there =>
    have is := AccountId.subject_injective own
    rcases resource with same | wild
    · exact ⟨is.trans (AccountId.subject_injective same), c, there, is.symm⟩
    · exact (c.id.subject_ne_wildcard wild).elim
  | _ => exact absurd type (by dsimp only; decide)

/-- Only its buyer may look at an order. -/
theorem Justified.sees {id : OrderId} (h : Justified d g) (own : g.subject = a.subject)
    (type : g.resourceType = Resource.orders)
    (looks : g.action = Action.any ∨ g.action = Action.get)
    (named : g.resourceId = toString id ∨ g.resourceId = wildcard) :
    ∃ o, d.orders.orders.get? id = some o ∧ o.account = a := by
  cases h with
  | see id' o there =>
    rcases named with same | wild
    · cases Id.toString_injective same
      exact ⟨o, there, AccountId.subject_injective own⟩
    · exact (id'.toString_ne_wildcard wild).elim
  | order b there customer => exact absurd looks (by dsimp only; decide)
  | change id' o there => exact absurd looks (by dsimp only; decide)
  | _ => exact absurd type (by dsimp only; decide)

/-- Only whoever made it may look at an entry. -/
theorem Justified.audits {id : TransactionId} (h : Justified d g) (own : g.subject = a.subject)
    (type : g.resourceType = Resource.transactions)
    (looks : g.action = Action.any ∨ g.action = Action.get)
    (named : g.resourceId = toString id ∨ g.resourceId = wildcard) :
    ∃ t ∈ d.payments.ledger, t.id = id ∧ t.madeBy = a := by
  cases h with
  | entry t there =>
    rcases named with same | wild
    · exact ⟨t, there, Id.toString_injective same, AccountId.subject_injective own⟩
    · exact (t.id.toString_ne_wildcard wild).elim
  | recharge b there customer => exact absurd looks (by dsimp only; decide)
  | _ => exact absurd type (by dsimp only; decide)

/-! ## Records stay -/

/-- Accounts, merchants and entries stay; products keep their merchant and orders their buyer. -/
structure Later (d d' : Deeds) : Prop where
  account : ∀ a ∈ d.accounts, a ∈ d'.accounts
  merchant : ∀ id m, d.inventory.merchants.get? id = some m →
    d'.inventory.merchants.get? id = some m
  product : ∀ id p, d.inventory.products.get? id = some p →
    ∃ p', d'.inventory.products.get? id = some p' ∧ p'.merchant = p.merchant
  order : ∀ id o, d.orders.orders.get? id = some o →
    ∃ o', d'.orders.orders.get? id = some o' ∧ o'.account = o.account
  entry : ∀ t ∈ d.payments.ledger, t ∈ d'.payments.ledger

theorem Later.refl (d : Deeds) : Later d d :=
  ⟨fun _ h => h, fun _ _ h => h, fun _ p h => ⟨p, h, rfl⟩, fun _ o h => ⟨o, h, rfl⟩, fun _ h => h⟩

theorem Later.trans {d'' : Deeds} (h : Later d d') (h' : Later d' d'') : Later d d'' := by
  refine ⟨fun a ha => h'.account a (h.account a ha),
    fun id m hm => h'.merchant id m (h.merchant id m hm), ?_, ?_,
    fun t ht => h'.entry t (h.entry t ht)⟩
  · intro id p hp
    obtain ⟨p₁, hp₁, same₁⟩ := h.product id p hp
    obtain ⟨p₂, hp₂, same₂⟩ := h'.product id p₁ hp₁
    exact ⟨p₂, hp₂, same₂.trans same₁⟩
  · intro id o ho
    obtain ⟨o₁, ho₁, same₁⟩ := h.order id o ho
    obtain ⟨o₂, ho₂, same₂⟩ := h'.order id o₁ ho₁
    exact ⟨o₂, ho₂, same₂.trans same₁⟩

/-- **What is justified stays so.** -/
theorem Justified.later (h : Justified d g) (l : Later d d') : Justified d' g := by
  cases h with
  | self a h => exact .self a (l.account a h)
  | browse a h customer => exact .browse a (l.account a h) customer
  | order a h customer => exact .order a (l.account a h) customer
  | recharge a h customer => exact .recharge a (l.account a h) customer
  | trade a h seller => exact .trade a (l.account a h) seller
  | merchant id m h => exact .merchant id m (l.merchant id m h)
  | stock id m h => exact .stock id m (l.merchant id m h)
  | product id p h m hm =>
    obtain ⟨p', hp', same⟩ := l.product id p h
    exact .product id p' hp' m (by rw [same]; exact l.merchant _ m hm)
  | see id o h =>
    obtain ⟨o', ho', same⟩ := l.order id o h
    rw [← same]
    exact .see id o' ho'
  | change id o h =>
    obtain ⟨o', ho', same⟩ := l.order id o h
    rw [← same]
    exact .change id o' ho'
  | entry t h => exact .entry t (l.entry t h)

/-! ## Events -/

/-- What an event says stands in the records, and what it asks for is justified. -/
def Backed (d : Deeds) : Payload → Prop
  | .accountCreated id role => ∃ a ∈ d.accounts, a.id = id ∧ a.role = role
  | .upsertPolicy g => Justified d g
  | .removePolicy _ => False
  | .policyUpdated .put g => Justified d g
  | .orderCreated c => ∃ o, d.orders.orders.get? c.order = some o ∧ o.account = c.account
  | .productReserved r => ∃ o, d.orders.orders.get? r.order = some o ∧ o.account = r.account
  | _ => True

theorem Backed.later (h : Backed d p) (l : Later d d') : Backed d' p := by
  cases p with
  | accountCreated id role =>
    obtain ⟨a, ha, is⟩ := h
    exact ⟨a, l.account a ha, is⟩
  | upsertPolicy g => exact Justified.later h l
  | policyUpdated m g =>
    cases m with
    | put => exact Justified.later h l
    | delete => exact h
  | orderCreated c =>
    obtain ⟨o, ho, own⟩ := h
    obtain ⟨o', ho', same⟩ := l.order _ o ho
    exact ⟨o', ho', same.trans own⟩
  | productReserved r =>
    obtain ⟨o, ho, own⟩ := h
    obtain ⟨o', ho', same⟩ := l.order _ o ho
    exact ⟨o', ho', same.trans own⟩
  | _ => exact h

/-- The records agree with each other, and every grant on the list is justified. -/
structure Sound (d : Deeds) : Prop where
  book : ∀ g, d.book.Holds g → Justified d g
  order : ∀ id o, d.orders.orders.get? id = some o → o.id = id
  /-- An approved charge is in the ledger, made by the buyer. -/
  debit : ∀ id t, d.payments.debits.get? id = some (.approved t) →
    t ∈ d.payments.ledger ∧ ∃ o, d.orders.orders.get? id = some o ∧ o.account = t.madeBy
  ledger : (d.payments.ledger.map Transaction.id).Nodup

theorem sound_empty : Sound ⟨[], .empty, .empty, .empty, .empty⟩ :=
  ⟨fun g h => (GrantBook.not_holds_empty g h).elim, (fun _ _ h => nomatch h),
    (fun _ _ h => nomatch h), List.nodup_nil⟩

/-- No merchant, product or entry has an identifier yet. -/
structure Fresh (d : Deeds) (id : Uuid) : Prop where
  merchant : d.inventory.merchants.get? ⟨id⟩ = none
  product : d.inventory.products.get? ⟨id⟩ = none
  entry : ∀ t ∈ d.payments.ledger, t.id ≠ ⟨id⟩

/-- What is left of a step: the records stay and stay sound, and the news is backed. -/
structure Kept (d d' : Deeds) (news : List Payload) : Prop where
  later : Later d d'
  sound : Sound d'
  backed : ∀ p ∈ news, Backed d' p

theorem Kept.refl (h : Sound d) : Kept d d [] := ⟨.refl d, h, fun _ hp => nomatch hp⟩

/-- A step without news may follow. -/
theorem Kept.trans {d'' : Deeds} {news : List Payload} (h : Kept d d' news) (h' : Kept d' d'' []) :
    Kept d d'' news :=
  ⟨h.later.trans h'.later, h'.sound, fun p hp => (h.backed p hp).later h'.later⟩

theorem Kept.part {news said : List Payload} (h : Kept d d' news) (part : said <+: news) :
    Kept d d' said :=
  ⟨h.later, h.sound, fun p hp => h.backed p (part.subset hp)⟩

end Deeds

end Marketplace
