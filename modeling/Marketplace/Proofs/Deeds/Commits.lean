import Marketplace.Proofs.Accounts.Store
import Marketplace.Proofs.Announcement
import Marketplace.Proofs.Deeds.Justified
import Marketplace.Proofs.Inventory.Store
import Marketplace.Proofs.Orders.Store
import Marketplace.Proofs.Payments.Store

/-!
# What the participants do leaves grants justified

Every operation adds to the records, and asks only for grants that rest on what it added, on what
was there, or on the event that it reacts to.

## Results

* `inventory_commit`, `orders_commit`, `payments_commit`, `authorization_commit`: the reactions to
  events.
* `createAccount_commit` and the others: the calls of clients.
* `Kept.of_outcome`: the same of an operation that is refused, or announced in part.
-/

namespace Marketplace

namespace Deeds

variable {d d' : Deeds} {p : Payload} {stamp : Stamp}

/-- However an operation comes out, it leaves what its commit would. -/
theorem Kept.of_outcome {σ α : Type} {result : Except ServiceError (Commit σ α)} {store s : σ}
    {x : Except ServiceError α} {said : List Payload} (outcome : Outcome result store x s said)
    (put : σ → Deeds) (start : Kept d (put store) [])
    (commit : ∀ c, result = .ok c → Kept d (put c.store) c.news) : Kept d (put s) said := by
  cases outcome with
  | refused e h => exact start
  | done c h => exact commit c h
  | cut c h b said part => exact (commit c h).part part

/-- More accounts are as good. -/
theorem Sound.more_accounts (h : Sound d) (more : List Account) :
    Kept d { d with accounts := d.accounts ++ more } [] := by
  have later : Later d { d with accounts := d.accounts ++ more } :=
    ⟨fun _ ha => List.mem_append_left _ ha, (Later.refl d).merchant, (Later.refl d).product,
      (Later.refl d).order, (Later.refl d).entry⟩
  exact ⟨later, ⟨fun g hg => (h.book g hg).later later, h.order, h.debit, h.ledger⟩,
    fun _ hp => nomatch hp⟩

/-! ## Accounts -/

/-- A new account may control itself. -/
theorem createAccount_commit {s : AccountStore} {name email : String} {role : Role}
    {c : Commit AccountStore Account} (h : Sound d)
    (hc : Accounts.create name email role stamp s = .ok c) :
    Kept d { d with accounts := d.accounts ++ c.store.accounts.values } c.news := by
  unfold Accounts.create at hc
  dsimp only at hc
  split at hc
  · cases hc
  · split at hc
    · cases hc
    · obtain ⟨⟨a, s'⟩, hs, hc⟩ := bind_eq_ok.1 hc
      cases pure_eq_ok.1 hc
      obtain ⟨rfl, rfl⟩ := AccountStore.create_eq_ok hs
      have kept := h.more_accounts (s.accounts.put s.nextId
        ⟨s.nextId, Text.trim name, email, role, stamp.time⟩).values
      refine ⟨kept.later, kept.sound, ?_⟩
      have there : (⟨s.nextId, Text.trim name, email, role, stamp.time⟩ : Account) ∈
          d.accounts ++ (s.accounts.put s.nextId
            ⟨s.nextId, Text.trim name, email, role, stamp.time⟩).values :=
        List.mem_append_right _
          (Table.mem_values_iff.2 ⟨s.nextId, Table.get?_put_self _ _ _⟩)
      intro q hq
      rcases List.mem_cons.1 hq with rfl | hq
      · exact ⟨_, there, rfl, rfl⟩
      · cases List.mem_singleton.1 hq
        exact .self _ there

theorem deleteAccount_commit {s : AccountStore} {id : AccountId} {c : Commit AccountStore Unit}
    (h : Sound d) (hc : Accounts.delete id stamp s = .ok c) :
    Kept d { d with accounts := d.accounts ++ c.store.accounts.values } c.news := by
  unfold Accounts.delete at hc
  obtain ⟨⟨x, s'⟩, _, hc⟩ := bind_eq_ok.1 hc
  have kept := h.more_accounts c.store.accounts.values
  refine ⟨kept.later, kept.sound, ?_⟩
  split at hc
  · cases hc
  · cases hc
    intro q hq
    cases List.mem_singleton.1 hq
    trivial

/-! ## Grants -/

/-- A list of justified grants may take the place of the list. -/
theorem Kept.of_book {s : GrantBook} {news : List Payload} (h : Sound d)
    (book : ∀ g, s.Holds g → Justified d g) (backed : ∀ q ∈ news, Backed d q) :
    Kept d { d with book := s } news := by
  have later : Later d { d with book := s } :=
    ⟨(Later.refl d).account, (Later.refl d).merchant, (Later.refl d).product, (Later.refl d).order,
      (Later.refl d).entry⟩
  exact ⟨later, ⟨fun g hg => (book g hg).later later, h.order, h.debit, h.ledger⟩,
    fun q hq => (backed q hq).later later⟩

/-- Revoking takes justified grants away. -/
theorem alter_commit {m : PolicyMethod} {g : Grant} {c : Commit GrantBook Unit} (h : Sound d)
    (put : m = .put → Justified d g)
    (hc : Authorization.alter m g stamp d.book = .ok c) :
    Kept d { d with book := c.store } c.news := by
  obtain ⟨_, _, store, news⟩ := Authorization.alter_eq_ok hc
  rw [store, news]
  apply Kept.of_book h
  · intro k hk
    rw [GrantBook.holds_changed] at hk
    split at hk
    · rename_i hkg
      rw [hkg]
      exact put hk
    · exact h.book k hk
  · intro q hq
    cases List.mem_singleton.1 hq
    cases m with
    | put => exact put rfl
    | delete => trivial

theorem revokeAll_commit {a : AccountId} {c : Commit GrantBook Unit} (h : Sound d)
    (hc : Authorization.revokeAll a stamp d.book = .ok c) :
    Kept d { d with book := c.store } c.news := by
  rcases Authorization.revokeAll_cases a stamp d.book with ⟨_, he⟩ | ⟨_, c', hc', store, news⟩
  · rw [he] at hc
    cases hc
  · rw [hc'] at hc
    cases hc
    rw [store, news]
    apply Kept.of_book h
    · exact fun g hg => h.book g (GrantBook.holds_without.1 hg).1
    · intro q hq
      obtain ⟨g, _, rfl⟩ := List.mem_map.1 hq
      trivial

/-- **Authorization** gives what it is asked for, and what it is asked for is justified. -/
theorem authorization_commit {operation : Operation GrantBook Unit} {c : Commit GrantBook Unit}
    (h : Sound d) (backed : Backed d p)
    (hr : Authorization.participant.react p = some (.perform operation))
    (hc : operation stamp d.book = .ok c) : Kept d { d with book := c.store } c.news := by
  cases p with
  | upsertPolicy g =>
    cases hr
    have given : Authorization.alter .put g stamp d.book = .ok c := hc
    exact alter_commit h (fun _ => backed) given
  | removePolicy g => exact backed.elim
  | accountDeleted a =>
    cases hr
    exact revokeAll_commit h hc
  | _ => cases hr

/-! ## Inventory -/

/-- Merchants stay, and products stay with their merchants. -/
theorem Kept.of_inventory {s : InventoryStore} {news : List Payload} (h : Sound d)
    (merchants : ∀ id m, d.inventory.merchants.get? id = some m → s.merchants.get? id = some m)
    (products : ∀ id p, d.inventory.products.get? id = some p →
      ∃ p', s.products.get? id = some p' ∧ p'.merchant = p.merchant)
    (backed : ∀ q ∈ news, Backed { d with inventory := s } q) :
    Kept d { d with inventory := s } news := by
  have later : Later d { d with inventory := s } :=
    ⟨(Later.refl d).account, merchants, products, (Later.refl d).order, (Later.refl d).entry⟩
  exact ⟨later, ⟨fun g hg => (h.book g hg).later later, h.order, h.debit, h.ledger⟩, backed⟩

/-- Nothing changes about merchants and products. -/
theorem Kept.of_same_goods {s : InventoryStore} {news : List Payload} (h : Sound d)
    (merchants : s.merchants = d.inventory.merchants)
    (products : s.products = d.inventory.products) (backed : ∀ q ∈ news, Backed d q) :
    Kept d { d with inventory := s } news := by
  have kept : Kept d { d with inventory := s } [] := by
    refine .of_inventory h ?_ ?_ fun _ hq => nomatch hq
    · rw [merchants]
      exact fun _ _ hm => hm
    · rw [products]
      exact fun _ p hp => ⟨p, hp, rfl⟩
  exact ⟨kept.later, kept.sound, fun q hq => (backed q hq).later kept.later⟩

/-- A product may be written with the merchant that it has. -/
theorem Kept.of_product {s : InventoryStore} {news : List Payload} {id : ProductId}
    {p p' : Product} (h : Sound d) (merchants : s.merchants = d.inventory.merchants)
    (known : d.inventory.products.get? id = some p)
    (products : s.products = d.inventory.products.put id p') (same : p'.merchant = p.merchant)
    (backed : ∀ q ∈ news, Backed d q) : Kept d { d with inventory := s } news := by
  have kept : Kept d { d with inventory := s } [] := by
    refine .of_inventory h ?_ ?_ fun _ hq => nomatch hq
    · rw [merchants]
      exact fun _ _ hm => hm
    · intro j k hk
      rw [products, Table.get?_put]
      split
      · rename_i hj
        subst hj
        rw [known] at hk
        cases hk
        exact ⟨p', rfl, same⟩
      · exact ⟨k, hk, rfl⟩
  exact ⟨kept.later, kept.sound, fun q hq => (backed q hq).later kept.later⟩

/-- Whoever opens a merchant owns it. -/
theorem createMerchant_commit {owner : AccountId} {name : String}
    {c : Commit InventoryStore Merchant} (h : Sound d) (fresh : Fresh d stamp.id)
    (hc : Inventory.createMerchant owner name stamp d.inventory = .ok c) :
    Kept d { d with inventory := c.store } c.news := by
  unfold Inventory.createMerchant at hc
  split at hc
  · cases hc
  · obtain ⟨⟨m, s⟩, hs, hc⟩ := bind_eq_ok.1 hc
    cases pure_eq_ok.1 hc
    obtain ⟨rfl, rfl⟩ := InventoryStore.createMerchant_eq_ok hs
    refine .of_inventory h ?_ (fun _ p hp => ⟨p, hp, rfl⟩) ?_
    · exact fun id m hm => Table.get?_put_of_none fresh.merchant hm
    · have there := (Table.get?_put d.inventory.merchants ⟨stamp.id⟩ ⟨stamp.id⟩
        ⟨⟨stamp.id⟩, Text.trim name, owner, stamp.time⟩).trans (if_pos rfl)
      intro q hq
      rcases List.mem_cons.1 hq with rfl | hq
      · exact Justified.merchant _ ⟨⟨stamp.id⟩, Text.trim name, owner, stamp.time⟩ there
      · cases List.mem_singleton.1 hq
        exact Justified.stock _ ⟨⟨stamp.id⟩, Text.trim name, owner, stamp.time⟩ there

/-- Whoever adds a product to an own merchant owns the product. -/
theorem createProduct_commit {owner : AccountId} {merchant : MerchantId} {name : String}
    {price : Money} {quantity : UInt32} {c : Commit InventoryStore Product} (h : Sound d)
    (fresh : Fresh d stamp.id) {m : Merchant}
    (known : d.inventory.merchants.get? merchant = some m) (own : m.owner = owner)
    (hc : Inventory.createProduct owner merchant name price quantity stamp d.inventory = .ok c) :
    Kept d { d with inventory := c.store } c.news := by
  unfold Inventory.createProduct at hc
  dsimp only at hc
  split at hc
  · cases hc
  · split at hc
    · cases hc
    · obtain ⟨⟨p, s⟩, hs, hc⟩ := bind_eq_ok.1 hc
      cases pure_eq_ok.1 hc
      obtain ⟨rfl, rfl⟩ := InventoryStore.createProduct_eq_ok hs
      refine .of_inventory h (fun _ _ hm => hm) ?_ ?_
      · exact fun id p hp => ⟨p, Table.get?_put_of_none fresh.product hp, rfl⟩
      · have there := (Table.get?_put d.inventory.products ⟨stamp.id⟩ ⟨stamp.id⟩
          ⟨⟨stamp.id⟩, merchant, Text.trim name, price, quantity, stamp.time⟩).trans (if_pos rfl)
        intro q hq
        cases List.mem_singleton.1 hq
        rw [← own]
        exact Justified.product _ _ there _ known

/-- What a new account starts with is justified by its role. -/
theorem backed_welcome {a : AccountId} {role : Role} (backed : Backed d (.accountCreated a role)) :
    ∀ q ∈ Inventory.welcome a role, Backed d q := by
  obtain ⟨account, there, rfl, rfl⟩ := backed
  intro q hq
  cases hr : account.role with
  | customer =>
    rw [hr] at hq
    cases List.mem_singleton.1 hq
    exact .browse account there hr
  | seller =>
    rw [hr] at hq
    cases List.mem_singleton.1 hq
    exact .trade account there hr
  | admin =>
    rw [hr] at hq
    cases hq

/-- **Inventory** welcomes accounts, and holds and settles stock. -/
theorem inventory_commit {operation : Operation InventoryStore Unit}
    {c : Commit InventoryStore Unit} (h : Sound d) (backed : Backed d p)
    (hr : Inventory.participant.react p = some (.perform operation))
    (hc : operation stamp d.inventory = .ok c) : Kept d { d with inventory := c.store } c.news := by
  cases p with
  | accountCreated a role =>
    cases hr
    cases hc
    exact .of_same_goods h rfl rfl (backed_welcome backed)
  | orderCreated order =>
    cases hr
    obtain ⟨⟨reservation, s⟩, hs, hc⟩ := bind_eq_ok.1 hc
    cases pure_eq_ok.1 hc
    have news : ∀ q ∈ (Inventory.report order reservation).1, Backed d q := by
      intro q hq
      unfold Inventory.report at hq
      split at hq
      · cases List.mem_singleton.1 hq
        exact backed
      · cases List.mem_singleton.1 hq
        trivial
      · cases hq
    rcases InventoryStore.reserve_eq_ok hs with ⟨_, _, _, rfl⟩ | ⟨_, new⟩
    · exact .of_same_goods h rfl rfl news
    · rcases InventoryStore.reserveNew_cases new with
        ⟨_, _, rfl⟩ | ⟨product, _, known, _, _, _, rfl⟩
      · exact .of_same_goods h rfl rfl news
      · exact .of_product h rfl known rfl rfl news
  | payment payment =>
    cases hr
    unfold Inventory.close at hc
    split at hc
    · obtain ⟨⟨x, s⟩, hs, hc⟩ := bind_eq_ok.1 hc
      cases pure_eq_ok.1 hc
      rcases InventoryStore.settle_cases (InventoryStore.consume_eq_ok hs) with
        ⟨_, _, rfl⟩ | ⟨_, _, _, rfl⟩
      · exact .of_same_goods h rfl rfl fun _ hq => nomatch hq
      · exact .of_same_goods h rfl rfl fun _ hq => nomatch hq
    · obtain ⟨⟨x, s⟩, hs, hc⟩ := bind_eq_ok.1 hc
      cases pure_eq_ok.1 hc
      rcases InventoryStore.giveBack_eq_ok hs with ⟨_, _, rfl⟩ | ⟨r, _, _, rfl⟩
      · exact .of_same_goods h rfl rfl fun _ hq => nomatch hq
      · unfold InventoryStore.restock
        split
        · exact .of_same_goods h rfl rfl fun _ hq => nomatch hq
        · rename_i known
          exact .of_product h rfl known rfl rfl fun _ hq => nomatch hq
  | _ => cases hr

/-! ## Orders -/

/-- Orders keep their number and their buyer. -/
theorem Kept.of_orders {s : OrderStore} {news : List Payload} (h : Sound d)
    (orders : ∀ id o, d.orders.orders.get? id = some o →
      ∃ o', s.orders.get? id = some o' ∧ o'.account = o.account)
    (numbers : ∀ id o, s.orders.get? id = some o → o.id = id)
    (backed : ∀ q ∈ news, Backed { d with orders := s } q) :
    Kept d { d with orders := s } news := by
  have later : Later d { d with orders := s } :=
    ⟨(Later.refl d).account, (Later.refl d).merchant, (Later.refl d).product, orders,
      (Later.refl d).entry⟩
  refine ⟨later, ⟨fun g hg => (h.book g hg).later later, numbers, ?_, h.ledger⟩, backed⟩
  intro id t ht
  obtain ⟨booked, o, ho, own⟩ := h.debit id t ht
  obtain ⟨o', ho', same⟩ := orders id o ho
  exact ⟨booked, o', ho', same.trans own⟩

/-- Whoever places an order may look at it and change it. -/
theorem place_commit {buyer : AccountId} {product : ProductId} {quantity : UInt32}
    {c : Commit OrderStore Order} (h : Sound d)
    (hc : Orders.place buyer product quantity stamp d.orders = .ok c) :
    Kept d { d with orders := c.store } c.news := by
  unfold Orders.place at hc
  split at hc
  · cases hc
  · obtain ⟨⟨o, s⟩, hs, hc⟩ := bind_eq_ok.1 hc
    cases pure_eq_ok.1 hc
    obtain ⟨new, rfl, rfl⟩ := OrderStore.create_eq_ok hs
    have there := (Table.get?_put d.orders.orders ⟨stamp.id⟩ ⟨stamp.id⟩
      (Order.new stamp buyer product quantity)).trans (if_pos rfl)
    apply Kept.of_orders h
    · exact fun id o ho => ⟨o, Table.get?_put_of_none new ho, rfl⟩
    · intro id o ho
      rw [Table.get?_put] at ho
      split at ho
      · rename_i hid
        cases ho
        exact hid.symm
      · exact h.order id o ho
    · intro q hq
      rcases List.mem_cons.1 hq with rfl | hq
      · exact ⟨_, there, rfl⟩
      · rcases List.mem_cons.1 hq with rfl | hq
        · exact Justified.see _ (Order.new stamp buyer product quantity) there
        · cases List.mem_singleton.1 hq
          exact Justified.change _ (Order.new stamp buyer product quantity) there

/-- Moving an order forward leaves its buyer. -/
theorem move_commit {id : OrderId} {status : OrderStatus} {c : Commit OrderStore Unit}
    (h : Sound d) (hc : Orders.move id status stamp d.orders = .ok c) :
    Kept d { d with orders := c.store } c.news := by
  obtain ⟨news, o, found, ⟨_, store⟩ | ⟨_, store⟩⟩ := Orders.move_eq_ok hc
  · rw [news, store]
    apply Kept.of_orders h
    · intro j b hb
      rw [Table.get?_put]
      split
      · rename_i hj
        subst hj
        rw [found] at hb
        cases hb
        exact ⟨_, rfl, rfl⟩
      · exact ⟨b, hb, rfl⟩
    · intro j b hb
      rw [Table.get?_put] at hb
      split at hb
      · rename_i hj
        cases hb
        rw [hj]
        exact h.order id o found
      · exact h.order j b hb
    · exact fun _ hq => absurd hq List.not_mem_nil
  · rw [news, store]
    exact .refl h

/-- **The order service** welcomes customers and moves orders. -/
theorem orders_commit {operation : Operation OrderStore Unit} {c : Commit OrderStore Unit}
    (h : Sound d) (backed : Backed d p)
    (hr : Orders.participant.react p = some (.perform operation))
    (hc : operation stamp d.orders = .ok c) : Kept d { d with orders := c.store } c.news := by
  cases p with
  | accountCreated a role =>
    cases hr
    cases hc
    obtain ⟨account, there, rfl, rfl⟩ := backed
    refine ⟨.refl d, h, ?_⟩
    intro q hq
    dsimp only at hq
    split at hq
    · rename_i hr
      cases List.mem_singleton.1 hq
      exact Justified.order account there hr
    · cases hq
  | productReserved r =>
    cases hr
    exact move_commit h hc
  | reservationFailed f =>
    cases hr
    exact move_commit h hc
  | payment q =>
    cases hr
    exact move_commit h hc
  | _ => cases hr

/-! ## Payments -/

/-- Entries stay, no two have one number, and approved charges are among them. -/
theorem Kept.of_payments {s : PaymentStore} {news : List Payload} (h : Sound d)
    (entries : ∀ t ∈ d.payments.ledger, t ∈ s.ledger)
    (debit : ∀ id t, s.debits.get? id = some (.approved t) →
      t ∈ s.ledger ∧ ∃ o, d.orders.orders.get? id = some o ∧ o.account = t.madeBy)
    (ledger : (s.ledger.map Transaction.id).Nodup)
    (backed : ∀ q ∈ news, Backed { d with payments := s } q) :
    Kept d { d with payments := s } news := by
  have later : Later d { d with payments := s } :=
    ⟨(Later.refl d).account, (Later.refl d).merchant, (Later.refl d).product, (Later.refl d).order,
      entries⟩
  exact ⟨later, ⟨fun g hg => (h.book g hg).later later, h.order, debit, ledger⟩, backed⟩

/-- Nothing is written to the ledger, and no charge is approved. -/
theorem Kept.of_same_ledger {s : PaymentStore} {news : List Payload} (h : Sound d)
    (ledger : s.ledger = d.payments.ledger)
    (debits : ∀ id t, s.debits.get? id = some (.approved t) →
      d.payments.debits.get? id = some (.approved t))
    (backed : ∀ q ∈ news, Backed d q) : Kept d { d with payments := s } news := by
  have kept : Kept d { d with payments := s } [] := by
    refine .of_payments h ?_ ?_ ?_ fun _ hq => nomatch hq
    · rw [ledger]
      exact fun _ ht => ht
    · rw [ledger]
      exact fun id t ht => h.debit id t (debits id t ht)
    · rw [ledger]
      exact h.ledger
  exact ⟨kept.later, kept.sound, fun q hq => (backed q hq).later kept.later⟩

/-- An entry with a new number keeps the numbers apart. -/
theorem nodup_ledger {t : Transaction} (h : Sound d) (new : ∀ u ∈ d.payments.ledger, u.id ≠ t.id) :
    ((d.payments.ledger ++ [t]).map Transaction.id).Nodup := by
  rw [List.map_append, List.nodup_append]
  refine ⟨h.ledger, List.pairwise_singleton _ _, ?_⟩
  intro i hi j hj
  obtain ⟨u, hu, rfl⟩ := List.mem_map.1 hi
  rw [List.mem_singleton.1 hj]
  exact new u hu

/-- Whoever recharges a wallet may look at the entry. -/
theorem recharge_commit {account : AccountId} {amount : Money} {c : Commit PaymentStore Transaction}
    (h : Sound d) (fresh : Fresh d stamp.id)
    (hc : Payments.recharge account amount stamp d.payments = .ok c) :
    Kept d { d with payments := c.store } c.news := by
  unfold Payments.recharge at hc
  split at hc
  · cases hc
  · obtain ⟨⟨t, s⟩, hs, hc⟩ := bind_eq_ok.1 hc
    cases pure_eq_ok.1 hc
    obtain ⟨w, balance, _, _, rfl, rfl⟩ := PaymentStore.credit_eq_ok hs
    apply Kept.of_payments h
    · exact fun _ ht => List.mem_append_left _ ht
    · intro id t ht
      obtain ⟨booked, own⟩ := h.debit id t ht
      exact ⟨List.mem_append_left _ booked, own⟩
    · exact nodup_ledger h fresh.entry
    · intro q hq
      cases List.mem_singleton.1 hq
      exact Justified.entry (Transaction.credit stamp account amount)
        (List.mem_append_right _ List.mem_cons_self)

/-- What is announced about an outcome that stands in the records. -/
theorem backed_report {r : ProductReserved} {x : Debit}
    (approved : ∀ t, x = .approved t → t ∈ d.payments.ledger ∧ t.madeBy = r.account) :
    ∀ q ∈ Payments.report r x, Backed d q := by
  intro q hq
  unfold Payments.report at hq
  split at hq
  · rename_i t
    obtain ⟨booked, own⟩ := approved t rfl
    rcases List.mem_cons.1 hq with rfl | hq
    · rw [← own]
      exact Justified.entry t booked
    · cases List.mem_singleton.1 hq
      trivial
  · cases List.mem_singleton.1 hq
    trivial

/-- The buyer is charged, and may look at the entry. -/
theorem charge_commit {r : ProductReserved} {c : Commit PaymentStore Unit} (h : Sound d)
    (backed : Backed d (.productReserved r)) (fresh : Fresh d stamp.id)
    (hc : Payments.charge r stamp d.payments = .ok c) :
    Kept d { d with payments := c.store } c.news := by
  obtain ⟨⟨x, s⟩, hs, hc⟩ := bind_eq_ok.1 hc
  cases pure_eq_ok.1 hc
  obtain ⟨o, ho, own⟩ := backed
  rcases PaymentStore.charge_eq_ok hs with ⟨known, rfl⟩ | ⟨_, new⟩
  · -- the outcome stands in the records, and so does whose it is
    refine ⟨.refl d, h, backed_report ?_⟩
    rintro t rfl
    obtain ⟨booked, o', ho', own'⟩ := h.debit r.order t known
    rw [ho] at ho'
    cases ho'
    exact ⟨booked, own'.symm.trans own⟩
  · rcases PaymentStore.chargeNew_cases new with ⟨no, rfl⟩ | ⟨w, rest, _, _, _, _, rfl, rfl⟩
    · refine .of_same_ledger h rfl ?_ (backed_report ?_)
      · intro id t ht
        rw [Table.get?_put] at ht
        split at ht
        · cases ht
          cases no
        · exact ht
      · rintro t rfl
        cases no
    · have there : Transaction.debit stamp r.account r.payable r.order ∈
          d.payments.ledger ++ [.debit stamp r.account r.payable r.order] :=
        List.mem_append_right _ List.mem_cons_self
      apply Kept.of_payments h
      · exact fun _ ht => List.mem_append_left _ ht
      · intro id t ht
        rw [Table.get?_put] at ht
        split at ht
        · rename_i hid
          cases ht
          rw [hid]
          exact ⟨there, o, ho, own⟩
        · obtain ⟨booked, own'⟩ := h.debit id t ht
          exact ⟨List.mem_append_left _ booked, own'⟩
      · exact nodup_ledger h fresh.entry
      · dsimp only
        apply backed_report
        rintro t ⟨rfl⟩
        exact ⟨there, rfl⟩

/-- **The payment service** opens wallets and charges buyers. -/
theorem payments_commit {initial : Money} {operation : Operation PaymentStore Unit}
    {c : Commit PaymentStore Unit} (h : Sound d) (backed : Backed d p) (fresh : Fresh d stamp.id)
    (hr : (Payments.participant initial).react p = some (.perform operation))
    (hc : operation stamp d.payments = .ok c) : Kept d { d with payments := c.store } c.news := by
  cases p with
  | accountCreated a role =>
    cases hr
    obtain ⟨⟨w, s⟩, hs, hc⟩ := bind_eq_ok.1 hc
    have is := pure_eq_ok.1 hc
    obtain ⟨account, there, rfl, rfl⟩ := backed
    have news : ∀ q ∈ c.news, Backed d q := by
      rw [← is]
      intro q hq
      dsimp only at hq
      split at hq
      · rename_i hr
        cases List.mem_singleton.1 hq
        exact Justified.recharge account there hr
      · cases hq
    have store : c.store = s := by rw [← is]
    rw [store]
    rcases PaymentStore.openWallet_eq_ok hs with ⟨_, rfl⟩ | ⟨_, _, rfl⟩
    · exact ⟨.refl d, h, news⟩
    · exact .of_same_ledger h rfl (fun _ _ ht => ht) news
  | productReserved r =>
    cases hr
    exact charge_commit h backed fresh hc
  | _ => cases hr

end Deeds

end Marketplace
