import Mathlib.Data.List.Nodup
import Marketplace.Proofs.Deeds.Course

/-!
# No unjustified grant

Where grants are justified, so is what they allow. A caller sees own orders and own entries and
nobody else's, only owners change merchants, only customers order and recharge, only sellers open
merchants and nobody deletes another's account, however old the grants are that a cache serves.

## Results

* `Course.grants_justified`: in every course from empty stores on, every grant on the list and in
  every cache is justified, and callers see and do accordingly.
* `Market.performFor_fst`, `Market.listFor_fst`: callers get what the market answers.
-/

namespace Marketplace

/-- A page shows rows that the filter lets through. -/
theorem PageQuery.of_mem_applyVisible {α : Type} [Sortable α] {q : PageQuery} {f : ResourceFilter}
    {key : α → String} {rows : List α} {r : α} (h : r ∈ q.applyVisible f key rows) :
    r ∈ rows ∧ f.allows (key r) = true := by
  unfold applyVisible apply sorted at h
  exact List.mem_filter.1 (List.mem_mergeSort.1 (List.mem_of_mem_drop (List.mem_of_mem_take h)))

namespace Market

variable {σ α : Type}

/-- What a caller is answered, when the caches are filled from some source. -/
def answerFor (g : Grants) (seat : Seat σ) (caller : Claims) (needed : List Permission)
    (correlation : String) (operation : Operation σ α) (m : Market) : Except ServiceError α :=
  ((seat.participant m.settings).performFor g caller needed correlation operation (m.desk seat)).1

/-- What a caller is shown, when the caches are filled from some source. -/
def shownFor (g : Grants) (seat : Seat σ) (caller : Claims) (resourceType : String)
    (list : ResourceFilter → σ → Except ServiceError α) (m : Market) : Except ServiceError α := do
  let f ← ((seat.participant m.settings).filterFor g caller resourceType (m.desk seat)).1
  list f (m.desk seat).store

/-- Callers are answered from the list of grants. -/
theorem performFor_fst (seat : Seat σ) (caller : Claims) (needed : List Permission)
    (correlation : String) (operation : Operation σ α) (m : Market) :
    (performFor seat caller needed correlation operation m).1 =
      m.answerFor m.grants seat caller needed correlation operation :=
  rfl

theorem listFor_fst (seat : Seat σ) (caller : Claims) (resourceType : String)
    (list : ResourceFilter → σ → Except ServiceError α) (m : Market) :
    (m.listFor seat caller resourceType list).1 =
      m.shownFor m.grants seat caller resourceType list := by
  obtain ⟨store, _⟩ := (seat.participant m.settings).filterFor_cases m.grants caller resourceType
    (m.desk seat)
  unfold shownFor listFor atDesk
  cases hf : (seat.participant m.settings).filterFor m.grants caller resourceType
      (m.desk seat) with
  | mk x d =>
    rw [hf] at store
    dsimp only at store
    cases x with
    | error e =>
      dsimp only
      rw [hf]
      rfl
    | ok f =>
      dsimp only
      rw [hf, ← store]
      rfl

end Market

namespace Course

open Deeds

variable {t : Course}

/-- Grants are justified, and what callers see and do is theirs to see and do. -/
structure Lawful (t : Course) : Prop where
  /-- Every grant on the list is justified. -/
  book : ∀ x, t.market.authorization.store.Holds x → Justified t.deeds x
  /-- Every grant in a cache is, served or not. -/
  caches : ∀ v, (t.market.cache v).Only (Justified t.deeds)
  /-- Callers see their own orders, and their own entries of the ledger. -/
  orders : ∀ g caller q rows, Reads g t →
    t.market.shownFor g .orders caller Resource.orders (fun f s => s.list f q) = .ok rows →
    ∀ o ∈ rows, o.account = caller.account
  entries : ∀ g caller q rows, Reads g t →
    t.market.shownFor g .payments caller Resource.transactions (fun f s => s.list f q) = .ok rows →
    ∀ x ∈ rows, x.madeBy = caller.account
  /-- Whoever is not refused for lack of a grant is a seller, owns the merchant, is a customer or
  deletes the own account. -/
  merchants : ∀ g caller correlation name, Reads g t →
    (∀ e, t.market.answerFor g .inventory caller Inventory.createMerchantPermissions correlation
      (Inventory.createMerchant caller.account name) ≠ .error (.policy e)) →
    ∃ a ∈ t.accounts, a.id = caller.account ∧ a.role = .seller
  products : ∀ g caller correlation merchant name price quantity, Reads g t →
    (∀ e, t.market.answerFor g .inventory caller (Inventory.createProductPermissions merchant)
      correlation (Inventory.createProduct caller.account merchant name price quantity) ≠
        .error (.policy e)) →
    ∃ m, t.market.inventory.store.merchants.get? merchant = some m ∧ m.owner = caller.account
  purchases : ∀ g caller correlation product quantity, Reads g t →
    (∀ e, t.market.answerFor g .orders caller Orders.placePermissions correlation
      (Orders.place caller.account product quantity) ≠ .error (.policy e)) →
    ∃ a ∈ t.accounts, a.id = caller.account ∧ a.role = .customer
  recharges : ∀ g caller correlation amount, Reads g t →
    (∀ e, t.market.answerFor g .payments caller Payments.rechargePermissions correlation
      (Payments.recharge caller.account amount) ≠ .error (.policy e)) →
    ∃ a ∈ t.accounts, a.id = caller.account ∧ a.role = .customer
  deletions : ∀ g caller correlation id, Reads g t →
    (∀ e, t.market.answerFor g .identity caller (Accounts.deletePermissions id) correlation
      (Accounts.delete id) ≠ .error (.policy e)) →
    caller.account = id ∧ ∃ a ∈ t.accounts, a.id = caller.account

section

variable {σ α : Type} {g : Grants} {seat : Seat σ} {caller : Claims}

/-- A caller who is not refused holds justified grants that cover what the call needs. -/
theorem Inv.granted (i : Inv t) (reads : Reads g t) {needed : List Permission}
    {correlation : String} {operation : Operation σ α}
    (cache : (seat.site t.market).cache.Only (Justified t.deeds))
    (passes : ∀ e, t.market.answerFor g seat caller needed correlation operation ≠
      .error (.policy e)) :
    ∀ q ∈ needed, ∃ x, Justified t.deeds x ∧ x.covers (GrantStore.request caller q) = true := by
  exact performFor_granted (d := t.market.desk seat) _ caller needed correlation operation
    (i.reliable reads) cache passes

/-- A caller is shown what justified grants name. -/
theorem Inv.shown (i : Inv t) (reads : Reads g t) {type : String}
    {list : ResourceFilter → σ → Except ServiceError α} {x : α}
    (cache : (seat.site t.market).cache.Only (Justified t.deeds))
    (shows : t.market.shownFor g seat caller type list = .ok x) :
    ∃ f : ResourceFilter, list f (seat.site t.market).store = .ok x ∧
      ∀ j, f.allows j = true → ∃ a k, (a = Action.any ∨ a = Action.get) ∧ (k = j ∨ k = wildcard) ∧
        Justified t.deeds ⟨caller.subject, type, a, k⟩ := by
  obtain ⟨f, hf, listed⟩ := bind_eq_ok.1 shows
  obtain ⟨_, names⟩ := filterFor_only (d := t.market.desk seat)
    (seat.participant t.market.settings) caller type (i.reliable reads) cache
  exact ⟨f, listed, names f hf⟩

end

theorem Inv.lawful (i : Inv t) : Lawful t where
  book := i.sound.book
  caches := i.caches
  orders := by
    intro g caller q rows reads shows o ho
    obtain ⟨f, listed, names⟩ := i.shown reads (i.caches .orders) shows
    obtain ⟨_, _, listed⟩ := bind_eq_ok.1 listed
    cases pure_eq_ok.1 listed
    obtain ⟨there, allowed⟩ := PageQuery.of_mem_applyVisible ho
    obtain ⟨id, known⟩ := Table.mem_values_iff.1 there
    cases i.sound.order id o known
    obtain ⟨a, k, looks, named, justified⟩ := names _ allowed
    obtain ⟨o', known', own⟩ := justified.sees rfl rfl looks named
    cases known.symm.trans known'
    exact own
  entries := by
    intro g caller q rows reads shows x hx
    obtain ⟨f, listed, names⟩ := i.shown reads (i.caches .payments) shows
    obtain ⟨_, _, listed⟩ := bind_eq_ok.1 listed
    cases pure_eq_ok.1 listed
    obtain ⟨there, allowed⟩ := PageQuery.of_mem_applyVisible hx
    obtain ⟨a, k, looks, named, justified⟩ := names _ allowed
    obtain ⟨y, booked, same, own⟩ := justified.audits rfl rfl looks named
    -- no two entries have one number
    cases List.inj_on_of_nodup_map i.sound.ledger booked there same
    exact own
  merchants := by
    intro g caller correlation name reads passes
    obtain ⟨x, justified, covers⟩ := i.granted reads (i.caches .inventory) passes _
      List.mem_cons_self
    exact justified.opens covers
  products := by
    intro g caller correlation merchant name price quantity reads passes
    obtain ⟨x, justified, covers⟩ := i.granted reads (i.caches .inventory) passes
      ⟨Resource.merchants, Action.put, toString merchant⟩
      (List.mem_cons_of_mem _ List.mem_cons_self)
    exact justified.owns covers
  purchases := by
    intro g caller correlation product quantity reads passes
    obtain ⟨x, justified, covers⟩ := i.granted reads (i.caches .orders) passes _
      List.mem_cons_self
    exact justified.buys covers
  recharges := by
    intro g caller correlation amount reads passes
    obtain ⟨x, justified, covers⟩ := i.granted reads (i.caches .payments) passes _
      List.mem_cons_self
    exact justified.recharges covers
  deletions := by
    intro g caller correlation id reads passes
    obtain ⟨x, justified, covers⟩ := i.granted reads (i.caches .identity) passes _
      List.mem_cons_self
    exact justified.deletes covers

variable {settings : MarketSettings} {outlet : Outlet} {supply : Supply}

/-- **No unjustified grant**: in every course from empty stores on, every grant on the list and in
every cache is justified, and what callers see and do is theirs to see and do. -/
theorem grants_justified (run : Relation.ReflTransGen Step (start settings outlet supply) t) :
    t.Lawful :=
  (inv_of_run run).lawful

/-! ## A seller who opens a merchant -/

/-- An empty marketplace. -/
def sampleStart : Course :=
  start ⟨1000, 1000, .ofUnits 10, true⟩ (.new Bus.standardSettings) ⟨⟨0⟩, 0⟩

def sampleSeller : Claims := ⟨⟨1⟩, "ana@x", .seller⟩

/-- The seller registers. -/
def sampleRegistered : Course :=
  let after := (Call.createAccount "ana" "ana@x" .seller).run sampleStart.market.grants "request"
    sampleSeller sampleStart.market
  sampleStart.next after.1 after.2

/-- The news of some event. -/
def sampleNews (p : Payload) : Event :=
  ⟨⟨envelopeVersion, "", (⟨0⟩ : Instant).timestamp, "", .ofNat 0, ""⟩, p⟩

/-- A service hears of something. -/
def sampleArrival (v : Service) (p : Payload) (t : Course) : Course :=
  t.next (t.market.deliver v (sampleNews p)).2 (t.market.handled v (sampleNews p))

/-- What sellers may do. -/
def sampleGrant : Grant := ⟨sampleSeller.subject, Resource.merchants, Action.post, wildcard⟩

/-- The inventory welcomes the seller, and the grant is given. -/
def sampleCourse : Course :=
  sampleArrival .authorization (.upsertPolicy sampleGrant)
    (sampleArrival .inventory (.accountCreated sampleSeller.account .seller) sampleRegistered)

theorem sampleCourse_run : Relation.ReflTransGen Step sampleStart sampleCourse := by
  refine .tail (.tail (.single ?_) (.arrive .inventory _ _ ?_ ?_))
    (.arrive .authorization _ _ ?_ ?_)
  · exact .call _ _ _ _ _ (reads_grants _) ⟨rfl, rfl, fun _ h => nomatch h⟩
  · decide +kernel
  · exact ⟨rfl, rfl, fun _ h => nomatch h⟩
  · decide +kernel
  · exact ⟨rfl, rfl, fun _ h => nomatch h⟩

/-- The grant is on the list and the seller may open a merchant. -/
theorem grants_justified_of_sampleCourse :
    sampleCourse.market.authorization.store.Holds sampleGrant ∧
    Justified sampleCourse.deeds sampleGrant ∧
    (sampleCourse.market.createMerchant "request" sampleSeller "shop").1.isOk = true ∧
    ∃ a ∈ sampleCourse.accounts, a.id = sampleSeller.account ∧ a.role = .seller := by
  have lawful := grants_justified sampleCourse_run
  have held : sampleCourse.market.authorization.store.Holds sampleGrant := by decide +kernel
  have opened :
      (sampleCourse.market.createMerchant "request" sampleSeller "shop").1.isOk = true := by
    decide +kernel
  refine ⟨held, lawful.book _ held, opened, ?_⟩
  apply lawful.merchants sampleCourse.market.grants sampleSeller "request" "shop" (reads_grants _)
  intro e refused
  rw [show (sampleCourse.market.createMerchant "request" sampleSeller "shop").1 = _ from refused]
    at opened
  cases opened

end Course

end Marketplace
