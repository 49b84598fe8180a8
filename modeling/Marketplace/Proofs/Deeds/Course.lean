import Mathlib.Logic.Relation
import Marketplace.Proofs.Deeds.Desk
import Marketplace.Proofs.Saga.Traffic

/-!
# Courses of the marketplace

The five participants from empty stores on. Clients call with any claims, everything that was
published is delivered in any order and as often as one likes, stores go down, the bus fails at any
event, and queries for grants fail one by one or are answered from the list as it was at some time;
caches are swept, and clocks and identifiers run on as they like, but for an identifier that is used,
which is new. Nobody gives a grant but the authorization service when it is asked to; grants may be
revoked.

## Results

* `Call.run_eq`: the calls are those of the market.
* `Step.published`: what counts as published is what the bus was given.
* `Step.inv`: at every step, grants on the list and in the caches are justified.
-/

namespace Marketplace

namespace Market

variable {σ α : Type}

/-- The cache of a service. -/
def cache (v : Service) (m : Market) : GrantCache :=
  match v with
  | .identity => m.identity.cache
  | .authorization => m.authorization.cache
  | .inventory => m.inventory.cache
  | .orders => m.orders.cache
  | .payments => m.payments.cache

/-- The market after an operation, and the events that went out. -/
def performing (seat : Seat σ) (correlation : String) (operation : Operation σ α) (m : Market) :
    Market × List Event :=
  let p := seat.participant m.settings
  (m.withDesk seat (p.perform correlation operation (m.desk seat)).2,
    p.performed correlation operation (m.desk seat))

/-- The market after an operation for a caller, and the events that went out, when the caches are
filled from some source. -/
def performingFor (g : Grants) (seat : Seat σ) (caller : Claims) (needed : List Permission)
    (correlation : String) (operation : Operation σ α) (m : Market) : Market × List Event :=
  let p := seat.participant m.settings
  (m.withDesk seat (p.performFor g caller needed correlation operation (m.desk seat)).2,
    p.performedFor g caller needed correlation operation (m.desk seat))

/-- The market after a listing. -/
def listing (g : Grants) (seat : Seat σ) (caller : Claims) (resourceType : String) (m : Market) :
    Market × List Event :=
  (m.withDesk seat
    ((seat.participant m.settings).filterFor g caller resourceType (m.desk seat)).2, [])

end Market

/-- A call of a client. -/
inductive Call where
  | createAccount (name email : String) (role : Role)
  | listAccounts (q : PageQuery)
  | deleteAccount (id : AccountId)
  | createMerchant (name : String)
  | listMerchants (q : PageQuery)
  | createProduct (merchant : MerchantId) (name : String) (price : Money) (quantity : UInt32)
  | listProducts (q : PageQuery)
  | placeOrder (product : ProductId) (quantity : UInt32)
  | listOrders (q : PageQuery)
  | recharge (amount : Money)
  | listTransactions (q : PageQuery)
  | revokeGrant (g : Grant)
  | revokeGrants (account : AccountId)

namespace Call

/-- The market after a call. -/
def after (correlation : String) (caller : Claims) (m : Market) : Call → Market
  | .createAccount name email role => (m.createAccount correlation name email role).2
  | .listAccounts q => (m.listAccounts caller q).2
  | .deleteAccount id => (m.deleteAccount correlation caller id).2
  | .createMerchant name => (m.createMerchant correlation caller name).2
  | .listMerchants q => (m.listMerchants caller q).2
  | .createProduct merchant name price quantity =>
    (m.createProduct correlation caller merchant name price quantity).2
  | .listProducts q => (m.listProducts caller q).2
  | .placeOrder product quantity => (m.placeOrder correlation caller product quantity).2
  | .listOrders q => (m.listOrders caller q).2
  | .recharge amount => (m.recharge correlation caller amount).2
  | .listTransactions q => (m.listTransactions caller q).2
  | .revokeGrant g => (m.revokeGrant correlation g).2
  | .revokeGrants account => (m.revokeGrants correlation account).2

/-- The market after a call, and the events that went out, when the caches are filled from some
source. -/
def run (g : Grants) (correlation : String) (caller : Claims) (m : Market) :
    Call → Market × List Event
  | .createAccount name email role =>
    m.performing .identity correlation (Accounts.create name email role)
  | .listAccounts _ => m.listing g .identity caller Resource.accounts
  | .deleteAccount id =>
    m.performingFor g .identity caller (Accounts.deletePermissions id) correlation
      (Accounts.delete id)
  | .createMerchant name =>
    m.performingFor g .inventory caller Inventory.createMerchantPermissions correlation
      (Inventory.createMerchant caller.account name)
  | .listMerchants _ => m.listing g .inventory caller Resource.merchants
  | .createProduct merchant name price quantity =>
    m.performingFor g .inventory caller (Inventory.createProductPermissions merchant) correlation
      (Inventory.createProduct caller.account merchant name price quantity)
  | .listProducts _ =>
    match caller.role with
    | .customer => (m, [])
    | _ => m.listing g .inventory caller Resource.products
  | .placeOrder product quantity =>
    m.performingFor g .orders caller Orders.placePermissions correlation
      (Orders.place caller.account product quantity)
  | .listOrders _ => m.listing g .orders caller Resource.orders
  | .recharge amount =>
    m.performingFor g .payments caller Payments.rechargePermissions correlation
      (Payments.recharge caller.account amount)
  | .listTransactions _ => m.listing g .payments caller Resource.transactions
  | .revokeGrant x => m.performing .authorization correlation (Authorization.revoke x)
  | .revokeGrants account =>
    m.performing .authorization correlation (Authorization.revokeAll account)

section Seats

variable {σ α : Type}

theorem perform_snd (seat : Seat σ) (correlation : String) (operation : Operation σ α)
    (m : Market) : (Market.perform seat correlation operation m).2 =
      (m.performing seat correlation operation).1 := by
  unfold Market.perform Market.performing
  rw [Market.atDesk_snd]

theorem performFor_snd (seat : Seat σ) (caller : Claims) (needed : List Permission)
    (correlation : String) (operation : Operation σ α) (m : Market) :
    (Market.performFor seat caller needed correlation operation m).2 =
      (m.performingFor m.grants seat caller needed correlation operation).1 := by
  unfold Market.performFor Market.performingFor
  rw [Market.atDesk_snd]

theorem listFor_snd (seat : Seat σ) (caller : Claims) (resourceType : String)
    (list : ResourceFilter → σ → Except ServiceError α) (m : Market) :
    (m.listFor seat caller resourceType list).2 =
      (m.listing m.grants seat caller resourceType).1 := by
  unfold Market.listFor Market.listing
  rw [Market.atDesk_snd]
  cases (seat.participant m.settings).filterFor m.grants caller resourceType (m.desk seat) with
  | mk x d => cases x <;> rfl

end Seats

/-- **The calls are those of the market**, whose caches are filled from its list of grants. -/
theorem run_eq (correlation : String) (caller : Claims) (m : Market) (c : Call) :
    (c.run m.grants correlation caller m).1 = c.after correlation caller m := by
  cases c with
  | createAccount name email role => exact (perform_snd _ _ _ _).symm
  | deleteAccount id => exact (performFor_snd _ _ _ _ _ _).symm
  | createMerchant name => exact (performFor_snd _ _ _ _ _ _).symm
  | createProduct merchant name price quantity => exact (performFor_snd _ _ _ _ _ _).symm
  | placeOrder product quantity => exact (performFor_snd _ _ _ _ _ _).symm
  | recharge amount => exact (performFor_snd _ _ _ _ _ _).symm
  | revokeGrant g => exact (perform_snd _ _ _ _).symm
  | revokeGrants account => exact (perform_snd _ _ _ _).symm
  | listAccounts q => exact (listFor_snd _ _ _ _ _).symm
  | listMerchants q => exact (listFor_snd _ _ _ _ _).symm
  | listOrders q => exact (listFor_snd _ _ _ _ _).symm
  | listTransactions q => exact (listFor_snd _ _ _ _ _).symm
  | listProducts q =>
    unfold run after Market.listProducts
    cases caller.role with
    | customer => rfl
    | seller => exact (listFor_snd _ _ _ _ _).symm
    | admin => exact (listFor_snd _ _ _ _ _).symm

section Kinds

variable {g : Grants} {correlation : String} {caller : Claims} {m : Market}

/-- Every call is an operation, an operation for a caller or a listing, or shows all products. -/
theorem run_cases {motive : Market × List Event → Prop}
    (performing : ∀ (σ α : Type) (seat : Seat σ) (operation : Operation σ α),
      motive (m.performing seat correlation operation))
    (performingFor : ∀ (σ α : Type) (seat : Seat σ) (needed : List Permission)
      (operation : Operation σ α),
      motive (m.performingFor g seat caller needed correlation operation))
    (listing : ∀ (σ : Type) (seat : Seat σ) (type : String), motive (m.listing g seat caller type))
    (idle : motive (m, [])) (c : Call) : motive (c.run g correlation caller m) := by
  cases c with
  | createAccount name email role => exact performing _ _ .identity _
  | listAccounts q => exact listing _ .identity _
  | deleteAccount id => exact performingFor _ _ .identity _ _
  | createMerchant name => exact performingFor _ _ .inventory _ _
  | listMerchants q => exact listing _ .inventory _
  | createProduct merchant name price quantity => exact performingFor _ _ .inventory _ _
  | listProducts q =>
    unfold run
    dsimp only
    split
    · exact idle
    · exact listing _ .inventory _
  | placeOrder product quantity => exact performingFor _ _ .orders _ _
  | listOrders q => exact listing _ .orders _
  | recharge amount => exact performingFor _ _ .payments _ _
  | listTransactions q => exact listing _ .payments _
  | revokeGrant x => exact performing _ _ .authorization _
  | revokeGrants account => exact performing _ _ .authorization _

/-- The log of the bus grows by what goes out. -/
theorem run_log (c : Call) :
    (c.run g correlation caller m).1.outlet.bus.log = m.outlet.bus.log ++
      (c.run g correlation caller m).2.filterMap Registry.standard.post? := by
  apply c.run_cases (motive := fun after => after.1.outlet.bus.log =
    m.outlet.bus.log ++ after.2.filterMap Registry.standard.post?)
  · exact fun _ _ _ _ => Participant.perform_log _ _ _ _
  · exact fun _ _ _ _ _ => Participant.performFor_log _ _ _ _ _ _ _
  · intro _ _ _
    exact (Participant.filterFor_cases _ _ _ _ _).2.trans (List.append_nil _).symm
  · exact (List.append_nil _).symm

theorem run_standard (c : Call) : ∀ e ∈ (c.run g correlation caller m).2, e.IsStandard := by
  apply c.run_cases (motive := fun after => ∀ e ∈ after.2, e.IsStandard)
  · exact fun _ _ _ _ => Participant.performed_standard _ _ _ _
  · exact fun _ _ _ _ _ => Participant.performedFor_standard _ _ _ _ _ _ _
  · exact fun _ _ _ _ he => nomatch he
  · exact fun _ he => nomatch he

end Kinds

end Call

/-- The market, every account that was in its store after some step, the lists of grants so far and
everything that was published. -/
structure Course where
  market : Market
  accounts : List Account
  former : List GrantBook
  published : List Payload

namespace Course

open Deeds

/-- Before anything has happened. -/
def start (settings : MarketSettings) (outlet : Outlet) (supply : Supply) : Course :=
  ⟨.new settings outlet supply, [], [], []⟩

def deeds (t : Course) : Deeds where
  accounts := t.accounts
  book := t.market.authorization.store
  inventory := t.market.inventory.store
  orders := t.market.orders.store
  payments := t.market.payments.store

/-- The course after a step. -/
def next (t : Course) (m : Market) (events : List Event) : Course :=
  ⟨m, t.accounts ++ m.identity.store.accounts.values,
    t.former ++ [t.market.authorization.store], t.published ++ events.map Event.payload⟩

/-- The next identifier is new. -/
def Ready (t : Course) : Prop := t.deeds.Fresh t.market.supply.stamp.1.id

/-- A source that answers every query as the list of grants does or did at some time, or fails. -/
def Reads (g : Grants) (t : Course) : Prop :=
  ∀ subject type, (∃ e, g.source subject type = .error e) ∨
    ∃ b ∈ t.market.authorization.store :: t.former, g.source subject type = b.source subject type

theorem reads_grants (t : Course) : Reads t.market.grants t := by
  intro subject type
  unfold Market.grants
  dsimp only
  split
  · exact .inr ⟨_, List.mem_cons_self, rfl⟩
  · exact .inl ⟨_, rfl⟩

/-- The same stores, reachable or not, and the same caches, swept or not. -/
structure SameStores (m m' : Market) : Prop where
  identity : ∃ isDown, m'.identity.store = { m.identity.store with isDown := isDown }
  authorization : ∃ isDown,
    m'.authorization.store = { m.authorization.store with isDown := isDown }
  inventory : ∃ isDown, m'.inventory.store = { m.inventory.store with isDown := isDown }
  orders : ∃ isDown, m'.orders.store = { m.orders.store with isDown := isDown }
  payments : ∃ isDown, m'.payments.store = { m.payments.store with isDown := isDown }
  caches : ∀ v, m'.cache v = m.cache v ∨ ∃ time, m'.cache v = (m.cache v).sweep time

/-- A step of the course. -/
inductive Step : Course → Course → Prop
  /-- A client calls. -/
  | call (g : Grants) (correlation : String) (caller : Claims) (c : Call) (t : Course)
    (reads : Reads g t) (ready : t.Ready) :
    Step t (t.next (c.run g correlation caller t.market).1 (c.run g correlation caller t.market).2)
  /-- An event that was published arrives somewhere, not necessarily for the first time. -/
  | arrive (v : Service) (e : Event) (t : Course) (heard : e.payload ∈ t.published)
    (ready : t.Ready) : Step t (t.next (t.market.deliver v e).2 (t.market.handled v e))
  /-- Everything else happens. -/
  | surroundings (m : Market) (t : Course) (same : SameStores t.market m) : Step t (t.next m [])

variable {t t' : Course}

/-- What counts as published is what the bus was given. -/
theorem Step.published (h : Step t t') :
    t'.published = t.published ∨ ∃ events : List Event,
      t'.published = t.published ++ events.map Event.payload ∧
      t'.market.outlet.bus.log =
        t.market.outlet.bus.log ++ events.filterMap Registry.standard.post? := by
  cases h with
  | call g correlation caller c t reads ready => exact .inr ⟨_, rfl, c.run_log⟩
  | arrive v e t heard ready => exact .inr ⟨_, rfl, t.market.deliver_log v e⟩
  | surroundings m t same => exact .inl (List.append_nil _)

/-! ## The invariant -/

/-- Every grant that is or was on the list, or is in a cache, is justified, and what was published
is backed. -/
structure Inv (t : Course) : Prop where
  sound : t.deeds.Sound
  caches : ∀ v, (t.market.cache v).Only (Justified t.deeds)
  former : ∀ b ∈ t.former, ∀ x, b.Holds x → Justified t.deeds x
  published : ∀ p ∈ t.published, t.deeds.Backed p

theorem inv_start (settings : MarketSettings) (outlet : Outlet) (supply : Supply) :
    Inv (start settings outlet supply) := by
  refine ⟨sound_empty, ?_, (fun _ hb => nomatch hb), fun _ hp => nomatch hp⟩
  intro v
  cases v <;> exact GrantCache.only_empty

/-- A source that reads the list names only justified grants. -/
theorem Inv.reliable (i : Inv t) {g : Grants} (reads : Reads g t) : Reliable t.deeds g := by
  intro subject type x hx _
  rcases reads subject type with ⟨e, he⟩ | ⟨b, hb, he⟩
  · obtain ⟨_, ht, _⟩ := hx
    rw [he] at ht
    cases ht
  · rw [he] at hx
    have held : b.Holds x := (GrantBook.names_source.1 hx).2.1
    rcases List.mem_cons.1 hb with rfl | hb
    · exact i.sound.book x held
    · exact i.former b hb x held

/-- The invariant, from the records before a step to those after it. -/
theorem Inv.next (i : Inv t) {m : Market} {events : List Event}
    (kept : Kept t.deeds (t.next m events).deeds (events.map Event.payload))
    (caches : ∀ v, (m.cache v).Only (Justified t.deeds)) : Inv (t.next m events) := by
  refine ⟨kept.sound, fun v => (caches v).mono fun _ hg => hg.later kept.later, ?_, ?_⟩
  · intro b hb x hx
    rcases List.mem_append.1 hb with hb | hb
    · exact (i.former b hb x hx).later kept.later
    · cases List.mem_singleton.1 hb
      exact (i.sound.book x hx).later kept.later
  · intro p hp
    rcases List.mem_append.1 hp with hp | hp
    · exact (i.published p hp).later kept.later
    · exact kept.backed p hp

/-! ## Places -/

/-- The place of a participant in a course: its store is one of the records, and its cache one of the
caches. -/
structure Place {σ : Type} (t : Course) (seat : Seat σ) (put : σ → Deeds) : Prop where
  start : Kept t.deeds (put (seat.site t.market).store) []
  cache : (seat.site t.market).cache.Only (Justified t.deeds)
  /-- The cache is told of a change to a grant by the event that says so. -/
  tells : ∀ q m x, (seat.participant t.market.settings).react q = some (.patch m x) →
    q = .policyUpdated m x
  /-- What is kept at the desk is kept in the course. -/
  inv : ∀ (d : Desk σ) (events : List Event),
    Kept t.deeds (put d.store) (events.map Event.payload) → d.cache.Only (Justified t.deeds) →
      Inv (t.next (t.market.withDesk seat d) events)

/-- The caches after one participant was at work. -/
theorem Inv.caches_at (i : Inv t) {m : Market} (v : Service) {c : GrantCache}
    (own : m.cache v = c) (others : ∀ w, w ≠ v → m.cache w = t.market.cache w)
    (only : c.Only (Justified t.deeds)) : ∀ w, (m.cache w).Only (Justified t.deeds) := by
  intro w
  by_cases hw : w = v
  · rw [hw, own]
    exact only
  · rw [others w hw]
    exact i.caches w

theorem Inv.identity (i : Inv t) :
    Place t .identity fun s => { t.deeds with accounts := t.accounts ++ s.accounts.values } where
  start := i.sound.more_accounts _
  cache := i.caches .identity
  tells q m x h := by
    cases q <;> cases h
    rfl
  inv d events kept only := by
    refine i.next kept (i.caches_at .identity rfl ?_ only)
    intro w hw
    cases w <;> first | rfl | exact (hw rfl).elim

theorem Inv.authorization (i : Inv t) : Place t .authorization fun s => { t.deeds with book := s } where
  start := .refl i.sound
  cache := i.caches .authorization
  tells q m x h := by
    cases q <;> cases h
  inv d events kept only := by
    refine i.next (kept.trans (kept.sound.more_accounts _)) (i.caches_at .authorization rfl ?_ only)
    intro w hw
    cases w <;> first | rfl | exact (hw rfl).elim

theorem Inv.inventory (i : Inv t) : Place t .inventory fun s => { t.deeds with inventory := s } where
  start := .refl i.sound
  cache := i.caches .inventory
  tells q m x h := by
    cases q <;> cases h
    rfl
  inv d events kept only := by
    refine i.next (kept.trans (kept.sound.more_accounts _)) (i.caches_at .inventory rfl ?_ only)
    intro w hw
    cases w <;> first | rfl | exact (hw rfl).elim

theorem Inv.orders (i : Inv t) : Place t .orders fun s => { t.deeds with orders := s } where
  start := .refl i.sound
  cache := i.caches .orders
  tells q m x h := by
    cases q <;> cases h
    rfl
  inv d events kept only := by
    refine i.next (kept.trans (kept.sound.more_accounts _)) (i.caches_at .orders rfl ?_ only)
    intro w hw
    cases w <;> first | rfl | exact (hw rfl).elim

theorem Inv.payments (i : Inv t) : Place t .payments fun s => { t.deeds with payments := s } where
  start := .refl i.sound
  cache := i.caches .payments
  tells q m x h := by
    cases q <;> cases h
    rfl
  inv d events kept only := by
    refine i.next (kept.trans (kept.sound.more_accounts _)) (i.caches_at .payments rfl ?_ only)
    intro w hw
    cases w <;> first | rfl | exact (hw rfl).elim

/-! ## Steps -/

section Work

variable {σ α : Type} {g : Grants} {correlation : String} {caller : Claims}
  {needed : List Permission} {operation : Operation σ α} {seat : Seat σ} {put : σ → Deeds}

/-- A caller who passes holds justified grants that cover what the call needs. -/
theorem Inv.performingFor (i : Inv t) (reads : Reads g t) (place : Place t seat put)
    (commit : (∀ q ∈ needed,
        ∃ x, Justified t.deeds x ∧ x.covers (GrantStore.request caller q) = true) →
      ∀ c, operation t.market.supply.stamp.1 (seat.site t.market).store = .ok c →
        Kept t.deeds (put c.store) c.news) :
    Inv (t.next (t.market.performingFor g seat caller needed correlation operation).1
      (t.market.performingFor g seat caller needed correlation operation).2) := by
  obtain ⟨kept, only⟩ := performFor_kept (d := t.market.desk seat)
    (seat.participant t.market.settings) caller needed correlation operation put
    (i.reliable reads) place.cache place.start commit
  exact place.inv _ _ kept only

theorem Place.performing (place : Place t seat put)
    (commit : ∀ c, operation t.market.supply.stamp.1 (seat.site t.market).store = .ok c →
      Kept t.deeds (put c.store) c.news) :
    Inv (t.next (t.market.performing seat correlation operation).1
      (t.market.performing seat correlation operation).2) := by
  refine place.inv _ _ (perform_kept put place.start commit) ?_
  rw [Participant.perform_cache]
  exact place.cache

theorem Inv.listing (i : Inv t) (reads : Reads g t) (place : Place t seat put) {type : String} :
    Inv (t.next (t.market.listing g seat caller type).1
      (t.market.listing g seat caller type).2) := by
  obtain ⟨only, _⟩ := filterFor_only (d := t.market.desk seat)
    (seat.participant t.market.settings) caller type (i.reliable reads) place.cache
  refine place.inv _ [] ?_ only
  rw [(Participant.filterFor_cases _ _ _ _ _).1]
  exact place.start

/-- A participant does what a backed event asks for. -/
theorem Inv.handled (i : Inv t) (place : Place t seat put) {e : Event}
    (heard : e.payload ∈ t.published)
    (commit : ∀ operation,
      (seat.participant t.market.settings).react e.payload = some (.perform operation) →
      ∀ c, operation t.market.supply.stamp.1 (seat.site t.market).store = .ok c →
        Kept t.deeds (put c.store) c.news) :
    Inv (t.next (t.market.withDesk seat ((seat.participant t.market.settings).handle
      t.market.grants e.header.correlation e.payload (t.market.desk seat)).2)
      (t.market.handledAt seat e)) := by
  have backed := i.published _ heard
  have patches : ∀ m x,
      (seat.participant t.market.settings).react e.payload = some (.patch m x) → m = .put →
        Justified t.deeds x := by
    rintro m x hr rfl
    rw [place.tells _ _ _ hr] at backed
    exact backed
  obtain ⟨kept, only⟩ := handle_kept (p := seat.participant t.market.settings)
    (d := t.market.desk seat) (g := t.market.grants) put place.cache place.start patches commit
  exact place.inv _ _ kept only

end Work

/-- **A call** keeps grants justified. -/
theorem Inv.call (i : Inv t) {g : Grants} {correlation : String} {caller : Claims}
    (reads : Reads g t) (ready : t.Ready) (c : Call) :
    Inv (t.next (c.run g correlation caller t.market).1
      (c.run g correlation caller t.market).2) := by
  cases c with
  | createAccount name email role =>
    exact i.identity.performing fun _ hc => createAccount_commit i.sound hc
  | listAccounts q => exact i.listing reads i.identity
  | deleteAccount id =>
    exact i.performingFor reads i.identity fun _ _ hc => deleteAccount_commit i.sound hc
  | createMerchant name =>
    exact i.performingFor reads i.inventory fun _ _ hc => createMerchant_commit i.sound ready hc
  | listMerchants q => exact i.listing reads i.inventory
  | createProduct merchant name price quantity =>
    apply i.performingFor reads i.inventory
    -- whoever passes owns the merchant
    intro held c hc
    obtain ⟨x, justified, covers⟩ := held ⟨Resource.merchants, Action.put, toString merchant⟩
      (List.mem_cons_of_mem _ List.mem_cons_self)
    obtain ⟨m, known, own⟩ := justified.owns covers
    exact createProduct_commit i.sound ready known own hc
  | listProducts q =>
    unfold Call.run
    dsimp only
    split
    · exact i.next (i.sound.more_accounts _) i.caches
    · exact i.listing reads i.inventory
  | placeOrder product quantity =>
    exact i.performingFor reads i.orders fun _ _ hc => place_commit i.sound hc
  | listOrders q => exact i.listing reads i.orders
  | recharge amount =>
    exact i.performingFor reads i.payments fun _ _ hc => recharge_commit i.sound ready hc
  | listTransactions q => exact i.listing reads i.payments
  | revokeGrant x =>
    apply i.authorization.performing
    intro c hc
    have taken : Authorization.alter .delete x t.market.supply.stamp.1 t.deeds.book = .ok c := hc
    exact alter_commit (m := .delete) i.sound nofun taken
  | revokeGrants account =>
    exact i.authorization.performing fun _ hc => revokeAll_commit i.sound hc

/-- **An event that was published** keeps grants justified, whenever it arrives. -/
theorem Inv.arrive (i : Inv t) (v : Service) {e : Event} (heard : e.payload ∈ t.published)
    (ready : t.Ready) : Inv (t.next (t.market.deliver v e).2 (t.market.handled v e)) := by
  have backed := i.published _ heard
  cases v with
  | identity =>
    apply i.handled i.identity heard
    -- accounts change at the request of clients only
    intro operation hr
    cases hp : e.payload <;> rw [hp] at hr <;> cases hr
  | authorization =>
    exact i.handled i.authorization heard fun _ hr _ hc => authorization_commit i.sound backed hr hc
  | inventory =>
    exact i.handled i.inventory heard fun _ hr _ hc => inventory_commit i.sound backed hr hc
  | orders =>
    exact i.handled i.orders heard fun _ hr _ hc => orders_commit i.sound backed hr hc
  | payments =>
    exact i.handled i.payments heard fun _ hr _ hc => payments_commit i.sound backed ready hr hc

/-- **What else happens** leaves the records and the caches as they are. -/
theorem Inv.surroundings (i : Inv t) {m : Market} (same : SameStores t.market m) :
    Inv (t.next m []) := by
  obtain ⟨_, identity⟩ := same.identity
  obtain ⟨_, book⟩ := same.authorization
  obtain ⟨_, inventory⟩ := same.inventory
  obtain ⟨_, orders⟩ := same.orders
  obtain ⟨_, payments⟩ := same.payments
  have none : ∀ d : Deeds, ∀ q ∈ ([] : List Payload), d.Backed q := fun _ _ hq => nomatch hq
  apply i.next
  · have first := i.sound.more_accounts m.identity.store.accounts.values
    have second := first.trans (Kept.of_book first.sound (s := m.authorization.store)
      (by rw [book]; exact first.sound.book) (none _))
    have third := second.trans (Kept.of_same_goods second.sound (s := m.inventory.store)
      (by rw [inventory]; rfl) (by rw [inventory]; rfl) (none _))
    have fourth := third.trans (Kept.of_orders third.sound (s := m.orders.store)
      (by rw [orders]; exact fun _ o ho => ⟨o, ho, rfl⟩)
      (by rw [orders]; exact third.sound.order) (none _))
    exact fourth.trans (Kept.of_same_ledger fourth.sound (s := m.payments.store)
      (by rw [payments]; rfl) (by rw [payments]; exact fun _ _ ht => ht) (none _))
  · intro v
    rcases same.caches v with unswept | ⟨time, swept⟩
    · rw [unswept]
      exact i.caches v
    · rw [swept]
      exact (i.caches v).sweep time

theorem Step.inv (h : Step t t') (i : Inv t) : Inv t' := by
  cases h with
  | call g correlation caller c t reads ready => exact i.call reads ready c
  | arrive v e t heard ready => exact i.arrive v heard ready
  | surroundings m t same => exact i.surroundings same

/-- Grants are justified in every course from empty stores on. -/
theorem inv_of_run {settings : MarketSettings} {outlet : Outlet} {supply : Supply}
    (run : Relation.ReflTransGen Step (start settings outlet supply) t) : Inv t := by
  induction run with
  | refl => exact inv_start settings outlet supply
  | tail _ step ih => exact step.inv ih

end Course

end Marketplace
