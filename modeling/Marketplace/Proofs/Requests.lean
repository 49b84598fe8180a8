import Marketplace.Market.Basic
import Marketplace.Proofs.Batch
import Marketplace.Proofs.Result

/-!
# What a failed request leaves behind

A client who gets an error knows from its kind what was done. Checks of grants, checks of the
request and conflicts with what is stored all come before the commit, and none of them has to do
with events; what comes after the commit is the sending of a batch, which fails with errors about
events only. So an error about an event says that the request was granted and stored and its batch
sent in part, and every other error that nothing was done.

The grants of the caller are asked of any store of grants, whatever it answers and however it
changes as it is asked. The cache that a participant has in front of a source is one of them.

## Results

* `ClientRequest.inMarket_eq`: the market answers all requests in the same way.
* `ClientRequest.quiet`: before its commit no request fails with an error about an event.
* `KnownState.of_performed`: what the error of a call says about the store and the bus.
* `ClientRequest.known_state`: the same for the six requests of clients that change a store.
-/

namespace Marketplace

/-! ## Requests -/

/-- What a client can ask for that changes a store of type `σ` and is answered an `α`. -/
inductive ClientRequest : Type → Type → Type
  | createAccount (name email : String) (role : Role) : ClientRequest AccountStore Account
  | deleteAccount (id : AccountId) : ClientRequest AccountStore Unit
  | createMerchant (name : String) : ClientRequest InventoryStore Merchant
  | createProduct (merchant : MerchantId) (name : String) (price : Money) (quantity : UInt32) :
    ClientRequest InventoryStore Product
  | placeOrder (product : ProductId) (quantity : UInt32) : ClientRequest OrderStore Order
  | recharge (amount : Money) : ClientRequest PaymentStore Transaction

namespace ClientRequest

variable {σ α : Type}

/-- Where the request is answered. -/
def seat : ClientRequest σ α → Seat σ
  | createAccount _ _ _ => .identity
  | deleteAccount _ => .identity
  | createMerchant _ => .inventory
  | createProduct _ _ _ _ => .inventory
  | placeOrder _ _ => .orders
  | recharge _ => .payments

/-- What it takes; anybody may register. -/
def permissions : ClientRequest σ α → List Permission
  | createAccount _ _ _ => []
  | deleteAccount id => Accounts.deletePermissions id
  | createMerchant _ => Inventory.createMerchantPermissions
  | createProduct merchant _ _ _ => Inventory.createProductPermissions merchant
  | placeOrder _ _ => Orders.placePermissions
  | recharge _ => Payments.rechargePermissions

/-- What is done about it. -/
def operation (caller : Claims) : ClientRequest σ α → Operation σ α
  | createAccount name email role => Accounts.create name email role
  | deleteAccount id => Accounts.delete id
  | createMerchant name => Inventory.createMerchant caller.account name
  | createProduct merchant name price quantity =>
    Inventory.createProduct caller.account merchant name price quantity
  | placeOrder product quantity => Orders.place caller.account product quantity
  | recharge amount => Payments.recharge caller.account amount

/-- The request, as the market answers it. -/
def inMarket (correlation : String) (caller : Claims) (m : Market) :
    ClientRequest σ α → Except ServiceError α × Market
  | createAccount name email role => m.createAccount correlation name email role
  | deleteAccount id => m.deleteAccount correlation caller id
  | createMerchant name => m.createMerchant correlation caller name
  | createProduct merchant name price quantity =>
    m.createProduct correlation caller merchant name price quantity
  | placeOrder product quantity => m.placeOrder correlation caller product quantity
  | recharge amount => m.recharge correlation caller amount

/-- The market answers all of them in the same way. -/
theorem inMarket_eq (correlation : String) (caller : Claims) (m : Market)
    (request : ClientRequest σ α) :
    request.inMarket correlation caller m = m.atDesk request.seat fun p g d =>
      p.performFor g caller request.permissions correlation (request.operation caller) d := by
  cases request <;> rfl

/-! ## Failures before the commit -/

/-- It is no failure with an error about an event. -/
def Quiet {β : Type} (x : Except ServiceError β) : Prop := ∀ err, x ≠ .error (.event err)

theorem quiet_ok {β : Type} (a : β) : Quiet (.ok a) := nofun

/-- A sequence of steps is quiet if every step is. -/
theorem Quiet.bind {β γ : Type} {x : Except ServiceError β} {f : β → Except ServiceError γ}
    (first : Quiet x) (rest : ∀ a, Quiet (f a)) : Quiet (x >>= f) := by
  intro err h
  rcases bind_eq_error.1 h with h | ⟨a, _, h⟩
  · exact first err h
  · exact rest a err h

/-- The stores check alike whether they are up. -/
theorem quiet_check (isDown : Bool) (store : String) :
    Quiet (if isDown then .error (.storeUnavailable store) else .ok () :
      Except ServiceError Unit) := by
  split <;> nofun

/-- **Before its commit** no request fails with an error about an event. -/
theorem quiet (request : ClientRequest σ α) (caller : Claims) (stamp : Stamp) (s : σ) :
    Quiet (request.operation caller stamp s) := by
  cases request with
  | createAccount name email role =>
    show Quiet (Accounts.create name email role stamp s)
    unfold Accounts.create
    dsimp only
    split
    · nofun
    · split
      · nofun
      · refine .bind ((quiet_check s.isDown _).bind fun _ => ?_) fun _ => quiet_ok _
        split <;> nofun
  | deleteAccount id =>
    refine .bind ((quiet_check s.isDown _).bind fun _ => quiet_ok _) ?_
    rintro ⟨_ | _, _⟩ <;> nofun
  | createMerchant name =>
    show Quiet (Inventory.createMerchant caller.account name stamp s)
    unfold Inventory.createMerchant
    dsimp only
    split
    · nofun
    · refine .bind ((quiet_check s.isDown _).bind fun _ => ?_) fun _ => quiet_ok _
      split <;> nofun
  | createProduct merchant name price quantity =>
    show Quiet (Inventory.createProduct caller.account merchant name price quantity stamp s)
    unfold Inventory.createProduct
    dsimp only
    split
    · nofun
    · split
      · nofun
      · refine .bind ((quiet_check s.isDown _).bind fun _ => ?_) fun _ => quiet_ok _
        split <;> nofun
  | placeOrder product quantity =>
    show Quiet (Orders.place caller.account product quantity stamp s)
    unfold Orders.place
    dsimp only
    split
    · nofun
    · refine .bind ((quiet_check s.isDown _).bind fun _ => ?_) fun _ => quiet_ok _
      split <;> nofun
  | recharge amount =>
    show Quiet (Payments.recharge caller.account amount stamp s)
    unfold Payments.recharge
    dsimp only
    split
    · nofun
    · refine .bind ((quiet_check s.isDown _).bind fun _ => ?_) fun _ => quiet_ok _
      split
      · nofun
      · split <;> nofun

end ClientRequest

/-! ## What the answer says -/

/-- The desk with a bus that takes everything. -/
def Desk.calmed {σ : Type} (d : Desk σ) : Desk σ :=
  { d with outlet := { d.outlet with bus := d.outlet.bus.calmed } }

/-- What the answer to a call says about the store and the bus. The call is given as a function of
the desk; on a calm bus it is the undisturbed call with the same identifiers and moments. -/
structure KnownState {σ α : Type} (p : Participant σ) (correlation : String)
    (operation : Operation σ α) (call : Desk σ → Except ServiceError α × Desk σ) (d : Desk σ) :
    Prop where
  /-- Nothing was stored and nothing published, unless the error is about an event. -/
  untouched : ∀ e, (call d).1 = .error e → (∀ err, e ≠ .event err) →
    (call d).2.store = d.store ∧ (call d).2.outlet.bus.log = d.outlet.bus.log
  /-- An error about an event says that the call is stored as if it had succeeded, and that the bus
  took the batch in part. -/
  cut : ∀ err, (call d).1 = .error (.event err) →
    (∃ a, (call d.calmed).1 = .ok a) ∧ (call d).2.store = (call d.calmed).2.store ∧
    ∃ said, said <+: p.batch correlation operation d ∧ said ≠ p.batch correlation operation d ∧
      (call d).2.outlet.bus.log = d.outlet.bus.log ++ said.map Event.post
  /-- Success says that the bus took all of the batch. -/
  done : ∀ a, (call d).1 = .ok a →
    (call d.calmed).1 = .ok a ∧ (call d).2.store = (call d.calmed).2.store ∧
    (call d).2.outlet.bus.log =
      d.outlet.bus.log ++ (p.batch correlation operation d).map Event.post
  /-- The batch is what the undisturbed call publishes. -/
  batch : ∀ a, (call d.calmed).1 = .ok a → (call d.calmed).2.outlet.bus.log =
    d.outlet.bus.log ++ (p.batch correlation operation d).map Event.post
  /-- The undisturbed call commits the operation: it answers and stores what the commit says, and
  the events of the batch carry the news of it, in order. -/
  news : ∀ a, (call d.calmed).1 = .ok a → ∃ c, operation d.supply.stamp.1 d.store = .ok c ∧
    c.answer = a ∧ c.store = (call d.calmed).2.store ∧
    (p.batch correlation operation d).map Event.payload = c.news

namespace KnownState

variable {σ α : Type} {p : Participant σ} {correlation : String} {operation : Operation σ α}
  {call : Desk σ → Except ServiceError α × Desk σ} {d : Desk σ}

/-- A call that does not commit leaves everything as it was. -/
theorem of_refused {e e' : ServiceError} (refused : (call d).1 = .error e)
    (other : ∀ err, e ≠ .event err) (store : (call d).2.store = d.store)
    (log : (call d).2.outlet.bus.log = d.outlet.bus.log) (calm : (call d.calmed).1 = .error e') :
    KnownState p correlation operation call d := by
  refine ⟨fun _ _ _ => ⟨store, log⟩, fun err h => ?_, fun a h => ?_, fun a h => ?_, fun a h => ?_⟩
  · cases refused.symm.trans h
    exact (other err rfl).elim
  · cases refused.symm.trans h
  · cases calm.symm.trans h
  · cases calm.symm.trans h

/-- **A call that is granted** comes out by what the bus takes of the batch of its operation. Asking
for the grants changes the cache and the counts. -/
theorem of_performed (quiet : ∀ stamp s, ClientRequest.Quiet (operation stamp s))
    {cache cache' : GrantCache} {outlet outlet' : Outlet}
    (granted : call d = p.perform correlation operation { d with cache, outlet })
    (log : outlet.bus.log = d.outlet.bus.log)
    (undisturbed : call d.calmed =
      p.perform correlation operation { d with cache := cache', outlet := outlet' })
    (calm : outlet'.bus.IsCalm) (log' : outlet'.bus.log = d.outlet.bus.log) :
    KnownState p correlation operation call d := by
  have said := Participant.log_perform p correlation operation { d with cache, outlet }
  have all := Participant.log_perform p correlation operation
    { d with cache := cache', outlet := outlet' }
  have part := Participant.performed_isPrefix p correlation operation { d with cache, outlet }
  rw [← granted] at said
  rw [← undisturbed] at all
  dsimp only at said all
  rw [log] at said
  rw [log'] at all
  cases committed : operation d.supply.stamp.1 d.store with
  | error e =>
    obtain ⟨fails, same, nothing⟩ :=
      Participant.perform_of_error p correlation (d := { d with cache, outlet }) committed
    have fails' := (Participant.perform_of_error p correlation
      (d := { d with cache := cache', outlet := outlet' }) committed).1
    rw [← granted] at fails same
    rw [← undisturbed] at fails'
    rw [nothing] at said
    have other : ∀ err, e ≠ .event err := by
      rintro err rfl
      exact quiet _ _ err committed
    exact .of_refused fails other same (said.trans (List.append_nil _)) fails'
  | ok c =>
    obtain ⟨succeeds, stored', whole⟩ := Participant.perform_of_calm p correlation
      (d := { d with cache := cache', outlet := outlet' }) calm committed
    have stored := (Participant.perform_outcome p correlation operation
      { d with cache, outlet }).eq_commit committed
    rw [whole] at all
    rw [← undisturbed] at succeeds stored'
    rw [← granted] at stored
    refine ⟨fun e h other => ?_, fun err h => ?_, fun a h => ?_, fun _ _ => all, fun a h => ?_⟩
    · rw [granted] at h
      obtain ⟨b, rfl⟩ :=
        Participant.error_of_committed (d := { d with cache, outlet }) committed h
      exact (other _ rfl).elim
    · rw [granted] at h
      exact ⟨⟨_, succeeds⟩, stored.trans stored'.symm, _, part,
        Participant.performed_ne_batch committed h, said⟩
    · rw [granted] at h
      obtain ⟨c', hc', rfl, _, entire⟩ := Participant.performed_eq_batch h
      cases committed.symm.trans hc'
      rw [entire] at said
      exact ⟨succeeds, stored.trans stored'.symm, said⟩
    · cases succeeds.symm.trans h
      exact ⟨c, committed, rfl, stored'.symm, Participant.map_payload_batch committed⟩

end KnownState

namespace Participant

variable {σ α τ : Type}

/-- Performs an operation for a caller whose grants any store of grants answers. -/
def performAs (p : Participant σ) (store : GrantStore τ) (t : τ) (caller : Claims)
    (needed : List Permission) (correlation : String) (operation : Operation σ α) (d : Desk σ) :
    Except ServiceError α × Desk σ :=
  match (store.authorizeAll caller needed t).1 with
  | .error e => (.error (.policy e), d)
  | .ok () => p.perform correlation operation d

/-- A call leaves a known state, whichever store of grants is asked. -/
theorem performAs_knownState (p : Participant σ) (store : GrantStore τ) (t : τ) (caller : Claims)
    (needed : List Permission) (correlation : String) {operation : Operation σ α}
    (quiet : ∀ stamp s, ClientRequest.Quiet (operation stamp s)) (d : Desk σ) :
    KnownState p correlation operation
      (p.performAs store t caller needed correlation operation) d := by
  cases asked : (store.authorizeAll caller needed t).1 with
  | error e =>
    have refused : ∀ d', p.performAs store t caller needed correlation operation d' =
        (.error (.policy e), d') := by
      intro d'
      unfold performAs
      rw [asked]
    refine .of_refused (congrArg Prod.fst (refused d)) nofun ?_ ?_
      (congrArg Prod.fst (refused d.calmed))
    · rw [refused]
    · rw [refused]
  | ok u =>
    have granted : ∀ d', p.performAs store t caller needed correlation operation d' =
        p.perform correlation operation d' := by
      intro d'
      unfold performAs
      rw [asked]
    exact .of_performed quiet (granted d) rfl (granted d.calmed) (Bus.isCalm_calmed _) rfl

/-- A call asks the cache first, and is performed at a desk with another cache and other counts. -/
theorem performFor_of_asked (p : Participant σ) (g : Grants) (caller : Claims)
    (needed : List Permission) (correlation : String) (operation : Operation σ α) {d : Desk σ}
    {x : Except PolicyError Unit} {s : CountedCache} :
    (GrantStore.cached (p.cacheSettings g) d.outlet.bus.now g.source).authorizeAll caller
      needed ⟨d.cache, []⟩ = (x, s) →
    p.performFor g caller needed correlation operation d =
      match x with
      | .error e => (.error (.policy e),
          { d with cache := s.cache, outlet := d.outlet.count s.counts })
      | .ok () => p.perform correlation operation
          { d with cache := s.cache, outlet := d.outlet.count s.counts } := by
  intro asked
  unfold performFor consult
  dsimp only
  rw [asked]
  cases x <;> rfl

/-- A call leaves a known state when the cache of the participant is asked. Whether the bus fails
makes no difference to the cache. -/
theorem performFor_knownState (p : Participant σ) (g : Grants) (caller : Claims)
    (needed : List Permission) (correlation : String) {operation : Operation σ α}
    (quiet : ∀ stamp s, ClientRequest.Quiet (operation stamp s)) (d : Desk σ) :
    KnownState p correlation operation
      (p.performFor g caller needed correlation operation) d := by
  cases asked : (GrantStore.cached (p.cacheSettings g) d.outlet.bus.now g.source).authorizeAll
      caller needed ⟨d.cache, []⟩ with
  | mk x s =>
    have called := performFor_of_asked p g caller needed correlation operation asked
    have undisturbed :=
      performFor_of_asked p g caller needed correlation operation (d := d.calmed) asked
    cases x with
    | error e =>
      refine .of_refused (congrArg Prod.fst called) nofun ?_ ?_ (congrArg Prod.fst undisturbed)
      · rw [called]
      · rw [called]
        rfl
    | ok u => exact .of_performed quiet called rfl undisturbed (Bus.isCalm_calmed _) rfl

end Participant

/-- **A client knows from the error what was done.** For each of the requests, each state of the
store, of the bus and of whatever is asked for the grants of the caller: an error that is not about
an event means that nothing was stored and nothing published, an error about an event that the
request is stored and its batch published in part, and success that all of it was published. -/
theorem ClientRequest.known_state {σ α : Type} (request : ClientRequest σ α)
    (settings : MarketSettings) (caller : Claims) (correlation : String) (d : Desk σ) :
    (∀ (τ : Type) (store : GrantStore τ) (t : τ),
      KnownState (request.seat.participant settings) correlation (request.operation caller)
        ((request.seat.participant settings).performAs store t caller request.permissions
          correlation (request.operation caller)) d) ∧
    ∀ g : Grants,
      KnownState (request.seat.participant settings) correlation (request.operation caller)
        ((request.seat.participant settings).performFor g caller request.permissions correlation
          (request.operation caller)) d := by
  have quiet := request.quiet caller
  exact ⟨fun _ store t => Participant.performAs_knownState _ store t caller _ correlation quiet d,
    fun g => Participant.performFor_knownState _ g caller _ correlation quiet d⟩

/-! ## An order that is announced in part -/

namespace ClientRequest

/-- A customer asks for three pieces of a product. -/
def sampleRequest : ClientRequest OrderStore Order := .placeOrder ⟨.ofNat 7⟩ 3

def sampleBuyer : Claims := ⟨⟨2⟩, "2@example.com", .customer⟩

/-- Everybody may post anything. -/
def sampleGrants : Grants :=
  ⟨60000, 1000, fun subject type => .ok [subject ++ ":" ++ type ++ ":post:*"]⟩

/-- The desk of the service of orders, on whose bus the second announcement fails. -/
def sampleDesk : Desk OrderStore :=
  ⟨.empty, .empty, ⟨{ Bus.new Bus.standardSettings with failOn := some 2 }, .empty⟩, ⟨⟨0⟩, 0⟩⟩

def sampleCall (d : Desk OrderStore) : Except ServiceError Order × Desk OrderStore :=
  Orders.participant.performFor sampleGrants sampleBuyer sampleRequest.permissions "r"
    (sampleRequest.operation sampleBuyer) d

/-- The batch that announces the order. -/
def sampleBatch : List Event :=
  Orders.participant.batch "r" (sampleRequest.operation sampleBuyer) sampleDesk

/-- The order is placed and announced, and neither of its two grants is asked for. The batch says
all three. -/
theorem known_state_of_sampleRequest :
    (∃ err, (sampleCall sampleDesk).1 = .error (.event err)) ∧
    (∃ o, (sampleCall sampleDesk.calmed).1 = .ok o ∧
      sampleBatch.map Event.payload = [.orderCreated ⟨o.id, "pending", ⟨2⟩, ⟨.ofNat 7⟩, 3⟩,
        .grant "2" Resource.orders (toString o.id) Action.get,
        .grant "2" Resource.orders (toString o.id) Action.put] ∧
      (sampleCall sampleDesk).2.store.orders.get? o.id = some o) ∧
    (sampleCall sampleDesk).2.outlet.bus.log = (sampleBatch.take 1).map Event.post := by
  have known : KnownState Orders.participant "r" (sampleRequest.operation sampleBuyer) sampleCall
      sampleDesk :=
    (known_state sampleRequest ⟨60000, 1000, .zero, true⟩ sampleBuyer "r" sampleDesk).2 sampleGrants
  have single : (sampleCall sampleDesk).2.outlet.bus.log.length = 1 := by decide +kernel
  have fails : (sampleCall sampleDesk).1.isOk = false := by decide +kernel
  -- Something was published, so the failure is one about an event.
  obtain ⟨err, failed⟩ : ∃ err, (sampleCall sampleDesk).1 = .error (.event err) := by
    cases answer : (sampleCall sampleDesk).1 with
    | ok o =>
      rw [answer] at fails
      cases fails
    | error e =>
      refine Classical.byContradiction fun other => ?_
      have nothing := (known.untouched e answer fun err he => other ⟨err, congrArg _ he⟩).2
      rw [nothing] at single
      cases single
  obtain ⟨⟨o, placed⟩, stored, said, part, -, log⟩ := known.cut err failed
  obtain ⟨c, committed, rfl, store, news⟩ := known.news o placed
  refine ⟨⟨err, failed⟩, ⟨c.answer, placed, news.trans ?_, ?_⟩, ?_⟩
  · cases committed
    decide +kernel
  · rw [stored, ← store]
    cases committed
    decide +kernel
  · rw [log, List.length_append, List.length_map] at single
    have one : said.length = 1 := (Nat.zero_add _).symm.trans single
    rw [log, List.prefix_iff_eq_take.1 part, one]
    rfl

end ClientRequest

end Marketplace
