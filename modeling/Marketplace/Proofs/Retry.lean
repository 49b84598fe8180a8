import Marketplace.Proofs.Batch
import Marketplace.Proofs.Inventory.Store
import Marketplace.Proofs.Orders.Store
import Marketplace.Proofs.Payments.Store
import Marketplace.Proofs.Policy.Cache

/-!
# Handling an event again

A participant commits before it announces, so an attempt to handle an event may fail with its change
made and its batch sent in part. The event is then delivered again. What makes this harmless is that
every store keeps what it answered: an operation that is performed again after its commit finds the
outcome on record, changes nothing and announces the same news. So however many attempts fail,
before the commit or after it, the attempt that succeeds leaves what one undisturbed attempt leaves,
and sends all of what that would have sent.

The identifiers and moments of an undisturbed attempt are those that it draws from its supply; here
it draws from the supply of the attempt that committed. The envelopes of a batch that is sent again
are new.

## Results

* `Operation.Repeatable`: what is asked of an operation, with one lemma for every reaction.
* `Participant.Retried.stage`, `Participant.Retried.sameAttempt`: what failed attempts leave, and
  what the one that succeeds comes to.
* `retries_are_one`: the attempts of the inventory, order and payment services.
-/

namespace Marketplace

/-! ## Stores that can be down -/

/-- A store that answers or is down, apart from its records. -/
class Switched (σ : Type) where
  isDown : σ → Bool
  setDown : Bool → σ → σ
  setDown_isDown : ∀ s, setDown (isDown s) s = s
  setDown_setDown : ∀ b b' s, setDown b (setDown b' s) = setDown b s
  isDown_setDown : ∀ b s, isDown (setDown b s) = b

instance : Switched InventoryStore where
  isDown s := s.isDown
  setDown b s := { s with isDown := b }
  setDown_isDown _ := rfl
  setDown_setDown _ _ _ := rfl
  isDown_setDown _ _ := rfl

instance : Switched OrderStore where
  isDown s := s.isDown
  setDown b s := { s with isDown := b }
  setDown_isDown _ := rfl
  setDown_setDown _ _ _ := rfl
  isDown_setDown _ _ := rfl

instance : Switched PaymentStore where
  isDown s := s.isDown
  setDown b s := { s with isDown := b }
  setDown_isDown _ := rfl
  setDown_setDown _ _ _ := rfl
  isDown_setDown _ _ := rfl

namespace Switched

variable {σ : Type} [Switched σ] {s s' s'' : σ}

/-- The stores hold the same, whether they are up or down. -/
def SameRecords (s s' : σ) : Prop := setDown false s = setDown false s'

theorem SameRecords.refl (s : σ) : SameRecords s s := rfl

theorem SameRecords.trans (h : SameRecords s s') (h' : SameRecords s' s'') : SameRecords s s'' :=
  Eq.trans h h'

theorem SameRecords.symm (h : SameRecords s s') : SameRecords s' s := Eq.symm h

theorem setDown_false_of_up (up : isDown s = false) : setDown false s = s :=
  (congrArg (setDown · s) up.symm).trans (setDown_isDown s)

theorem sameRecords_setDown (b : Bool) (s : σ) : SameRecords (setDown b s) s :=
  setDown_setDown false b s

/-- A store with the same records is the same but for the switch. -/
theorem SameRecords.eq_setDown (h : SameRecords s s') : s = setDown (isDown s) s' :=
  calc
    s = setDown (isDown s) s := (setDown_isDown s).symm
    _ = setDown (isDown s) (setDown false s) := (setDown_setDown _ false s).symm
    _ = setDown (isDown s) (setDown false s') := congrArg _ h
    _ = setDown (isDown s) s' := setDown_setDown _ false s'

theorem SameRecords.eq_of_up (h : SameRecords s s') (up : isDown s = false) :
    s = setDown false s' := by
  rw [h.eq_setDown, up]

end Switched

open Switched

/-! ## Operations that may be repeated -/

/-- An operation that can be performed again after its commit. -/
structure Operation.Repeatable {σ : Type} [Switched σ] (operation : Operation σ Unit) : Prop where
  /-- What it commits does not depend on the switch. -/
  up : ∀ stamp s c, operation stamp s = .ok c → ∃ c', operation stamp (setDown false s) = .ok c' ∧
    SameRecords c'.store c.store ∧ c'.news = c.news
  /-- Again it changes nothing and has the same news. -/
  again : ∀ stamp stamp' s c b c', operation stamp s = .ok c →
    operation stamp' (setDown b c.store) = .ok c' →
    c'.store = setDown b c.store ∧ c'.news = c.news

namespace Operation

variable {σ : Type} [Switched σ] {operation : Operation σ Unit}

/-- An operation that succeeds only while its store is up. -/
theorem up_of_needs (needs : ∀ stamp s c, operation stamp s = .ok c → isDown s = false)
    (stamp : Stamp) (s : σ) (c : Commit σ Unit) (h : operation stamp s = .ok c) :
    ∃ c', operation stamp (setDown false s) = .ok c' ∧ SameRecords c'.store c.store ∧
      c'.news = c.news := by
  rw [setDown_false_of_up (needs stamp s c h)]
  exact ⟨c, h, .refl _, rfl⟩

end Operation

/-- Every call of a store checks first whether it is up. -/
theorem up_of_call {β γ : Type} {isDown : Bool} {e : ServiceError}
    {call : Unit → Except ServiceError β} {rest : β → Except ServiceError γ} {c : γ}
    (h : ((if isDown then .error e else .ok ()) >>= call) >>= rest = .ok c) : isDown = false := by
  obtain ⟨_, called, _⟩ := bind_eq_ok.1 h
  obtain ⟨_, checked, _⟩ := bind_eq_ok.1 called
  cases isDown with
  | false => rfl
  | true => cases checked

/-! ### The inventory service -/

namespace Inventory

theorem greet_repeatable (account : AccountId) (role : Role) : (greet account role).Repeatable := by
  constructor
  · intro stamp s c h
    cases h
    exact ⟨_, rfl, sameRecords_setDown false s, rfl⟩
  · intro stamp stamp' s c b c' h h'
    cases h
    cases h'
    exact ⟨rfl, rfl⟩

/-- The hold that answered the request answers it again. -/
theorem reserve_repeatable (order : OrderCreated) : (reserve order).Repeatable := by
  constructor
  · exact Operation.up_of_needs fun _ _ _ h => up_of_call h
  · intro stamp stamp' s c b c' h h'
    obtain ⟨⟨a, s₁⟩, answered, h⟩ := bind_eq_ok.1 h
    cases h
    obtain ⟨⟨a', s₂⟩, answered', h'⟩ := bind_eq_ok.1 h'
    cases h'
    obtain ⟨hold, hh, same⟩ := InventoryStore.repeated_of_reserve answered
    rcases InventoryStore.reserve_eq_ok answered' with ⟨hold', hh', rfl, rfl⟩ | ⟨none, _⟩
    · cases hh.symm.trans hh'
      have answer : (setDown b s₁).repeated order.order hold = a := same
      exact ⟨rfl, by dsimp only; rw [answer]⟩
    · cases hh.symm.trans none

/-- The record of a hold is gone when it has ended. -/
theorem close_repeatable (payment : PaymentProcessed) : (close payment).Repeatable := by
  constructor
  · refine Operation.up_of_needs ?_
    intro stamp s c h
    unfold close at h
    split at h <;> exact up_of_call h
  · intro stamp stamp' s c b c' h h'
    unfold close at h h'
    cases status : payment.status with
    | successful =>
      rw [status] at h h'
      obtain ⟨⟨a, s₁⟩, ended, h⟩ := bind_eq_ok.1 h
      cases h
      obtain ⟨⟨a', s₂⟩, ended', h'⟩ := bind_eq_ok.1 h'
      cases h'
      have gone := InventoryStore.reserved_of_consume ended
      rcases InventoryStore.settle_cases (InventoryStore.consume_eq_ok ended') with
        ⟨_, _, rfl⟩ | ⟨_, there, _, _⟩
      · exact ⟨rfl, rfl⟩
      · cases gone.symm.trans there
    | failed =>
      rw [status] at h h'
      obtain ⟨⟨a, s₁⟩, ended, h⟩ := bind_eq_ok.1 h
      cases h
      obtain ⟨⟨a', s₂⟩, ended', h'⟩ := bind_eq_ok.1 h'
      cases h'
      have gone := InventoryStore.reserved_of_giveBack ended
      rcases InventoryStore.giveBack_eq_ok ended' with ⟨_, _, rfl⟩ | ⟨_, there, _, _⟩
      · exact ⟨rfl, rfl⟩
      · cases gone.symm.trans there

end Inventory

/-! ### The order service -/

namespace Orders

theorem greet_repeatable (account : AccountId) (role : Role) : (greet account role).Repeatable := by
  constructor
  · intro stamp s c h
    cases h
    exact ⟨_, rfl, sameRecords_setDown false s, rfl⟩
  · intro stamp stamp' s c b c' h h'
    cases h
    cases h'
    exact ⟨rfl, rfl⟩

/-- After a wish to move, the order cannot move there. -/
theorem not_canMoveTo_of_move {id : OrderId} {status : OrderStatus} {stamp : Stamp}
    {s : OrderStore} {c : Commit OrderStore Unit} (hc : move id status stamp s = .ok c) {o : Order}
    (ho : c.store.orders.get? id = some o) : o.status.canMoveTo status = false := by
  obtain ⟨_, o', ho', ⟨_, moved⟩ | ⟨stays, same⟩⟩ := move_eq_ok hc
  · rw [moved] at ho
    cases (Table.get?_put_self _ _ _).symm.trans ho
    exact decide_eq_false (Nat.lt_irrefl _)
  · rw [same] at ho
    cases ho'.symm.trans ho
    exact stays

/-- The order is where it was wanted, or past it. -/
theorem move_repeatable (id : OrderId) (status : OrderStatus) : (move id status).Repeatable := by
  constructor
  · exact Operation.up_of_needs fun _ _ _ h => up_of_call h
  · intro stamp stamp' s c b c' h h'
    obtain ⟨news, _⟩ := move_eq_ok h
    obtain ⟨news', o, ho, ⟨moves, _⟩ | ⟨_, same⟩⟩ := move_eq_ok h'
    · cases (not_canMoveTo_of_move h ho).symm.trans moves
    · exact ⟨same, news'.trans news.symm⟩

end Orders

/-! ### The payment service -/

namespace Payments

/-- The wallet that was opened is there. -/
theorem greet_repeatable (initial : Money) (account : AccountId) (role : Role) :
    (greet initial account role).Repeatable := by
  constructor
  · exact Operation.up_of_needs fun _ _ _ h => up_of_call h
  · intro stamp stamp' s c b c' h h'
    obtain ⟨⟨w, s₁⟩, opened, h⟩ := bind_eq_ok.1 h
    cases h
    obtain ⟨⟨w', s₂⟩, opened', h'⟩ := bind_eq_ok.1 h'
    cases h'
    have there : s₁.wallets.get? account = some w := by
      rcases PaymentStore.openWallet_eq_ok opened with ⟨had, rfl⟩ | ⟨_, rfl, rfl⟩
      · exact had
      · exact Table.get?_put_self _ _ _
    rcases PaymentStore.openWallet_eq_ok opened' with ⟨_, rfl⟩ | ⟨none, _, _⟩
    · exact ⟨rfl, rfl⟩
    · cases there.symm.trans none

/-- The outcome of the charge is on record. -/
theorem charge_repeatable (reserved : ProductReserved) : (charge reserved).Repeatable := by
  constructor
  · exact Operation.up_of_needs fun _ _ _ h => up_of_call h
  · intro stamp stamp' s c b c' h h'
    obtain ⟨⟨x, s₁⟩, charged, h⟩ := bind_eq_ok.1 h
    cases h
    obtain ⟨⟨x', s₂⟩, charged', h'⟩ := bind_eq_ok.1 h'
    cases h'
    have recorded : s₁.debits.get? reserved.order = some x := by
      rcases PaymentStore.charge_eq_ok charged with ⟨had, rfl⟩ | ⟨_, new⟩
      · exact had
      · rcases PaymentStore.chargeNew_cases new with
          ⟨_, rfl⟩ | ⟨_, _, _, _, _, _, rfl, rfl⟩
        · exact Table.get?_put_self _ _ _
        · exact Table.get?_put_self _ _ _
    rcases PaymentStore.charge_eq_ok charged' with ⟨had, rfl⟩ | ⟨none, _⟩
    · cases recorded.symm.trans had
      exact ⟨rfl, rfl⟩
    · cases recorded.symm.trans none

end Payments

/-! ## Attempts -/

namespace Participant

variable {σ : Type} {p : Participant σ} {g : Grants} {correlation : String} {payload : Payload}
  {s : σ} {d u : Desk σ}

theorem handle_of_perform (g : Grants) (correlation : String) {operation : Operation σ Unit}
    (reaction : p.react payload = some (.perform operation)) (d : Desk σ) :
    p.handle g correlation payload d = p.perform correlation operation d ∧
      p.handled correlation payload d = p.performed correlation operation d := by
  unfold handle handled
  rw [reaction]
  exact ⟨rfl, rfl⟩

/-- A change of a grant that the cache has no use for is no failure, and there is no other. -/
theorem patch_eq_ok (p : Participant σ) (g : Grants) (method : PolicyMethod) (target : Grant)
    (d : Desk σ) : (p.patch g method target d).1 = .ok () := by
  unfold patch
  cases hu : d.cache.update (p.cacheSettings g) d.outlet.bus.now method target with
  | ok cache => rfl
  | error e =>
    rcases GrantCache.update_eq_error_iff.1 hu with ⟨_, rfl⟩ | ⟨_, _, rfl⟩ <;> rfl

/-- An event that asks for no operation succeeds, and changes and publishes nothing. -/
theorem handle_of_idle (g : Grants) (correlation : String)
    (idle : ∀ operation, p.react payload ≠ some (.perform operation)) (d : Desk σ) :
    (p.handle g correlation payload d).1 = .ok () ∧
      (p.handle g correlation payload d).2.store = d.store ∧
      p.handled correlation payload d = [] := by
  unfold handle handled
  cases reaction : p.react payload with
  | none => exact ⟨rfl, rfl, rfl⟩
  | some r =>
    cases r with
    | patch method target =>
      exact ⟨patch_eq_ok p g method target d, (patch_cases p g method target d).1, rfl⟩
    | perform operation => exact (idle operation reaction).elim

variable [Switched σ]

/-- Failed attempts to handle an event, and the desk at which the next one is made. Between two
attempts everything but the records may change: the store goes down and up, the bus fails elsewhere,
identifiers and moments are drawn for others. -/
inductive Retried (p : Participant σ) (g : Grants) (correlation : String) (payload : Payload)
    (s : σ) : Desk σ → Prop
  | first (d : Desk σ) (same : SameRecords d.store s) : Retried p g correlation payload s d
  | again (d d' : Desk σ) (before : Retried p g correlation payload s d)
    (failed : ∃ e, (p.handle g correlation payload d).1 = .error e)
    (same : SameRecords d'.store (p.handle g correlation payload d).2.store) :
    Retried p g correlation payload s d'

/-- Nothing disturbs an attempt: the store is up and the bus takes everything. -/
structure Undisturbed (s : σ) (u : Desk σ) : Prop where
  records : SameRecords u.store s
  up : isDown u.store = false
  calm : u.outlet.bus.IsCalm

/-- There is such an attempt for all records, whatever identifiers and moments it draws. -/
theorem exists_undisturbed (s : σ) (supply : Supply) :
    ∃ u : Desk σ, Undisturbed s u ∧ u.supply = supply :=
  ⟨⟨setDown false s, .empty, .new Bus.standardSettings, supply⟩,
    ⟨sameRecords_setDown false s, isDown_setDown false s, ⟨rfl, rfl⟩⟩, rfl⟩

/-- The attempt at one desk succeeds as the one at the other does: the records afterwards are the
same, and so is what is published, but for the identifiers and moments on the envelopes. -/
structure SameAttempt (p : Participant σ) (g : Grants) (correlation : String) (payload : Payload)
    (d u : Desk σ) : Prop where
  succeeds : (p.handle g correlation payload u).1 = .ok ()
  records : SameRecords (p.handle g correlation payload d).2.store
    (p.handle g correlation payload u).2.store
  log : (p.handle g correlation payload d).2.outlet.bus.log =
    d.outlet.bus.log ++ (p.handled correlation payload d).map Event.post
  log' : (p.handle g correlation payload u).2.outlet.bus.log =
    u.outlet.bus.log ++ (p.handled correlation payload u).map Event.post
  published : ∀ stamp, (p.handled correlation payload d).map (Event.restamp stamp) =
    (p.handled correlation payload u).map (Event.restamp stamp)

/-- However many attempts to handle an event fail, the one that succeeds comes to the same as an
undisturbed one from the records before the first. -/
def RetriesAreOne (p : Participant σ) : Prop :=
  ∀ (g : Grants) (correlation : String) (payload : Payload) (s : σ) (d : Desk σ),
    Retried p g correlation payload s d → (p.handle g correlation payload d).1 = .ok () →
    ∃ supply, ∀ u, Undisturbed s u → u.supply = supply → SameAttempt p g correlation payload d u

/-- What attempts may leave of the records: nothing is changed, or the operation is committed. -/
def Stage (operation : Operation σ Unit) (s s' : σ) : Prop :=
  SameRecords s' s ∨ ∃ supply s₀ c, SameRecords s₀ s ∧
    operation (Supply.stamp supply).1 s₀ = .ok c ∧ SameRecords s' c.store

/-- A commit after some attempts is one of the first records, or repeats one. -/
theorem Stage.commit {operation : Operation σ Unit} (repeatable : operation.Repeatable) {s' : σ}
    (stage : Stage operation s s') {supply : Supply} {c : Commit σ Unit}
    (hc : operation supply.stamp.1 s' = .ok c) :
    ∃ supply' s₀ c₀, SameRecords s₀ s ∧ operation (Supply.stamp supply').1 s₀ = .ok c₀ ∧
      SameRecords c.store c₀.store ∧ c.news = c₀.news := by
  rcases stage with same | ⟨supply', s₀, c₀, from_s, hc₀, same⟩
  · exact ⟨supply, s', c, same, hc, .refl _, rfl⟩
  · rw [same.eq_setDown] at hc
    obtain ⟨store, news⟩ := repeatable.again _ _ _ _ _ _ hc₀ hc
    refine ⟨supply', s₀, c₀, from_s, hc₀, ?_, news⟩
    rw [store]
    exact sameRecords_setDown _ _

/-- **Failed attempts** leave the records as they were, or as a commit of them left them. -/
theorem Retried.stage {operation : Operation σ Unit} (repeatable : operation.Repeatable)
    (reaction : p.react payload = some (.perform operation))
    (h : Retried p g correlation payload s d) : Stage operation s d.store := by
  induction h with
  | first d same => exact .inl same
  | again d d' before failed same stage =>
    rw [(handle_of_perform g correlation reaction d).1] at same
    cases hc : operation d.supply.stamp.1 d.store with
    | error e =>
      -- nothing happened
      rw [(perform_of_error p correlation hc).2.1] at same
      rcases stage with before | ⟨supply, s₀, c, from_s, hc, before⟩
      · exact .inl (same.trans before)
      · exact .inr ⟨supply, s₀, c, from_s, hc, same.trans before⟩
    | ok c =>
      rw [(perform_outcome p correlation operation d).eq_commit hc] at same
      obtain ⟨supply, s₀, c₀, from_s, hc₀, store, _⟩ := stage.commit repeatable hc
      exact .inr ⟨supply, s₀, c₀, from_s, hc₀, same.trans store⟩

/-- **The attempt that succeeds** has a commit of the first records. -/
theorem Retried.sameAttempt {operation : Operation σ Unit} (repeatable : operation.Repeatable)
    (reaction : p.react payload = some (.perform operation))
    (h : Retried p g correlation payload s d)
    (ok : (p.handle g correlation payload d).1 = .ok ()) :
    ∃ supply, ∀ u, Undisturbed s u → u.supply = supply →
      SameAttempt p g correlation payload d u := by
  obtain ⟨handle_d, handled_d⟩ := handle_of_perform g correlation reaction d
  rw [handle_d] at ok
  obtain ⟨c, hc, _, store, all⟩ := performed_eq_batch ok
  obtain ⟨supply, s₀, c₀, from_s, hc₀, same, news⟩ :=
    (h.stage repeatable reaction).commit repeatable hc
  refine ⟨supply, ?_⟩
  rintro u ⟨records, up, calm⟩ rfl
  obtain ⟨handle_u, handled_u⟩ := handle_of_perform g correlation reaction u
  obtain ⟨c₁, hc₁, same₁, news₁⟩ := repeatable.up _ _ _ hc₀
  rw [← (records.trans from_s.symm).eq_of_up up] at hc₁
  obtain ⟨succeeds, store₁, all₁⟩ := perform_of_calm p correlation calm hc₁
  refine ⟨?_, ?_, p.log_handle g correlation payload d, p.log_handle g correlation payload u, ?_⟩
  · rw [handle_u, succeeds]
  · rw [handle_d, handle_u, store, store₁]
    exact same.trans same₁.symm
  · intro stamp
    rw [handled_d, handled_u, all, all₁, map_restamp_batch stamp hc hc₁ (news₁.trans news.symm)]

/-- An event that asks for no operation is handled at the first attempt. -/
theorem Retried.sameAttempt_of_idle
    (idle : ∀ operation, p.react payload ≠ some (.perform operation))
    (h : Retried p g correlation payload s d) (records : SameRecords u.store s) :
    SameAttempt p g correlation payload d u := by
  obtain ⟨_, store, nothing⟩ := handle_of_idle g correlation idle d
  obtain ⟨succeeds, store', nothing'⟩ := handle_of_idle g correlation idle u
  have untouched : SameRecords d.store s := by
    cases h with
    | first _ same => exact same
    | again d₀ _ before failed same =>
      obtain ⟨e, failed⟩ := failed
      cases (handle_of_idle g correlation idle d₀).1.symm.trans failed
  refine ⟨succeeds, ?_, p.log_handle g correlation payload d, p.log_handle g correlation payload u,
    fun _ => ?_⟩
  · rw [store, store']
    exact untouched.trans records.symm
  · rw [nothing, nothing']

/-- Retries come to one attempt where every operation that an event asks for may be repeated. -/
theorem retriesAreOne_of_repeatable
    (repeatable : ∀ payload operation, p.react payload = some (.perform operation) →
      operation.Repeatable) : p.RetriesAreOne := by
  intro g correlation payload s d h ok
  rcases p.handle_outcome g correlation payload d with ⟨idle, _⟩ | ⟨operation, reaction, _⟩
  · exact ⟨d.supply, fun u undisturbed _ => h.sameAttempt_of_idle idle undisturbed.records⟩
  · exact h.sameAttempt (repeatable payload operation reaction) reaction ok

end Participant

/-- **Handling an event again and again comes to handling it once**, for the three services that
commit before they announce: from all records, for all events, however many attempts fail before the
commit or after it. -/
theorem retries_are_one :
    Inventory.participant.RetriesAreOne ∧ Orders.participant.RetriesAreOne ∧
      ∀ initial, (Payments.participant initial).RetriesAreOne := by
  refine ⟨Participant.retriesAreOne_of_repeatable ?_, Participant.retriesAreOne_of_repeatable ?_,
    fun initial => Participant.retriesAreOne_of_repeatable ?_⟩
  · intro payload operation reaction
    cases payload with
    | accountCreated account role =>
      cases reaction
      exact Inventory.greet_repeatable account role
    | orderCreated order =>
      cases reaction
      exact Inventory.reserve_repeatable order
    | payment payment =>
      cases reaction
      exact Inventory.close_repeatable payment
    | _ => cases reaction
  · intro payload operation reaction
    cases payload with
    | accountCreated account role =>
      cases reaction
      exact Orders.greet_repeatable account role
    | productReserved reserved =>
      cases reaction
      exact Orders.move_repeatable reserved.order .paymentPending
    | reservationFailed failure =>
      cases reaction
      exact Orders.move_repeatable failure.order .productOutOfStock
    | payment payment =>
      cases reaction
      exact Orders.move_repeatable payment.order (Orders.paymentStatus payment.status)
    | _ => cases reaction
  · intro payload operation reaction
    cases payload with
    | accountCreated account role =>
      cases reaction
      exact Payments.greet_repeatable initial account role
    | productReserved reserved =>
      cases reaction
      exact Payments.charge_repeatable reserved
    | _ => cases reaction

/-! ## An order that is announced at the third attempt -/

namespace Inventory

/-- One product with ten pieces. -/
def sampleStock : InventoryStore :=
  { InventoryStore.empty with
    products := Table.empty.put ⟨.ofNat 7⟩
      ⟨⟨.ofNat 7⟩, ⟨.ofNat 1⟩, "mug", .ofUnits 2, 10, ⟨0⟩⟩ }

/-- An order of three of them. -/
def sampleOrder : Payload := .orderCreated ⟨⟨.ofNat 11⟩, "pending", ⟨3⟩, ⟨.ofNat 7⟩, 3⟩

def sampleGrants : Grants := ⟨60000, 1000, fun _ _ => .ok []⟩

/-- The desk of the service with a bus that fails at some call to publish. -/
def sampleDesk (store : InventoryStore) (failOn : Option Nat) (minted : Nat) :
    Desk InventoryStore where
  store := store
  cache := .empty
  outlet := ⟨{ Bus.new Bus.standardSettings with failOn := failOn }, .empty⟩
  supply := ⟨⟨0⟩, minted⟩

/-- The desk of the first attempt: the stock is held, and the bus fails. -/
def cutDesk : Desk InventoryStore := sampleDesk sampleStock (some 1) 0

/-- The desk of the second attempt: the store is down. -/
def downDesk : Desk InventoryStore :=
  sampleDesk { (participant.handle sampleGrants "request" sampleOrder cutDesk).2.store with
    isDown := true } none 20

/-- The desk of the third attempt. -/
def lastDesk : Desk InventoryStore :=
  sampleDesk (participant.handle sampleGrants "request" sampleOrder cutDesk).2.store none 40

end Inventory

open Inventory in
theorem retries_are_one_of_lastDesk :
    Participant.Retried participant sampleGrants "request" sampleOrder sampleStock lastDesk ∧
    (participant.handle sampleGrants "request" sampleOrder lastDesk).1 = .ok () ∧
    (participant.handle sampleGrants "request" sampleOrder lastDesk).2.outlet.bus.log.length = 1 ∧
    ∃ supply, ∀ u, Participant.Undisturbed sampleStock u → u.supply = supply →
      Participant.SameAttempt participant sampleGrants "request" sampleOrder lastDesk u := by
  have retried : Participant.Retried participant sampleGrants "request" sampleOrder sampleStock
      lastDesk :=
    have cut : Participant.Retried participant sampleGrants "request" sampleOrder sampleStock
        downDesk := .again cutDesk downDesk (.first cutDesk rfl) ⟨_, rfl⟩ rfl
    .again downDesk lastDesk cut ⟨_, rfl⟩ rfl
  have ok : (participant.handle sampleGrants "request" sampleOrder lastDesk).1 = .ok () := rfl
  exact ⟨retried, ok, rfl, retries_are_one.1 _ _ _ _ _ retried ok⟩

end Marketplace
