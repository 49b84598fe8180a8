import Marketplace.Proofs.Orders.Store
import Marketplace.Proofs.Table

/-!
# What decides the status of an order

An order moves to higher ranks only, and nothing outranks a final status. So the first final status
that is asked for stays, and as long as there is none it only matters whether the payment was ever
waited for. The wishes to move an order come from three services in any order and more than once,
and this is why that does no harm: where all of them agree on how the order ends, their order and
their number do not show in its status.

A run is any list of calls, on this order and on others, with the store down or up in between. Calls
that only read are left out, since they have no store to return.

## Results

* `OrderStatus.foldl_advanced`: one wish after the other comes to `OrderStatus.decided`.
* `OrderStore.reported`: what one wish does to the store, and what it is answered.
* `OrderStore.statuses_decided`: the status after every run, and what each of its calls did.
-/

namespace Marketplace

namespace OrderStatus

variable {s next : OrderStatus} {asked : List OrderStatus}

/-- The status after a wish to move. -/
def advanced (s next : OrderStatus) : OrderStatus := if s.canMoveTo next then next else s

/-- What the wishes to move a new order come to: the first final status among them, else whether the
payment was waited for. -/
def decided (asked : List OrderStatus) : OrderStatus :=
  match asked.find? isFinal with
  | some s => s
  | none => if paymentPending ∈ asked then paymentPending else pending

theorem rank_le_advanced (s next : OrderStatus) : s.rank ≤ (s.advanced next).rank := by
  unfold advanced canMoveTo
  split
  · rename_i higher
    exact Nat.le_of_lt (of_decide_eq_true higher)
  · exact Nat.le_refl s.rank

theorem rank_le_foldl : ∀ (asked : List OrderStatus) (s : OrderStatus),
    s.rank ≤ (asked.foldl advanced s).rank
  | [], s => Nat.le_refl s.rank
  | next :: asked, s =>
    Nat.le_trans (rank_le_advanced s next) (rank_le_foldl asked (s.advanced next))

theorem advanced_of_isFinal (h : s.isFinal = true) (next : OrderStatus) : s.advanced next = s := by
  unfold advanced
  rw [not_canMoveTo_of_isFinal h]
  rfl

theorem foldl_of_isFinal (h : s.isFinal = true) : ∀ asked : List OrderStatus,
    asked.foldl advanced s = s
  | [] => rfl
  | next :: asked => by
    rw [List.foldl_cons, advanced_of_isFinal h]
    exact foldl_of_isFinal h asked

theorem advanced_final (h : s.isFinal = false) (final : next.isFinal = true) :
    s.advanced next = next := by
  unfold advanced canMoveTo
  have top : next.rank = 2 := beq_iff_eq.1 final
  have below : s.rank < 2 := by cases s <;> first | decide | cases h
  rw [top, decide_eq_true below]
  rfl

/-- While the payment is waited for, only a final status makes a difference. -/
theorem foldl_paymentPending : ∀ asked : List OrderStatus,
    asked.foldl advanced paymentPending = (asked.find? isFinal).getD paymentPending
  | [] => rfl
  | next :: asked => by
    rw [List.foldl_cons, List.find?_cons]
    cases final : next.isFinal with
    | true =>
      rw [advanced_final rfl final, foldl_of_isFinal final]
      rfl
    | false =>
      have stays : paymentPending.advanced next = paymentPending := by
        cases next with
        | pending => rfl
        | paymentPending => rfl
        | _ => cases final
      rw [stays, foldl_paymentPending asked]

/-- **One wish after the other** moves a new order to what all of them decide. -/
theorem foldl_advanced : ∀ asked : List OrderStatus, asked.foldl advanced pending = decided asked
  | [] => rfl
  | next :: asked => by
    have ih := foldl_advanced asked
    rw [List.foldl_cons]
    cases final : next.isFinal with
    | true =>
      rw [advanced_final rfl final, foldl_of_isFinal final]
      unfold decided
      rw [List.find?_cons, final]
    | false =>
      -- a status that is not final is the first or the second
      cases next with
      | pending =>
        rw [show pending.advanced pending = pending from rfl, ih]
        unfold decided
        rw [List.find?_cons, final]
        simp
      | paymentPending =>
        rw [show pending.advanced paymentPending = paymentPending from rfl, foldl_paymentPending]
        unfold decided
        rw [List.find?_cons, final]
        cases asked.find? isFinal <;> simp
      | _ => cases final

/-- The wishes decide the same in any order and number, if they agree on the end. -/
theorem decided_congr {others : List OrderStatus} (same : ∀ s, s ∈ others ↔ s ∈ asked)
    (agree : ∀ s ∈ asked, ∀ t ∈ asked, s.isFinal = true → t.isFinal = true → s = t) :
    decided others = decided asked := by
  unfold decided
  cases own : asked.find? isFinal with
  | none =>
    have none_final : others.find? isFinal = none := by
      rw [List.find?_eq_none] at own ⊢
      exact fun s hs => own s ((same s).1 hs)
    rw [none_final]
    simp only [same]
  | some s =>
    obtain ⟨t, ht⟩ : ∃ t, others.find? isFinal = some t := by
      apply Option.isSome_iff_exists.1
      rw [List.find?_isSome]
      exact ⟨s, (same s).2 (List.mem_of_find?_eq_some own), List.find?_some own⟩
    rw [ht]
    exact agree t ((same t).1 (List.mem_of_find?_eq_some ht)) s (List.mem_of_find?_eq_some own)
      (List.find?_some ht) (List.find?_some own)

end OrderStatus

/-- A call that may change the order store. -/
inductive OrderCall where
  | create (o : Order)
  | updateStatus (id : OrderId) (status : OrderStatus) (time : Instant)
  /-- The store becomes unreachable, or reachable again. -/
  | setDown (isDown : Bool)

namespace OrderStore

/-- The store after one more call; a call that fails changes nothing. -/
def next (s : OrderStore) : OrderCall → OrderStore
  | .create o =>
    match s.create o with
    | .ok (_, s) => s
    | .error _ => s
  | .updateStatus id status time =>
    match s.updateStatus id status time with
    | .ok (_, s) => s
    | .error _ => s
  | .setDown isDown => { s with isDown := isDown }

/-- The store after a list of calls. -/
def after (s : OrderStore) (calls : List OrderCall) : OrderStore := calls.foldl next s

/-- The statuses that were asked for an order while the store was up, in order. -/
def asked (id : OrderId) : (isDown : Bool) → List OrderCall → List OrderStatus
  | _, [] => []
  | isDown, .create _ :: calls => asked id isDown calls
  | isDown, .updateStatus j status _ :: calls =>
    if j = id ∧ isDown = false then status :: asked id isDown calls else asked id isDown calls
  | _, .setDown isDown :: calls => asked id isDown calls

/-- The status of an order, if it is stored. -/
def statusOf (s : OrderStore) (id : OrderId) : Option OrderStatus :=
  (s.orders.get? id).map Order.status

/-- What a wish to move an order comes to in a store: the order before and after it, and what the
store answers. -/
structure Reported (s : OrderStore) (id : OrderId) (status : OrderStatus) (time : Instant)
    (o o' : Order) : Prop where
  before : s.orders.get? id = some o
  after : (s.next (.updateStatus id status time)).orders.get? id = some o'
  /-- The store says that the order moved, and from where to where, exactly when it did. -/
  applied : ∀ source target,
    (∃ s', s.updateStatus id status time = .ok (some (.applied source target), s')) ↔
      o'.status ≠ o.status ∧ source = o.status ∧ target = o'.status
  /-- An order that moved has the moment of the call. -/
  stamped : o'.status ≠ o.status → o'.updatedAt = time
  /-- An order that did not move is as it was. -/
  kept : o'.status = o.status → o' = o
  /-- If the clock does not read the moment that the order has already, which it does not promise,
  the moment changes exactly with the status. -/
  dated : time ≠ o.updatedAt → (o'.updatedAt ≠ o.updatedAt ↔ o'.status ≠ o.status)
  /-- Nothing else changes about the order. -/
  fields : o' = { o with status := o'.status, updatedAt := o'.updatedAt }
  others : ∀ j, j ≠ id →
    (s.next (.updateStatus id status time)).orders.get? j = s.orders.get? j

/-- How the status of an order comes about in some calls from a store on. -/
structure StatusDecided (s : OrderStore) (id : OrderId) (calls : List OrderCall) : Prop where
  status : (s.after calls).statusOf id = some (.decided (asked id s.isDown calls))
  /-- Calls that ask for the same statuses, of which one at most is final, come to the same. -/
  unordered : ∀ calls',
    (∀ x, x ∈ asked id s.isDown calls' ↔ x ∈ asked id s.isDown calls) →
    (∀ x ∈ asked id s.isDown calls, ∀ y ∈ asked id s.isDown calls,
      x.isFinal = true → y.isFinal = true → x = y) →
    (s.after calls').statusOf id = (s.after calls).statusOf id
  /-- The order never falls back. -/
  rank : ∀ earlier later x y, calls = earlier ++ later →
    (s.after earlier).statusOf id = some x → (s.after calls).statusOf id = some y →
    x.rank ≤ y.rank
  reports : ∀ earlier status time later,
    calls = earlier ++ .updateStatus id status time :: later →
    ∃ o o', Reported (s.after earlier) id status time o o'
  /-- No other call touches the order. -/
  untouched : ∀ earlier c later, calls = earlier ++ c :: later →
    (∀ status time, c ≠ .updateStatus id status time) →
    (s.after (earlier ++ [c])).orders.get? id = (s.after earlier).orders.get? id

variable {s : OrderStore} {id : OrderId} {o : Order} {status : OrderStatus} {time : Instant}

/-! ## One call -/

/-- What a wish leaves of an order that is stored while the store is up. -/
def movedTo (status : OrderStatus) (time : Instant) (o : Order) : Order :=
  if o.status.canMoveTo status then { o with status := status, updatedAt := time } else o

theorem status_movedTo : (movedTo status time o).status = o.status.advanced status := by
  unfold movedTo OrderStatus.advanced
  split <;> rfl

/-- An order that moves gets another status. -/
theorem status_movedTo_ne_iff :
    (movedTo status time o).status ≠ o.status ↔ o.status.canMoveTo status = true := by
  unfold movedTo
  split
  · rename_i moves
    refine iff_of_true (fun same => ?_) moves
    have higher : o.status.rank < status.rank := of_decide_eq_true moves
    rw [← same] at higher
    exact Nat.lt_irrefl _ higher
  · rename_i stays
    exact iff_of_false (fun other => other rfl) stays

theorem updateStatus_of_down (down : s.isDown = true) :
    s.updateStatus id status time = .error (.storeUnavailable "order store") := by
  unfold updateStatus check
  rw [down]
  rfl

theorem updateStatus_of_stored (up : s.isDown = false) (stored : s.orders.get? id = some o) :
    s.updateStatus id status time =
      if o.status.canMoveTo status then
        .ok (some (.applied o.status status), { s with
          orders := s.orders.put id { o with status := status, updatedAt := time } })
      else .ok (some (.ignored o.status), s) := by
  unfold updateStatus check
  rw [up, stored]
  rfl

theorem updateStatus_of_unknown (up : s.isDown = false) (unknown : s.orders.get? id = none) :
    s.updateStatus id status time = .ok (none, s) := by
  unfold updateStatus check
  rw [up, unknown]
  rfl

theorem next_of_down (down : s.isDown = true) : s.next (.updateStatus id status time) = s := by
  simp only [next]
  rw [updateStatus_of_down down]

/-- **A wish that the store is up for** moves the order, as far as its rank lets it. -/
theorem get?_next_of_up (up : s.isDown = false) (stored : s.orders.get? id = some o) :
    (s.next (.updateStatus id status time)).orders.get? id = some (movedTo status time o) := by
  simp only [next]
  rw [updateStatus_of_stored up stored]
  unfold movedTo
  cases o.status.canMoveTo status with
  | true => exact Table.get?_put_self _ _ _
  | false => exact stored

/-- A wish concerns no order but its own. -/
theorem get?_next_of_ne {j : OrderId} (hj : j ≠ id) :
    (s.next (.updateStatus id status time)).orders.get? j = s.orders.get? j := by
  cases down : s.isDown with
  | true => rw [next_of_down down]
  | false =>
    simp only [next]
    cases stored : s.orders.get? id with
    | none => rw [updateStatus_of_unknown down stored]
    | some o =>
      rw [updateStatus_of_stored down stored]
      cases o.status.canMoveTo status with
      | true => exact Table.get?_put_of_ne hj
      | false => rfl

theorem isDown_next_updateStatus :
    (s.next (.updateStatus id status time)).isDown = s.isDown := by
  cases down : s.isDown with
  | true => rw [next_of_down down, down]
  | false =>
    simp only [next]
    cases stored : s.orders.get? id with
    | none =>
      rw [updateStatus_of_unknown down stored]
      exact down
    | some o =>
      rw [updateStatus_of_stored down stored]
      cases o.status.canMoveTo status <;> exact down

/-- An order that is stored is not replaced, and a new one does not touch it. -/
theorem get?_next_create (stored : s.orders.get? id = some o) (new : Order) :
    (s.next (.create new)).orders.get? id = some o ∧ (s.next (.create new)).isDown = s.isDown := by
  simp only [next]
  split
  · rename_i hs
    obtain ⟨first, _, rfl⟩ := create_eq_ok hs
    exact ⟨Table.get?_put_of_none first stored, rfl⟩
  · exact ⟨stored, rfl⟩

/-- **What a wish does to an order that is stored**, and what it is answered. -/
theorem reported (stored : s.orders.get? id = some o) (status : OrderStatus) (time : Instant) :
    ∃ o', Reported s id status time o o' := by
  cases down : s.isDown with
  | true =>
    refine ⟨o, stored, ?_, ?_, fun moved => (moved rfl).elim, fun _ => rfl, ?_, rfl,
      fun _ hj => get?_next_of_ne hj⟩
    · rw [next_of_down down, stored]
    · intro source target
      rw [updateStatus_of_down down]
      exact iff_of_false (fun ⟨_, h⟩ => nomatch h) fun h => h.1 rfl
    · exact fun _ => iff_of_false (fun h => h rfl) fun h => h rfl
  | false =>
    have moves : (movedTo status time o).status ≠ o.status ↔ o.status.canMoveTo status = true :=
      status_movedTo_ne_iff
    refine ⟨movedTo status time o, stored, get?_next_of_up down stored, ?_, ?_, ?_, ?_, ?_,
      fun _ hj => get?_next_of_ne hj⟩
    · intro source target
      rw [updateStatus_of_stored down stored, moves]
      unfold movedTo
      cases o.status.canMoveTo status with
      | true => simp [eq_comm]
      | false => simp
    · rw [moves]
      intro higher
      unfold movedTo
      rw [if_pos higher]
    · intro same
      have stays := mt moves.2 (not_not_intro same)
      unfold movedTo
      rw [if_neg stays]
    · intro other
      rw [moves]
      unfold movedTo
      cases o.status.canMoveTo status with
      | true => simpa using other
      | false => simp
    · unfold movedTo
      cases o.status.canMoveTo status <;> rfl

/-! ## Runs -/

theorem after_cons (s : OrderStore) (c : OrderCall) (calls : List OrderCall) :
    s.after (c :: calls) = (s.next c).after calls :=
  rfl

theorem after_concat (s : OrderStore) (calls : List OrderCall) (c : OrderCall) :
    s.after (calls ++ [c]) = (s.after calls).next c := by
  unfold after
  rw [List.foldl_append]
  rfl

theorem statusOf_of_stored (stored : s.orders.get? id = some o) :
    s.statusOf id = some o.status := by
  unfold statusOf
  rw [stored]
  rfl

/-- A wish moves the order that it is about, if the store is up, and no other. -/
theorem statusOf_next {x : OrderStatus} (hx : s.statusOf id = some x) (j : OrderId)
    (status : OrderStatus) (time : Instant) :
    (s.next (.updateStatus j status time)).statusOf id =
      some (if j = id ∧ s.isDown = false then x.advanced status else x) := by
  obtain ⟨o, stored, rfl⟩ := Option.map_eq_some_iff.1 hx
  by_cases own : j = id
  · subst own
    cases down : s.isDown with
    | true => simpa [next_of_down down] using hx
    | false =>
      rw [statusOf_of_stored (get?_next_of_up down stored), status_movedTo]
      simp
  · rw [statusOf_of_stored ((get?_next_of_ne (Ne.symm own)).trans stored), if_neg]
    exact fun h => own h.1

/-- **A stored order stays, and its status follows the wishes** that the store is up for, one after
the other. -/
theorem statusOf_after : ∀ (calls : List OrderCall) (s : OrderStore) (x : OrderStatus),
    s.statusOf id = some x →
    (s.after calls).statusOf id = some ((asked id s.isDown calls).foldl .advanced x)
  | [], _, _, hx => hx
  | .create new :: calls, s, x, hx => by
    obtain ⟨o, stored, rfl⟩ := Option.map_eq_some_iff.1 hx
    obtain ⟨kept, same⟩ := get?_next_create stored new
    rw [after_cons, statusOf_after calls _ _ (statusOf_of_stored kept), same]
    rfl
  | .updateStatus j status time :: calls, s, x, hx => by
    rw [after_cons, statusOf_after calls _ _ (statusOf_next hx j status time),
      isDown_next_updateStatus, asked]
    split <;> rfl
  | .setDown isDown :: calls, s, x, hx => statusOf_after calls (s.next (.setDown isDown)) x hx

/-- A stored order stays stored. -/
theorem exists_after {x : OrderStatus} (hx : s.statusOf id = some x) (calls : List OrderCall) :
    ∃ o, (s.after calls).orders.get? id = some o := by
  obtain ⟨o, stored, _⟩ := Option.map_eq_some_iff.1 (statusOf_after calls s x hx)
  exact ⟨o, stored⟩

/-- Only a wish to move it touches a stored order. -/
theorem get?_next_of_other (stored : s.orders.get? id = some o) {c : OrderCall}
    (other : ∀ status time, c ≠ .updateStatus id status time) :
    (s.next c).orders.get? id = some o := by
  cases c with
  | create new => exact (get?_next_create stored new).1
  | updateStatus j status time =>
    have hj : id ≠ j := by
      rintro rfl
      exact other status time rfl
    rw [get?_next_of_ne hj, stored]
  | setDown isDown => exact stored

/-- **The wishes decide the status of an order**, in every run from a store in which it is new: the
first final status that was asked for while the store was up, else whether the payment was waited
for. -/
theorem statuses_decided (stored : s.orders.get? id = some o) (new : o.status = .pending)
    (calls : List OrderCall) : StatusDecided s id calls := by
  have start : s.statusOf id = some .pending := by rw [statusOf_of_stored stored, new]
  have status : ∀ calls, (s.after calls).statusOf id =
      some (.decided (asked id s.isDown calls)) := by
    intro calls
    rw [statusOf_after calls s .pending start, OrderStatus.foldl_advanced]
  refine ⟨status calls, ?_, ?_, ?_, ?_⟩
  · intro calls' same agree
    rw [status, status, OrderStatus.decided_congr same agree]
  · rintro earlier later x y rfl hx hy
    have split : s.after (earlier ++ later) = (s.after earlier).after later := List.foldl_append
    rw [split, statusOf_after later _ x hx] at hy
    cases hy
    exact OrderStatus.rank_le_foldl _ x
  · intro earlier status time later _
    obtain ⟨o, ho⟩ := exists_after start earlier
    exact ⟨o, reported ho status time⟩
  · intro earlier c later _ other
    obtain ⟨o, ho⟩ := exists_after start earlier
    rw [after_concat, ho]
    exact get?_next_of_other ho other

/-! ## A payment before its reservation -/

/-- A store with two new orders. -/
def sampleStore : OrderStore :=
  let order := fun n => Order.new ⟨.ofNat n, ⟨0⟩⟩ ⟨7⟩ ⟨.ofNat 1⟩ 3
  ⟨(Table.empty.put ⟨.ofNat 11⟩ (order 11)).put ⟨.ofNat 12⟩ (order 12), false⟩

/-- A refused payment is lost while the store is down, another is taken, and the news of the
reservation comes last. -/
def sampleCalls : List OrderCall :=
  [.setDown true, .updateStatus ⟨.ofNat 11⟩ .failed ⟨1⟩, .setDown false,
    .updateStatus ⟨.ofNat 11⟩ .paid ⟨2⟩, .updateStatus ⟨.ofNat 12⟩ .productOutOfStock ⟨3⟩,
    .updateStatus ⟨.ofNat 11⟩ .paymentPending ⟨4⟩, .updateStatus ⟨.ofNat 11⟩ .paid ⟨5⟩]

theorem statuses_decided_of_sampleCalls :
    (∃ o, sampleStore.orders.get? ⟨.ofNat 11⟩ = some o ∧ o.status = .pending) ∧
    StatusDecided sampleStore ⟨.ofNat 11⟩ sampleCalls ∧
    (sampleStore.after sampleCalls).statusOf ⟨.ofNat 11⟩ = some .paid :=
  ⟨⟨_, rfl, rfl⟩, statuses_decided rfl rfl sampleCalls, by decide⟩

end OrderStore

end Marketplace
