import Marketplace.Proofs.Inventory.Stock

/-!
# The life of a hold

An order asks for stock any number of times, and the store may be told to end its hold any number of
times, before there is one, while it is open and afterwards. The first request that the store is up
for decides: it is refused for good, or it opens a hold. The hold is open until one call ends it,
and that call, which gets the record, decides whether the stock is consumed or goes back. What other
orders do in between, be it with the same product, makes no difference.

The runs are those of `StockRun`, here with products that may also be created again.

## Results

* `Phase.after`: the four phases of a hold, and how each call of a run moves it.
* `hold_life`: what every further call for the order answers and does, after every run.
-/

namespace Marketplace

namespace StockRun

/-! ## What a run answered to an order -/

/-- What a call answers to an order that asks for stock, if the store is up. -/
def answer? (o : OrderId) (s : InventoryStore) : StockCall → Option Reservation
  | .reserve order product quantity =>
    if order = o then
      match s.reserve order product quantity with
      | .ok (a, _) => some a
      | .error _ => none
    else none
  | _ => none

/-- The record that a call to end the hold of an order gets, if it gets one, and the end. -/
def release? (o : OrderId) (s : InventoryStore) : StockCall → Option (Hold × Reserved)
  | .consume order =>
    if order = o then
      match s.consume order with
      | .ok (some a, _) => some (.consumed, a)
      | _ => none
    else none
  | .giveBack order =>
    if order = o then
      match s.giveBack order with
      | .ok (some a, _) => some (.returned, a)
      | _ => none
    else none
  | _ => none

/-- What can be read off the calls of a run and the stores that they find, in order. -/
def collect {β : Type} (read : InventoryStore → StockCall → Option β) :
    StockRun → List StockCall → List β
  | _, [] => []
  | r, c :: calls => (read r.store c).toList ++ collect read (r.after c) calls

/-- What an order was answered in a run from the empty store. -/
def answers (o : OrderId) (calls : List StockCall) : List Reservation :=
  collect (answer? o) start calls

/-- The calls of a run from the empty store that got the record of an order. -/
def releases (o : OrderId) (calls : List StockCall) : List (Hold × Reserved) :=
  collect (release? o) start calls

/-- The store after a run from the empty store. -/
def storeAfter (calls : List StockCall) : InventoryStore := (ofCalls calls).store

/-- How a hold ends. -/
def IsEnd (x : Hold) : Prop := x = .consumed ∨ x = .returned

/-- What further calls for an order come to, after some calls. -/
structure HoldLife (o : OrderId) (calls : List StockCall) : Prop where
  /-- The first answer refuses the order, or is a record of it. -/
  first : ∀ a, (answers o calls).head? = some a →
    (∃ reason, a = .refused reason) ∨ ∃ r, a = .reserved r ∧ r.order = o
  /-- The store answers every request as long as it is up. -/
  answered : ∀ id q, (storeAfter calls).isDown = false →
    ∃ a s, (storeAfter calls).reserve o id q = .ok (a, s)
  /-- Only the first request that is answered can change anything. -/
  again : ∀ id q, answers o calls ≠ [] ∨ (storeAfter calls).isDown = true →
    storeAfter (calls ++ [.reserve o id q]) = storeAfter calls
  /-- A refusal is repeated for ever. -/
  refused : ∀ reason id q, (answers o calls).head? = some (.refused reason) →
    (storeAfter calls).isDown = false →
    (storeAfter calls).reserve o id q = .ok (.refused reason, storeAfter calls)
  /-- A record is repeated until it is released, and the hold is settled ever after. -/
  held : ∀ r id q, (answers o calls).head? = some (.reserved r) →
    (storeAfter calls).isDown = false →
    (storeAfter calls).reserve o id q =
      .ok (if releases o calls = [] then .reserved r else .settled, storeAfter calls)
  /-- At most one call got a record, and it is the one that was reserved. -/
  once : releases o calls = [] ∨ ∃ x r, releases o calls = [(x, r)] ∧ IsEnd x ∧
    (answers o calls).head? = some (.reserved r)
  /-- That call and no other decided how the hold ended. -/
  ended : ∀ x, IsEnd x →
    ((storeAfter calls).holds.get? o = some x ↔ ∃ r, releases o calls = [(x, r)])
  /-- As long as the record was not released, the next call to end the hold gets it. -/
  releasable : ∀ r, (answers o calls).head? = some (.reserved r) → releases o calls = [] →
    (storeAfter calls).isDown = false →
    (∃ s, (storeAfter calls).consume o = .ok (some r, s)) ∧
      ∃ s, (storeAfter calls).giveBack o = .ok (some r, s)
  /-- Stock that is consumed is not put back. -/
  consumed : ∀ r s, (storeAfter calls).consume o = .ok (some r, s) →
    s.products = (storeAfter calls).products ∧ s.holds.get? o = some .consumed
  /-- Stock that goes back goes back to its product, and to no other. -/
  returned : ∀ r s, (storeAfter calls).giveBack o = .ok (some r, s) →
    s.holds.get? o = some .returned ∧
    (∃ p, (storeAfter calls).products.get? r.product = some p ∧
      s.products.get? r.product = some { p with quantity := p.quantity + r.quantity }) ∧
    ∀ id, id ≠ r.product → s.products.get? id = (storeAfter calls).products.get? id
  /-- A call to end the hold that gets no record changes nothing. -/
  idle : ∀ s, (storeAfter calls).consume o = .ok (none, s) ∨
    (storeAfter calls).giveBack o = .ok (none, s) → s = storeAfter calls

variable {o : OrderId} {r : StockRun} {s s' : InventoryStore} {id : ProductId} {q : UInt32}

/-! ## One call -/

theorem store_after_reserve {a : Reservation} (h : r.store.reserve o id q = .ok (a, s)) :
    (r.after (.reserve o id q)).store = s := by
  simp only [StockRun.after]
  rw [h]
  cases a <;> rfl

theorem after_reserve_of_error {e : ServiceError} (h : r.store.reserve o id q = .error e) :
    r.after (.reserve o id q) = r := by
  simp only [StockRun.after]
  rw [h]

/-- The order that a call is about. -/
def order? : StockCall → Option OrderId
  | .reserve order _ _ => some order
  | .consume order => some order
  | .giveBack order => some order
  | _ => none

/-- What a call leaves of the rows of an order that it is not about, and of the products that are
there. -/
structure Untouched (o : OrderId) (s s' : InventoryStore) : Prop where
  hold : s'.holds.get? o = s.holds.get? o
  record : s'.reserved.get? o = s.reserved.get? o
  products : ∀ id, (s.products.get? id).isSome → (s'.products.get? id).isSome

theorem Untouched.refl (o : OrderId) (s : InventoryStore) : Untouched o s s :=
  ⟨rfl, rfl, fun _ h => h⟩

/-- **A call that is not about an order** does not touch what the store has of it. -/
theorem untouched_after (r : StockRun) {c : StockCall} (other : order? c ≠ some o) :
    Untouched o r.store (r.after c).store := by
  have ne : ∀ {order}, order? c = some order → o ≠ order := by
    rintro order hc rfl
    exact other hc
  cases c with
  | createMerchant m =>
    simp only [StockRun.after]
    split
    · rename_i hs
      obtain ⟨_, rfl⟩ := InventoryStore.createMerchant_eq_ok hs
      exact ⟨rfl, rfl, fun _ h => h⟩
    · exact .refl o _
  | createProduct p =>
    simp only [StockRun.after]
    split
    · rename_i hs
      obtain ⟨_, rfl⟩ := InventoryStore.createProduct_eq_ok hs
      exact ⟨rfl, rfl, fun _ h => Table.isSome_get?_put h⟩
    · exact .refl o _
  | reserve order id q =>
    have own := ne rfl
    cases hs : r.store.reserve order id q with
    | error e =>
      rw [after_reserve_of_error hs]
      exact .refl o _
    | ok answer =>
      obtain ⟨a, s⟩ := answer
      rw [store_after_reserve hs]
      rcases InventoryStore.reserve_eq_ok hs with ⟨_, _, _, rfl⟩ | ⟨_, first⟩
      · exact .refl o _
      · rcases InventoryStore.reserveNew_cases first with
          ⟨_, _, rfl⟩ | ⟨_, _, _, _, _, _, rfl⟩
        · exact ⟨Table.get?_put_of_ne own, rfl, fun _ h => h⟩
        · exact ⟨Table.get?_put_of_ne own, Table.get?_put_of_ne own,
            fun _ h => Table.isSome_get?_put h⟩
  | consume order =>
    have own := ne rfl
    simp only [StockRun.after]
    split
    · rename_i hs
      rcases InventoryStore.settle_cases (InventoryStore.consume_eq_ok hs) with
        ⟨_, _, rfl⟩ | ⟨_, _, _, rfl⟩
      · exact .refl o _
      · exact ⟨Table.get?_put_of_ne own, Table.get?_erase_of_ne own, fun _ h => h⟩
    · exact .refl o _
  | giveBack order =>
    have own := ne rfl
    simp only [StockRun.after]
    split
    · rename_i hs
      rcases InventoryStore.giveBack_eq_ok hs with ⟨_, _, rfl⟩ | ⟨_, _, _, rfl⟩
      · exact .refl o _
      · refine ⟨?_, ?_, fun id h => ?_⟩
        · rw [InventoryStore.restock_holds]
          exact Table.get?_put_of_ne own
        · rw [InventoryStore.restock_reserved]
          exact Table.get?_erase_of_ne own
        · apply InventoryStore.isSome_restock
          exact h
    · exact .refl o _
  | setDown isDown => exact ⟨rfl, rfl, fun _ h => h⟩

theorem answer?_of_ne {c : StockCall} (other : order? c ≠ some o) : answer? o s c = none := by
  cases c with
  | reserve order id q => exact if_neg fun own => other (congrArg some own)
  | _ => rfl

theorem release?_of_ne {c : StockCall} (other : order? c ≠ some o) : release? o s c = none := by
  cases c with
  | consume order => exact if_neg fun own => other (congrArg some own)
  | giveBack order => exact if_neg fun own => other (congrArg some own)
  | _ => rfl

/-! ## The phases of a hold -/

/-- Where an order stands: what the store has of it, its first answer, and its releases. -/
inductive Phase (o : OrderId) (s : InventoryStore) :
    Option Reservation → List (Hold × Reserved) → Prop
  | unasked (hold : s.holds.get? o = none) (record : s.reserved.get? o = none) : Phase o s none []
  | refused (reason : Refusal) (hold : s.holds.get? o = some (.refused reason))
    (record : s.reserved.get? o = none) : Phase o s (some (.refused reason)) []
  | held (a : Reserved) (own : a.order = o) (hold : s.holds.get? o = some .held)
    (record : s.reserved.get? o = some a) (known : (s.products.get? a.product).isSome) :
    Phase o s (some (.reserved a)) []
  | ended (a : Reserved) (own : a.order = o) (x : Hold) (isEnd : IsEnd x)
    (hold : s.holds.get? o = some x) (record : s.reserved.get? o = none) :
    Phase o s (some (.reserved a)) [(x, a)]

variable {first : Option Reservation} {ends : List (Hold × Reserved)}

/-- The phase of an order is in its own rows. -/
theorem Phase.untouched (h : Phase o s first ends) (same : Untouched o s s') :
    Phase o s' first ends := by
  obtain ⟨hold, record, products⟩ := same
  cases h with
  | unasked hh hr => exact .unasked (hold.trans hh) (record.trans hr)
  | refused reason hh hr => exact .refused reason (hold.trans hh) (record.trans hr)
  | held a own hh hr known =>
    exact .held a own (hold.trans hh) (record.trans hr) (products _ known)
  | ended a own x isEnd hh hr => exact .ended a own x isEnd (hold.trans hh) (record.trans hr)

/-- A request is answered from the phase that the order is in, or it is the first. -/
theorem Phase.reserved (h : Phase o s first ends) {a : Reservation}
    (answer : s.reserve o id q = .ok (a, s')) : Phase o s' (first.or (some a)) ends := by
  rcases InventoryStore.reserve_eq_ok answer with ⟨hold, hh, rfl, rfl⟩ | ⟨hh, new⟩
  · cases h with
    | unasked none _ => cases none.symm.trans hh
    | refused reason hold record => exact .refused reason hold record
    | held a own hold record known => exact .held a own hold record known
    | ended a own x isEnd hold record => exact .ended a own x isEnd hold record
  · cases h with
    | unasked _ record =>
      rcases InventoryStore.reserveNew_cases new with
        ⟨reason, rfl, rfl⟩ | ⟨p, payable, _, _, _, rfl, rfl⟩
      · exact .refused reason (Table.get?_put_self _ _ _) record
      · refine .held ⟨o, id, q, payable⟩ rfl (Table.get?_put_self _ _ _)
          (Table.get?_put_self _ _ _) ?_
        show ((s.products.put id _).get? id).isSome
        rw [Table.get?_put_self]
        rfl
    | refused _ hold _ => cases hold.symm.trans hh
    | held _ _ hold _ _ => cases hold.symm.trans hh
    | ended _ _ _ _ hold _ => cases hold.symm.trans hh

/-- Ending the hold of an order that has an open record gets it. -/
theorem Phase.released (h : Phase o s first ends) {a : Reserved} {x : Hold}
    (record : s.reserved.get? o = some a) (isEnd : IsEnd x) (hold' : s'.holds.get? o = some x)
    (record' : s'.reserved.get? o = none) : Phase o s' first (ends ++ [(x, a)]) := by
  cases h with
  | unasked _ none => cases none.symm.trans record
  | refused _ _ none => cases none.symm.trans record
  | held b own _ hr _ =>
    cases hr.symm.trans record
    exact .ended a own x isEnd hold' record'
  | ended _ _ _ _ _ none => cases none.symm.trans record

/-- **Every call moves the phase of an order** by its answer and its release. -/
theorem Phase.after (h : Phase o r.store first ends) (c : StockCall) :
    Phase o (r.after c).store (first.or (answer? o r.store c))
      (ends ++ (release? o r.store c).toList) := by
  by_cases other : order? c ≠ some o
  · rw [answer?_of_ne other, release?_of_ne other, Option.or_none]
    simpa using h.untouched (untouched_after r other)
  · have own : order? c = some o := Decidable.not_not.1 other
    cases c with
    | reserve order id q =>
      cases own
      show Phase o _ (first.or (if o = o then _ else none)) (ends ++ [])
      rw [if_pos rfl, List.append_nil]
      cases hs : r.store.reserve o id q with
      | error e =>
        rw [after_reserve_of_error hs]
        simpa using h
      | ok answer =>
        rw [store_after_reserve hs]
        exact h.reserved hs
    | consume order =>
      cases own
      show Phase o _ (first.or none) (ends ++ (if o = o then _ else none).toList)
      rw [if_pos rfl, Option.or_none]
      simp only [StockRun.after]
      cases hs : r.store.consume o with
      | error e => simpa using h
      | ok answer =>
        obtain ⟨a, s⟩ := answer
        cases a with
        | none =>
          obtain rfl := InventoryStore.eq_of_consume hs
          simpa using h
        | some a =>
          obtain ⟨record, rfl⟩ := InventoryStore.record_of_consume hs
          exact h.released record (.inl rfl) (Table.get?_put_self _ _ _)
            (InventoryStore.reserved_of_consume hs)
    | giveBack order =>
      cases own
      show Phase o _ (first.or none) (ends ++ (if o = o then _ else none).toList)
      rw [if_pos rfl, Option.or_none]
      simp only [StockRun.after]
      cases hs : r.store.giveBack o with
      | error e => simpa using h
      | ok answer =>
        obtain ⟨a, s⟩ := answer
        cases a with
        | none =>
          obtain rfl := InventoryStore.eq_of_giveBack hs
          simpa using h
        | some a =>
          obtain ⟨record, rfl⟩ := InventoryStore.record_of_giveBack hs
          refine h.released record (.inr rfl) ?_ (InventoryStore.reserved_of_giveBack hs)
          rw [InventoryStore.restock_holds]
          exact Table.get?_put_self _ _ _
    | createMerchant m => cases own
    | createProduct p => cases own
    | setDown isDown => cases own

/-! ### What a phase says of the next call -/

theorem Phase.first_cases {a : Reservation} (h : Phase o s (some a) ends) :
    (∃ reason, a = .refused reason) ∨ ∃ r, a = .reserved r ∧ r.order = o := by
  cases h with
  | refused reason _ _ => exact .inl ⟨reason, rfl⟩
  | held r own _ _ _ => exact .inr ⟨r, rfl, own⟩
  | ended r own _ _ _ _ => exact .inr ⟨r, rfl, own⟩

/-- A request that was answered is answered the same until the hold has ended. -/
theorem Phase.reserve_again {a : Reservation} (h : Phase o s (some a) ends) (up : s.isDown = false)
    (id : ProductId) (q : UInt32) :
    s.reserve o id q = .ok (if ends = [] then a else .settled, s) := by
  cases h with
  | refused reason hold _ => exact InventoryStore.reserve_of_hold up hold
  | held r own hold record _ =>
    rw [InventoryStore.reserve_of_hold up hold]
    unfold InventoryStore.repeated
    dsimp only
    rw [record]
    rfl
  | ended r own x isEnd hold _ =>
    rw [InventoryStore.reserve_of_hold up hold]
    rcases isEnd with rfl | rfl <;> rfl

theorem Phase.ends_of_refused {reason : Refusal} (h : Phase o s (some (.refused reason)) ends) :
    ends = [] := by
  cases h
  rfl

theorem Phase.ends_cases (h : Phase o s first ends) :
    ends = [] ∨ ∃ x r, ends = [(x, r)] ∧ IsEnd x ∧ first = some (.reserved r) := by
  cases h with
  | ended r _ x isEnd _ _ => exact .inr ⟨x, r, rfl, isEnd, rfl⟩
  | _ => exact .inl rfl

/-- The hold has an end exactly if its record was released to it. -/
theorem Phase.hold_iff (h : Phase o s first ends) {x : Hold} (isEnd : IsEnd x) :
    s.holds.get? o = some x ↔ ∃ r, ends = [(x, r)] := by
  have ne : ∀ {y}, s.holds.get? o = y → y ≠ some x → ends = [] →
      (s.holds.get? o = some x ↔ ∃ r, ends = [(x, r)]) := by
    rintro y hold other rfl
    exact iff_of_false (fun own => other (hold.symm.trans own)) fun ⟨_, h⟩ => nomatch h
  cases h with
  | unasked hold _ => exact ne hold nofun rfl
  | refused reason hold _ => exact ne hold (by rcases isEnd with rfl | rfl <;> exact nofun) rfl
  | held r _ hold _ _ => exact ne hold (by rcases isEnd with rfl | rfl <;> exact nofun) rfl
  | ended r _ y _ hold _ =>
    rw [hold]
    simp

theorem Phase.record_iff (h : Phase o s first ends) {r : Reserved} :
    s.reserved.get? o = some r ↔ first = some (.reserved r) ∧ ends = [] := by
  cases h with
  | unasked _ record => simp [record]
  | refused _ _ record => simp [record]
  | held _ _ _ record _ => simp [record]
  | ended _ _ _ _ _ record => simp [record]

theorem Phase.known (h : Phase o s first ends) {r : Reserved}
    (record : s.reserved.get? o = some r) : ∃ p, s.products.get? r.product = some p := by
  cases h with
  | unasked _ none => cases none.symm.trans record
  | refused _ _ none => cases none.symm.trans record
  | held r' _ _ own known =>
    cases own.symm.trans record
    exact Option.isSome_iff_exists.1 known
  | ended _ _ _ _ _ none => cases none.symm.trans record

/-! ## Runs -/

/-- The first answer and the releases of a run say which phase the order is in. -/
theorem Phase.foldl : ∀ (calls : List StockCall) {r : StockRun} {first : Option Reservation}
    {ends : List (Hold × Reserved)}, Phase o r.store first ends →
    Phase o (calls.foldl StockRun.after r).store
      (first.or (collect (answer? o) r calls).head?) (ends ++ collect (release? o) r calls)
  | [], _, _, _, h => by simpa [collect] using h
  | c :: calls, r, first, ends, h => by
    have := Phase.foldl calls (h.after c)
    rw [List.foldl_cons, collect, collect, List.head?_append, Option.head?_toList,
      ← Option.or_assoc, ← List.append_assoc]
    exact this

theorem phase_storeAfter (o : OrderId) (calls : List StockCall) :
    Phase o (storeAfter calls) (answers o calls).head? (releases o calls) := by
  have new : Phase o start.store none [] := .unasked rfl rfl
  have := Phase.foldl calls new
  rwa [Option.none_or, List.nil_append] at this

theorem storeAfter_concat (calls : List StockCall) (c : StockCall) :
    storeAfter (calls ++ [c]) = ((ofCalls calls).after c).store := by
  unfold storeAfter ofCalls
  rw [List.foldl_append]
  rfl

/-- **The life of a hold**: the first answer, the repeated ones and the release of an order, in
every run. -/
theorem hold_life (o : OrderId) (calls : List StockCall) : HoldLife o calls := by
  have phase := phase_storeAfter o calls
  refine ⟨fun a ha => ?_, fun id q up => InventoryStore.exists_reserve up o id q, ?_, ?_, ?_,
    phase.ends_cases, fun x isEnd => phase.hold_iff isEnd, ?_, ?_, ?_, ?_⟩
  · rw [ha] at phase
    exact phase.first_cases
  · intro id q before
    rw [storeAfter_concat]
    cases down : (storeAfter calls).isDown with
    | true =>
      rw [after_reserve_of_error (InventoryStore.reserve_of_down down)]
      rfl
    | false =>
      have asked : answers o calls ≠ [] := before.resolve_right (by rw [down]; nofun)
      obtain ⟨a, ha⟩ := Option.ne_none_iff_exists'.1 (mt List.head?_eq_none_iff.1 asked)
      rw [ha] at phase
      exact store_after_reserve (phase.reserve_again down id q)
  · intro reason id q ha up
    rw [ha] at phase
    rw [phase.reserve_again up, if_pos phase.ends_of_refused]
  · intro r id q ha up
    rw [ha] at phase
    exact phase.reserve_again up id q
  · intro r ha none up
    have record := phase.record_iff.2 ⟨ha, none⟩
    exact ⟨⟨_, InventoryStore.consume_of_record up record⟩,
      ⟨_, InventoryStore.giveBack_of_record up record⟩⟩
  · intro r s hs
    obtain ⟨_, rfl⟩ := InventoryStore.record_of_consume hs
    exact ⟨rfl, Table.get?_put_self _ _ _⟩
  · intro r s hs
    obtain ⟨record, rfl⟩ := InventoryStore.record_of_giveBack hs
    obtain ⟨p, hp⟩ := phase.known record
    refine ⟨?_, ⟨p, hp, InventoryStore.get?_restock hp⟩,
      fun id other => InventoryStore.get?_restock_of_ne other⟩
    rw [InventoryStore.restock_holds]
    exact Table.get?_put_self _ _ _
  · rintro s (hs | hs)
    · exact InventoryStore.eq_of_consume hs
    · exact InventoryStore.eq_of_giveBack hs

/-- A hold that was given back is not given back again, though its end was asked for twice. -/
example : releases ⟨.ofNat 13⟩ sampleCalls =
    [(.returned, ⟨⟨.ofNat 13⟩, ⟨.ofNat 7⟩, 4, .ofUnits 8⟩)] := by decide

end StockRun

end Marketplace
