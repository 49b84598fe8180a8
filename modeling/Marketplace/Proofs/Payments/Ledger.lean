import Mathlib.Logic.Relation
import Marketplace.Proofs.Announcement
import Marketplace.Proofs.Payments.Store
import Marketplace.Proofs.Table

/-!
# The ledger is conserved

What a wallet holds is what it was opened with, plus the credits of its account and less its debits,
in exact numbers. Wallets, the ledger and the outcomes of charges change in different branches:
a wallet is opened again, a charge is repeated, refused for want of money or of a wallet, or is no
amount that may be charged, and sums leave the range of money. They stay in step all the same.

A run is any sequence of events, with any payload, of recharges of any caller, amount and
sources of grants, and of outages of the store; the cache, the bus, the clock and the
identifiers may change in any way between two of them.

## Results

* `Step.change`: what a step can do to the store, said once.
* `Books.change`: every such change keeps the books.
* `charge_overflow`: a charge that would leave the range of money is recorded as refused, and
  nothing else changes.
* `ledger_conserved`: the books of every run, the ledger that only grows at its end, and sums out
  of range that move no money.
-/

namespace Marketplace

/-- A number of cents that is an amount of money. -/
def Money.InRange (n : Int) : Prop := -9223372036854775808 ≤ n ∧ n ≤ 9223372036854775807

theorem Money.inRange_cents (m : Money) : InRange m.cents := ⟨m.lower, m.upper⟩

namespace Payments

open Relation

/-! ## The books -/

/-- The sum of the credits, or of the debits, of an account. -/
def turnover (isCredit : Bool) (a : AccountId) : List Transaction → Int
  | [] => 0
  | t :: ledger =>
    (if t.madeBy = a ∧ t.isCredit = isCredit then t.amount.cents else 0) +
      turnover isCredit a ledger

/-- What the wallet of an account holds by the ledger. -/
def booked (initial : Money) (a : AccountId) (ledger : List Transaction) : Int :=
  initial.cents + turnover true a ledger - turnover false a ledger

/-- The debits that were entered for an order. -/
def debitsFor (o : OrderId) (ledger : List Transaction) : List Transaction :=
  ledger.filter fun t => t.isCredit = false ∧ t.order = some o

/-- The entry of an approved charge. -/
def approvedEntry : Option Debit → List Transaction
  | some (.approved t) => [t]
  | _ => []

/-- Wallets, ledger and outcomes agree. -/
structure Books (initial : Money) (s : PaymentStore) : Prop where
  /-- Entries are made for wallets only. -/
  opened : ∀ t ∈ s.ledger, (s.wallets.get? t.madeBy).isSome
  /-- A wallet holds what the ledger says. -/
  balance : ∀ a w, s.wallets.get? a = some w → w.balance.cents = booked initial a s.ledger
  positive : ∀ t ∈ s.ledger, 0 < t.amount.cents
  /-- A debit is for an order. -/
  named : ∀ t ∈ s.ledger, t.isCredit = false → t.order.isSome
  /-- An order has a debit exactly when its charge was approved, and then that one. -/
  once : ∀ o, debitsFor o s.ledger = approvedEntry (s.debits.get? o)
  /-- Every debit left something in its wallet. -/
  left : ∀ past t, past ++ [t] <+: s.ledger → t.isCredit = false →
    0 < booked initial t.madeBy (past ++ [t])
  /-- No wallet is overdrawn, unless they are opened so. -/
  solvent : 0 ≤ initial.cents → ∀ a w, s.wallets.get? a = some w → 0 ≤ w.balance.cents

theorem turnover_append (isCredit : Bool) (a : AccountId) (t : Transaction) :
    ∀ ledger : List Transaction, turnover isCredit a (ledger ++ [t]) =
      turnover isCredit a ledger +
        if t.madeBy = a ∧ t.isCredit = isCredit then t.amount.cents else 0
  | [] => by
    show _ + 0 = 0 + _
    omega
  | u :: ledger => by
    show _ + turnover isCredit a (ledger ++ [t]) = _ + turnover isCredit a ledger + _
    rw [turnover_append isCredit a t ledger]
    omega

theorem booked_credit (initial : Money) (a b : AccountId) (ledger : List Transaction)
    (stamp : Stamp) (amount : Money) :
    booked initial a (ledger ++ [.credit stamp b amount]) =
      booked initial a ledger + if b = a then amount.cents else 0 := by
  unfold booked
  rw [turnover_append, turnover_append]
  by_cases h : b = a <;> simp [Transaction.credit, h]
  omega

theorem booked_debit (initial : Money) (a b : AccountId) (ledger : List Transaction)
    (stamp : Stamp) (amount : Money) (o : OrderId) :
    booked initial a (ledger ++ [.debit stamp b amount o]) =
      booked initial a ledger + if b = a then -amount.cents else 0 := by
  unfold booked
  rw [turnover_append, turnover_append]
  by_cases h : b = a <;> simp [Transaction.debit, h]
  omega

theorem turnover_of_unused {a : AccountId} (isCredit : Bool) : ∀ {ledger : List Transaction},
    (∀ t ∈ ledger, t.madeBy ≠ a) → turnover isCredit a ledger = 0
  | [], _ => rfl
  | t :: ledger, h => by
    have rest := turnover_of_unused isCredit fun u hu => h u (List.mem_cons_of_mem t hu)
    unfold turnover
    rw [rest, if_neg fun hp => h t List.mem_cons_self hp.1]
    rfl

/-- An account without entries has what a wallet is opened with. -/
theorem booked_of_unused {initial : Money} {a : AccountId} {ledger : List Transaction}
    (h : ∀ t ∈ ledger, t.madeBy ≠ a) : booked initial a ledger = initial.cents := by
  unfold booked
  rw [turnover_of_unused _ h, turnover_of_unused _ h]
  omega

theorem debitsFor_credit (o : OrderId) (ledger : List Transaction) (stamp : Stamp)
    (a : AccountId) (amount : Money) :
    debitsFor o (ledger ++ [.credit stamp a amount]) = debitsFor o ledger := by
  unfold debitsFor
  rw [List.filter_append]
  simp [Transaction.credit]

theorem debitsFor_debit (o p : OrderId) (ledger : List Transaction) (stamp : Stamp)
    (a : AccountId) (amount : Money) :
    debitsFor o (ledger ++ [.debit stamp a amount p]) =
      debitsFor o ledger ++ if p = o then [.debit stamp a amount p] else [] := by
  unfold debitsFor
  rw [List.filter_append]
  by_cases h : p = o <;> simp [Transaction.debit, h]

theorem books_empty (initial : Money) : Books initial .empty := by
  refine ⟨fun _ h => (nomatch h), fun _ _ h => (nomatch h), fun _ h => (nomatch h),
    fun _ h => (nomatch h), fun _ => rfl, ?_, fun _ _ _ h => (nomatch h)⟩
  intro past t h
  have := h.length_le
  rw [List.length_append] at this
  cases this

/-! ## What a step does to the store -/

/-- The ways in which the store can change. -/
inductive Change (initial : Money) (s : PaymentStore) : PaymentStore → Prop
  /-- No record changes. -/
  | idle (isDown : Bool) : Change initial s { s with isDown := isDown }
  | opened (a : AccountId) (time : Instant) (new : s.wallets.get? a = none) :
    Change initial s { s with wallets := s.wallets.put a ⟨a, initial, time⟩ }
  | credited (stamp : Stamp) (a : AccountId) (amount : Money) (w : Wallet) (balance : Money)
    (found : s.wallets.get? a = some w) (pos : 0 < amount.cents)
    (sum : balance.cents = w.balance.cents + amount.cents) :
    Change initial s { s with
      wallets := s.wallets.put a { w with balance := balance, updatedAt := stamp.time }
      ledger := s.ledger ++ [.credit stamp a amount] }
  | refused (o : OrderId) (x : Debit) (first : s.debits.get? o = none)
    (no : x.isApproved = false) : Change initial s { s with debits := s.debits.put o x }
  | charged (stamp : Stamp) (a : AccountId) (o : OrderId) (amount : Money) (w : Wallet)
    (rest : Money) (first : s.debits.get? o = none) (found : s.wallets.get? a = some w)
    (pos : 0 < amount.cents) (difference : rest.cents = w.balance.cents - amount.cents)
    (left : 0 < rest.cents) :
    Change initial s { s with
      wallets := s.wallets.put a { w with balance := rest, updatedAt := stamp.time }
      ledger := s.ledger ++ [.debit stamp a amount o]
      debits := s.debits.put o (.approved (.debit stamp a amount o)) }

variable {initial : Money} {s s' : PaymentStore} {stamp : Stamp}

theorem greet_change {a : AccountId} {role : Role} {c : Commit PaymentStore Unit}
    (h : greet initial a role stamp s = .ok c) : Change initial s c.store := by
  unfold greet at h
  obtain ⟨⟨w, s'⟩, hs, h⟩ := bind_eq_ok.1 h
  cases pure_eq_ok.1 h
  rcases PaymentStore.openWallet_eq_ok hs with ⟨_, rfl⟩ | ⟨new, _, rfl⟩
  · exact .idle s'.isDown
  · exact .opened a stamp.time new

theorem recharge_change {a : AccountId} {amount : Money} {c : Commit PaymentStore Transaction}
    (h : recharge a amount stamp s = .ok c) : Change initial s c.store := by
  unfold recharge at h
  split at h
  · cases h
  · rename_i hpos
    have pos : 0 < amount.cents := Money.isPositive_iff.1 (by simpa using hpos)
    obtain ⟨⟨t, s'⟩, hs, h⟩ := bind_eq_ok.1 h
    cases pure_eq_ok.1 h
    obtain ⟨w, balance, found, sum, _, rfl⟩ := PaymentStore.credit_eq_ok hs
    exact .credited stamp a amount w balance found pos sum

theorem charge_change {r : ProductReserved} {c : Commit PaymentStore Unit}
    (h : charge r stamp s = .ok c) : Change initial s c.store := by
  unfold charge at h
  obtain ⟨⟨x, s'⟩, hs, h⟩ := bind_eq_ok.1 h
  cases pure_eq_ok.1 h
  rcases PaymentStore.charge_eq_ok hs with ⟨_, rfl⟩ | ⟨first, hs⟩
  · exact .idle s'.isDown
  · rcases PaymentStore.chargeNew_cases hs with
      ⟨no, rfl⟩ | ⟨w, rest, found, pos, difference, left, rfl, rfl⟩
    · exact .refused r.order x first no
    · exact .charged stamp r.account r.order r.payable w rest first found pos difference left

/-- Whatever an event asks for changes the store in one of the ways. -/
theorem react_change {payload : Payload} {operation : Operation PaymentStore Unit}
    (hr : (participant initial).react payload = some (.perform operation))
    {c : Commit PaymentStore Unit} (h : operation stamp s = .ok c) :
    Change initial s c.store := by
  cases payload with
  | accountCreated a role =>
    cases hr
    exact greet_change h
  | productReserved r =>
    cases hr
    exact charge_change h
  | _ => cases hr

/-- A step of the payment participant at its desk. -/
inductive Step (initial : Money) : Desk PaymentStore → Desk PaymentStore → Prop
  | event (g : Grants) (correlation : String) (payload : Payload) (d : Desk PaymentStore) :
    Step initial d ((participant initial).handle g correlation payload d).2
  | recharge (g : Grants) (correlation : String) (caller : Claims) (amount : Money)
    (d : Desk PaymentStore) :
    Step initial d ((participant initial).performFor g caller rechargePermissions correlation
      (recharge caller.account amount) d).2
  /-- The store becomes unreachable, or reachable again. -/
  | outage (isDown : Bool) (d : Desk PaymentStore) :
    Step initial d { d with store.isDown := isDown }
  /-- The bus fails or works again, time passes, the cache changes. -/
  | surroundings (cache : GrantCache) (outlet : Outlet) (supply : Supply)
    (d : Desk PaymentStore) :
    Step initial d { d with cache := cache, outlet := outlet, supply := supply }

variable {d d' : Desk PaymentStore}

/-- **What a step does to the store.** -/
theorem Step.change (h : Step initial d d') : Change initial d.store d'.store := by
  cases h with
  | event g correlation payload =>
    rcases (participant initial).handle_outcome g correlation payload d with
      ⟨_, hs, _⟩ | ⟨operation, hr, out⟩
    · rw [hs]
      exact .idle d.store.isDown
    · rcases out.store_cases with hs | ⟨c, hc, hs⟩
      · rw [hs]
        exact .idle d.store.isDown
      · rw [hs]
        exact react_change hr hc
  | recharge g correlation caller amount =>
    rcases (participant initial).performFor_outcome g caller rechargePermissions correlation
      (Payments.recharge caller.account amount) d with ⟨_, hs, _⟩ | out
    · rw [hs]
      exact .idle d.store.isDown
    · rcases out.store_cases with hs | ⟨c, hc, hs⟩
      · rw [hs]
        exact .idle d.store.isDown
      · rw [hs]
        exact recharge_change hc
  | outage isDown => exact .idle isDown
  | surroundings => exact .idle d.store.isDown

/-! ## The books are kept -/

variable {a : AccountId} {w : Wallet} {balance amount : Money}

/-- A new entry is the last of the ledger, and the entries before it are as they were. -/
theorem left_append {ledger : List Transaction} {u : Transaction}
    (old : ∀ past t, past ++ [t] <+: ledger → t.isCredit = false →
      0 < booked initial t.madeBy (past ++ [t]))
    (new : u.isCredit = false → 0 < booked initial u.madeBy (ledger ++ [u])) :
    ∀ past t, past ++ [t] <+: ledger ++ [u] → t.isCredit = false →
      0 < booked initial t.madeBy (past ++ [t]) := by
  intro past t ht hd
  rcases List.prefix_concat_iff.1 ht with he | ht
  · obtain ⟨rfl, hu⟩ := List.append_inj' he rfl
    cases hu
    exact new hd
  · exact old past t ht hd

/-- The wallet that an entry is made for moves by the amount that the ledger moves by. -/
theorem Books.balance_moved (h : Books initial s) (found : s.wallets.get? a = some w)
    {ledger : List Transaction} {change : Int} (time : Instant)
    (moved : ∀ b, booked initial b ledger = booked initial b s.ledger +
      if a = b then change else 0)
    (sum : balance.cents = w.balance.cents + change) :
    ∀ b v, (s.wallets.put a { w with balance := balance, updatedAt := time }).get? b = some v →
      v.balance.cents = booked initial b ledger := by
  intro b v hv
  rw [Table.get?_put] at hv
  by_cases hb : b = a
  · subst hb
    rw [if_pos rfl] at hv
    cases hv
    rw [moved, if_pos rfl, ← h.balance b w found]
    exact sum
  · rw [if_neg hb] at hv
    rw [moved, if_neg fun he => hb he.symm, ← h.balance b v hv]
    omega

theorem solvent_put (h : ∀ b v, s.wallets.get? b = some v → 0 ≤ v.balance.cents)
    {u : Wallet} (hu : 0 ≤ u.balance.cents) :
    ∀ b v, (s.wallets.put a u).get? b = some v → 0 ≤ v.balance.cents := by
  intro b v hv
  rw [Table.get?_put] at hv
  split at hv
  · cases hv
    exact hu
  · exact h b v hv

theorem Books.opened_wallet (h : Books initial s) (new : s.wallets.get? a = none)
    (time : Instant) :
    Books initial { s with wallets := s.wallets.put a ⟨a, initial, time⟩ } := by
  have unused : ∀ t ∈ s.ledger, t.madeBy ≠ a := by
    rintro t ht rfl
    have := h.opened t ht
    rw [new] at this
    cases this
  refine ⟨fun t ht => Table.isSome_get?_put (h.opened t ht), ?_, h.positive, h.named, h.once,
    h.left, fun pos => solvent_put (h.solvent pos) pos⟩
  intro b v hv
  change (s.wallets.put a _).get? b = some v at hv
  rw [Table.get?_put] at hv
  by_cases hb : b = a
  · subst hb
    rw [if_pos rfl] at hv
    cases hv
    exact (booked_of_unused unused).symm
  · rw [if_neg hb] at hv
    exact h.balance b v hv

theorem Books.credited (h : Books initial s) (found : s.wallets.get? a = some w)
    (pos : 0 < amount.cents) (sum : balance.cents = w.balance.cents + amount.cents) :
    Books initial { s with
      wallets := s.wallets.put a { w with balance := balance, updatedAt := stamp.time }
      ledger := s.ledger ++ [.credit stamp a amount] } := by
  have known : (s.wallets.get? a).isSome := by rw [found]; rfl
  refine ⟨?_, h.balance_moved found stamp.time ?_ sum, ?_, ?_, ?_, ?_, ?_⟩
  · intro t ht
    apply Table.isSome_get?_put
    rcases List.mem_append.1 ht with ht | ht
    · exact h.opened t ht
    · cases List.mem_singleton.1 ht
      exact known
  · intro b
    exact booked_credit initial b a s.ledger stamp amount
  · intro t ht
    rcases List.mem_append.1 ht with ht | ht
    · exact h.positive t ht
    · cases List.mem_singleton.1 ht
      exact pos
  · intro t ht hd
    rcases List.mem_append.1 ht with ht | ht
    · exact h.named t ht hd
    · cases List.mem_singleton.1 ht
      cases hd
  · intro o
    exact (debitsFor_credit o s.ledger stamp a amount).trans (h.once o)
  · exact left_append h.left fun hd => nomatch hd
  · intro start
    refine solvent_put (h.solvent start) ?_
    have := h.solvent start a w found
    show 0 ≤ balance.cents
    omega

/-- A refusal that is recorded approves nothing. -/
theorem approvedEntry_refused {o p : OrderId} {x : Debit} (first : s.debits.get? o = none)
    (no : x.isApproved = false) :
    approvedEntry ((s.debits.put o x).get? p) = approvedEntry (s.debits.get? p) := by
  rw [Table.get?_put]
  split
  · rename_i he
    subst he
    rw [first]
    cases x with
    | approved t => cases no
    | _ => rfl
  · rfl

theorem Books.refused (h : Books initial s) {o : OrderId} {x : Debit}
    (first : s.debits.get? o = none) (no : x.isApproved = false) :
    Books initial { s with debits := s.debits.put o x } := by
  refine ⟨h.opened, h.balance, h.positive, h.named, ?_, h.left, h.solvent⟩
  intro p
  exact (h.once p).trans (approvedEntry_refused first no).symm

theorem Books.charged (h : Books initial s) {o : OrderId} (first : s.debits.get? o = none)
    (found : s.wallets.get? a = some w) (pos : 0 < amount.cents)
    (difference : balance.cents = w.balance.cents - amount.cents) (left : 0 < balance.cents) :
    Books initial { s with
      wallets := s.wallets.put a { w with balance := balance, updatedAt := stamp.time }
      ledger := s.ledger ++ [.debit stamp a amount o]
      debits := s.debits.put o (.approved (.debit stamp a amount o)) } := by
  have known : (s.wallets.get? a).isSome := by rw [found]; rfl
  have moved := fun b => booked_debit initial b a s.ledger stamp amount o
  have sum : balance.cents = w.balance.cents + -amount.cents := by omega
  have spent : 0 < booked initial a (s.ledger ++ [.debit stamp a amount o]) := by
    rw [moved, if_pos rfl, ← h.balance a w found]
    omega
  refine ⟨?_, h.balance_moved found stamp.time moved sum, ?_, ?_, ?_, ?_, ?_⟩
  · intro t ht
    apply Table.isSome_get?_put
    rcases List.mem_append.1 ht with ht | ht
    · exact h.opened t ht
    · cases List.mem_singleton.1 ht
      exact known
  · intro t ht
    rcases List.mem_append.1 ht with ht | ht
    · exact h.positive t ht
    · cases List.mem_singleton.1 ht
      exact pos
  · intro t ht hd
    rcases List.mem_append.1 ht with ht | ht
    · exact h.named t ht hd
    · cases List.mem_singleton.1 ht
      rfl
  · intro p
    simp only
    rw [debitsFor_debit, h.once, Table.get?_put]
    by_cases hp : p = o
    · subst hp
      rw [if_pos rfl, if_pos rfl, first]
      rfl
    · rw [if_neg hp, if_neg fun he => hp he.symm, List.append_nil]
  · exact left_append h.left fun _ => spent
  · intro start
    refine solvent_put (h.solvent start) ?_
    show 0 ≤ balance.cents
    omega

/-- **Every change keeps the books.** -/
theorem Books.change (h : Books initial s) (c : Change initial s s') : Books initial s' := by
  cases c with
  | idle isDown =>
    exact ⟨h.opened, h.balance, h.positive, h.named, h.once, h.left, h.solvent⟩
  | opened a time new => exact h.opened_wallet new time
  | credited stamp a amount w balance found pos sum => exact h.credited found pos sum
  | refused o x first no => exact h.refused first no
  | charged stamp a o amount w rest first found pos difference left =>
    exact h.charged first found pos difference left

theorem Change.ledger_isPrefix (c : Change initial s s') : s.ledger <+: s'.ledger := by
  cases c with
  | idle isDown => exact List.prefix_rfl
  | opened a time new => exact List.prefix_rfl
  | credited stamp a amount w balance found pos sum => exact List.prefix_append _ _
  | refused o x first no => exact List.prefix_rfl
  | charged stamp a o amount w rest first found pos difference left =>
    exact List.prefix_append _ _

/-! ## Sums out of range -/

/-- A recharge that would leave the range of money fails. -/
theorem recharge_overflow (found : s.wallets.get? a = some w)
    (out : ¬Money.InRange (w.balance.cents + amount.cents)) (c : Commit PaymentStore Transaction) :
    recharge a amount stamp s ≠ .ok c := by
  intro h
  unfold recharge at h
  split at h
  · cases h
  · obtain ⟨⟨t, s'⟩, hs, h⟩ := bind_eq_ok.1 h
    obtain ⟨w', balance, found', sum, _⟩ := PaymentStore.credit_eq_ok hs
    rw [found] at found'
    cases found'
    rw [← sum] at out
    exact out balance.inRange_cents

/-- How a charge is refused whose difference is no amount of money. -/
def refusal (balance amount : Money) : Debit :=
  if amount.isPositive then .insufficientFunds balance else .invalidAmount amount

/-- A first charge that would leave the range of money records its refusal and nothing else. -/
theorem chargeNew_overflow (found : s.wallets.get? a = some w)
    (out : ¬Money.InRange (w.balance.cents - amount.cents)) (o : OrderId) :
    s.chargeNew stamp a o amount = (refusal w.balance amount,
      { s with debits := s.debits.put o (refusal w.balance amount) }) := by
  unfold PaymentStore.chargeNew refusal
  cases amount.isPositive with
  | false => rfl
  | true =>
    have none_left : PaymentStore.afterCharge? w.balance amount = none := by
      refine Option.eq_none_iff_forall_ne_some.2 fun rest left => out ?_
      rw [← (PaymentStore.afterCharge?_eq_some.1 left).1]
      exact rest.inRange_cents
    rw [found]
    dsimp only
    rw [none_left]
    rfl

/-- What a charge that would leave the range of money does to the store: an order that was not
charged before has its refusal. -/
def refusing (s : PaymentStore) (o : OrderId) (x : Debit) : PaymentStore :=
  if s.isDown = true ∨ (s.debits.get? o).isSome = true then s
  else { s with debits := s.debits.put o x }

theorem refusing_of_new {o : OrderId} (up : s.isDown = false) (new : s.debits.get? o = none)
    (x : Debit) : refusing s o x = { s with debits := s.debits.put o x } := by
  unfold refusing
  rw [if_neg]
  rintro (down | known)
  · cases up.symm.trans down
  · rw [new] at known
    cases known

/-- **A charge that would leave the range of money moves none.** -/
theorem charge_overflow {r : ProductReserved} (found : s.wallets.get? r.account = some w)
    (out : ¬Money.InRange (w.balance.cents - r.payable.cents)) :
    (∃ e, charge r stamp s = .error e) ∧ refusing s r.order (refusal w.balance r.payable) = s ∨
    ∃ c, charge r stamp s = .ok c ∧
      c.store = refusing s r.order (refusal w.balance r.payable) := by
  unfold charge PaymentStore.charge PaymentStore.check
  cases down : s.isDown with
  | true => exact .inl ⟨⟨_, rfl⟩, if_pos (.inl down)⟩
  | false =>
    cases known : s.debits.get? r.order with
    | some x =>
      have charged : (s.debits.get? r.order).isSome = true := by rw [known]; rfl
      exact .inr ⟨_, rfl, (if_pos (.inr charged)).symm⟩
    | none =>
      rw [chargeNew_overflow found out]
      exact .inr ⟨_, rfl, (refusing_of_new down known _).symm⟩

/-- At a desk, sums that are no amounts of money move none. -/
structure OverflowSafe (initial : Money) (d : Desk PaymentStore) : Prop where
  /-- Such a recharge fails, and the store is as it was. -/
  credit : ∀ g correlation (caller : Claims) (amount : Money) w,
    d.store.wallets.get? caller.account = some w →
    ¬Money.InRange (w.balance.cents + amount.cents) →
    let r := (participant initial).performFor g caller rechargePermissions correlation
      (recharge caller.account amount) d
    (∃ e, r.1 = .error e) ∧ r.2.store = d.store
  /-- Such a charge leaves the store as it was, but for its own refusal: that is recorded as the
  outcome of its order, unless the order has an outcome or the store is down. -/
  debit : ∀ g correlation (r : ProductReserved) w,
    d.store.wallets.get? r.account = some w →
    ¬Money.InRange (w.balance.cents - r.payable.cents) →
    ((participant initial).handle g correlation (.productReserved r) d).2.store =
      refusing d.store r.order (refusal w.balance r.payable)

theorem overflowSafe (initial : Money) (d : Desk PaymentStore) : OverflowSafe initial d := by
  refine ⟨?_, ?_⟩
  · intro g correlation caller amount w found out
    rcases (participant initial).performFor_outcome g caller rechargePermissions correlation
      (recharge caller.account amount) d with ⟨⟨e, he⟩, hs, _⟩ | way
    · exact ⟨⟨_, he⟩, hs⟩
    · exact way.eq_error (recharge_overflow found out)
  · intro g correlation r w found out
    rcases (participant initial).handle_outcome g correlation (.productReserved r) d with
      ⟨no, _⟩ | ⟨operation, hr, way⟩
    · exact (no _ rfl).elim
    · cases hr
      rcases charge_overflow found out with ⟨⟨e, failed⟩, same⟩ | ⟨c, committed, stored⟩
      · rw [same]
        refine (way.eq_error fun c committed => ?_).2
        cases failed.symm.trans committed
      · exact (way.eq_commit committed).trans stored

/-! ## Runs -/

theorem Books.run (h : Books initial d.store) (run : ReflTransGen (Step initial) d d') :
    Books initial d'.store := by
  induction run with
  | refl => exact h
  | tail _ step ih => exact ih.change step.change

theorem ledger_isPrefix (run : ReflTransGen (Step initial) d d') :
    d.store.ledger <+: d'.store.ledger := by
  induction run with
  | refl => exact List.prefix_rfl
  | tail _ step ih => exact ih.trans step.change.ledger_isPrefix

/-- **The ledger is conserved** in every run of the payment participant from an empty store, with
any initial balance. -/
theorem ledger_conserved (start : d.store = .empty) (run : ReflTransGen (Step initial) d d') :
    Books initial d'.store ∧
    (∀ d'', ReflTransGen (Step initial) d' d'' → d'.store.ledger <+: d''.store.ledger) ∧
    OverflowSafe initial d' := by
  have books : Books initial d.store := by
    rw [start]
    exact books_empty initial
  exact ⟨books.run run, fun _ later => ledger_isPrefix later, overflowSafe initial d'⟩

/-- The desk after some events, with an empty list of grants. -/
def handleAll (initial : Money) (payloads : List Payload) (d : Desk PaymentStore) :
    Desk PaymentStore :=
  payloads.foldl (fun d payload =>
    ((participant initial).handle ⟨0, 1, fun _ _ => .ok []⟩ "request" payload d).2) d

theorem handleAll_run (initial : Money) : ∀ (payloads : List Payload) (d : Desk PaymentStore),
    ReflTransGen (Step initial) d (handleAll initial payloads d)
  | [], _ => .refl
  | payload :: payloads, d =>
    .head (.event ⟨0, 1, fun _ _ => .ok []⟩ "request" payload d)
      (handleAll_run initial payloads _)

/-- A desk on whose bus the third announcement fails. -/
def sampleDesk : Desk PaymentStore :=
  ⟨.empty, .empty, ⟨{ Bus.new Bus.standardSettings with failOn := some 3 }, .empty⟩, ⟨⟨0⟩, 0⟩⟩

/-- A customer with ten units buys for three, the charge is repeated since it could not be
announced, and another one would take all that is left. -/
def samplePayloads : List Payload :=
  [.accountCreated ⟨7⟩ .customer, .productReserved ⟨⟨.ofNat 1⟩, ⟨7⟩, .ofUnits 3⟩,
    .productReserved ⟨⟨.ofNat 1⟩, ⟨7⟩, .ofUnits 3⟩,
    .productReserved ⟨⟨.ofNat 2⟩, ⟨7⟩, .ofUnits 7⟩]

theorem ledger_conserved_of_samplePayloads :
    sampleDesk.store = .empty ∧
    ReflTransGen (Step (.ofUnits 10)) sampleDesk
      (handleAll (.ofUnits 10) samplePayloads sampleDesk) ∧
    Books (.ofUnits 10) (handleAll (.ofUnits 10) samplePayloads sampleDesk).store ∧
    (handleAll (.ofUnits 10) samplePayloads sampleDesk).store.ledger.map
      (fun t => t.amount.cents) = [300] :=
  ⟨rfl, handleAll_run _ _ _, (ledger_conserved rfl (handleAll_run _ _ _)).1, by decide +kernel⟩

/-- A wallet is opened with a debt of ten cents. -/
def sampleDebt : Money := ⟨-10, by decide, by decide⟩

def sampleIndebted : Desk PaymentStore :=
  handleAll sampleDebt [.accountCreated ⟨7⟩ .customer] sampleDesk

/-- Then all the money that there can be is asked for. -/
def sampleFortune : ProductReserved :=
  ⟨⟨.ofNat 1⟩, ⟨7⟩, ⟨9223372036854775807, by decide, by decide⟩⟩

/-- A charge out of range does change the store: its refusal is the outcome of its order from then
on, and a charge that the wallet could pay is refused with it. -/
theorem overflowing_charge_recorded :
    sampleDesk.store = .empty ∧ ReflTransGen (Step sampleDebt) sampleDesk sampleIndebted ∧
    (∃ w, sampleIndebted.store.wallets.get? sampleFortune.account = some w ∧
      ¬Money.InRange (w.balance.cents - sampleFortune.payable.cents)) ∧
    sampleIndebted.store.debits.get? sampleFortune.order = none ∧
    (handleAll sampleDebt [.productReserved sampleFortune] sampleIndebted).store.debits.get?
      sampleFortune.order = some (.insufficientFunds sampleDebt) ∧
    (handleAll sampleDebt [.productReserved sampleFortune] sampleIndebted).store ≠
      sampleIndebted.store := by
  have before : sampleIndebted.store.debits.get? sampleFortune.order = none := by decide +kernel
  have after : (handleAll sampleDebt [.productReserved sampleFortune]
      sampleIndebted).store.debits.get? sampleFortune.order =
        some (.insufficientFunds sampleDebt) := by decide +kernel
  have opened : (sampleIndebted.store.wallets.get? sampleFortune.account).map Wallet.balance =
      some sampleDebt := by decide +kernel
  refine ⟨rfl, handleAll_run _ _ _, ?_, before, after, fun same => ?_⟩
  · obtain ⟨w, found, balance⟩ := Option.map_eq_some_iff.1 opened
    refine ⟨w, found, ?_⟩
    rw [balance]
    rintro ⟨lower, -⟩
    exact absurd lower (by decide)
  · rw [same, before] at after
    cases after

end Payments

end Marketplace
