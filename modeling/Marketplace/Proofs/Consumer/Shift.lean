import Mathlib.Logic.Function.Basic
import Marketplace.Proofs.Bus.Tally
import Marketplace.Proofs.Consumer.Subscriptions

/-!
# A consumer at work

A shift is the time in which a consumer works off its subscriptions. Each of them hands out one
message at a time; its handling ends in a verdict, which is written down under the receipt and
answered to the bus. The subscriptions take turns in any way, and others use the bus meanwhile.

## Results

* `Handler.settle_dispatch`: a message is refused when its verdict is a retryable error, and
  acknowledged otherwise.
* `Shift.Inv.step`: every step keeps the book and the histories of the copies in agreement.
-/

namespace Marketplace

open Connected

/-- Changing the outlet of a state changes its outlet. -/
class Connected.Lawful (σ : Type) [Connected σ] : Prop where
  outlet_withOutlet : ∀ (o : Outlet) (s : σ), outlet (withOutlet o s) = o

variable {σ ε : Type}

namespace Connected

variable [Connected σ] [Lawful σ]

@[simp] theorem bus_onBus (f : Bus → Bus) (s : σ) : bus (onBus f s) = f (bus s) := by
  unfold bus onBus
  rw [Lawful.outlet_withOutlet]

@[simp] theorem bus_count (c : Counter) (s : σ) : bus (count c s) = bus s := by
  unfold bus count
  rw [Lawful.outlet_withOutlet]
  rfl

end Connected

/-! ## Verdicts -/

/-- How a delivery ends. -/
inductive Verdict (ε : Type) where
  /-- It does not reach the handler. -/
  | unread
  | handled (result : Except ε Unit)

namespace Verdict

variable [Retryable ε]

/-- The handler failed, and may do better another time. -/
def isRetry : Verdict ε → Bool
  | handled (.error e) => Retryable.isRetryable e
  | _ => false

/-- What the bus is answered. -/
def answer (receipt : Nat) (v : Verdict ε) : Bus.Call :=
  if v.isRetry then .nak receipt else .ack receipt

end Verdict

namespace Handler

/-- A message is for this handler. -/
def Takes (h : Handler σ ε) (octets : ByteArray) : Prop := ∃ e, h.read octets = .taken e

/-- How handling a message ends in a state. -/
def verdict (h : Handler σ ε) (octets : ByteArray) (s : σ) : Verdict ε :=
  match h.read octets with
  | .taken e => .handled (h.handle e.header.correlation e.payload s).1
  | _ => .unread

variable {h : Handler σ ε} {octets : ByteArray} {s : σ}

/-- **A message reaches the handler when it is for it.** -/
theorem verdict_eq_unread : h.verdict octets s = .unread ↔ ¬ h.Takes octets := by
  unfold verdict Takes
  cases h.read octets <;> simp

theorem settle_disposition [Retryable ε] (result : Except ε Unit) (receipt : Nat) (b : Bus) :
    Staff.settle receipt (disposition result) b =
      b.after ((Verdict.handled result).answer receipt) := by
  cases result with
  | ok => rfl
  | error err =>
    unfold disposition Verdict.answer Verdict.isRetry
    dsimp only
    split <;> rfl

/-- **A message is refused when its verdict is a retryable error, and acknowledged otherwise.** -/
theorem settle_dispatch [Retryable ε] (h : Handler σ ε) (octets : ByteArray) (s : σ)
    (receipt : Nat) (b : Bus) : Staff.settle receipt (h.dispatch octets s).disposition b =
      b.after ((h.verdict octets s).answer receipt) := by
  unfold dispatch verdict
  cases h.read octets with
  | malformed | foreign => rfl
  | taken e => exact settle_disposition _ receipt b

end Handler

/-! ## Stages of one's own copies -/

namespace Stage

def receipt? : Stage → Option Nat
  | handed _ r _ => some r
  | _ => none

/-- The answer to a delivery: whether it was refused. -/
def answer? : Stage → Option Bool
  | refused .. => some true
  | acked => some false
  | _ => none

/-- A copy came to nothing. -/
def isGivenUp : Stage → Bool
  | exhausted => true
  | lost => true
  | discarded => true
  | _ => false

theorem of_answer? (s : Stage) {b : Bool} (h : s.answer? = some b) :
    s.receipt? = none ∧ s.isGivenUp = false ∧ s.isRefusal = b := by
  cases s <;> cases h <;> exact ⟨rfl, rfl, rfl⟩

end Stage

/-- The receipts against which a copy was handed out. -/
def receiptsOf (history : List Stage) : List Nat := history.filterMap Stage.receipt?

theorem mem_receiptsOf {history : List Stage} {r : Nat} :
    r ∈ receiptsOf history ↔ ∃ k u, .handed k r u ∈ history := by
  unfold receiptsOf
  rw [List.mem_filterMap]
  constructor
  · rintro ⟨s, hs, receipt⟩
    cases s <;> cases receipt
    exact ⟨_, _, hs⟩
  · rintro ⟨k, u, hm⟩
    exact ⟨_, hm, rfl⟩

/-- The copies for some subscriptions. -/
def ownCopies (ids : List Nat) (cs : List Copy) : List Copy :=
  cs.filter fun c => decide (c.subscription ∈ ids)

theorem mem_ownCopies {ids : List Nat} {cs : List Copy} {c : Copy} :
    c ∈ ownCopies ids cs ↔ c ∈ cs ∧ c.subscription ∈ ids := by
  simp [ownCopies]

/-- An answer goes into the history of the copy that it is about: as a refusal after which the copy
is to come back, or as its end. -/
theorem Tracked.Inv.history_answer [Retryable ε] {t : Tracked} (inv : t.Inv) (unlimited : t.bus.settings.limit = none)
    {r : Nat} {p : Parcel} {c : Copy}
    (found : t.held.find? (fun x => x.1.receipt == r) = some (⟨r, p⟩, c))
    (served : t.bus.serves c.subscription = true) (v : Verdict ε) :
    ∃ s, (t.after (v.answer r)).history = note [c] s t.history ∧ s.answer? = some v.isRetry := by
  have matched := inv.matched _ (Tracked.mem_spots_of_held (List.mem_of_find?_eq_some found))
  have same : p.subscription = c.subscription := matched.1
  cases retry : v.isRetry with
  | false =>
    have ack : v.answer r = .ack r := by
      unfold Verdict.answer
      rw [retry]
      rfl
    refine ⟨.acked, ?_, rfl⟩
    rw [ack]
    show (t.ack r).history = _
    unfold Tracked.ack
    rw [found]
  | true =>
    have nak : v.answer r = .nak r := if_pos retry
    have more : t.bus.settings.isLast p.attempt = false := by
      unfold BusSettings.isLast
      rw [unlimited]
      rfl
    have sender := Bus.hasSender_of_serves served
    refine ⟨.refused p.attempt t.bus.now, ?_, rfl⟩
    rw [nak]
    show (t.nak r).history = _
    unfold Tracked.nak
    rw [found]
    dsimp only
    rw [more, same, sender]
    rfl

/-! ## Shifts -/

/-- A state, with what has been done with its bus, what is in hand, and the book of verdicts. -/
structure Shift (σ ε : Type) where
  state : σ
  /-- Everything that was done with the bus so far, by anybody. -/
  calls : List Bus.Call
  /-- What each subscription is busy with. -/
  busy : Nat → Option Held
  /-- The verdicts in their order, each with the receipt of the delivery. -/
  book : List (Nat × Verdict ε)

namespace Shift

/-- The history of a copy. -/
def history (settings : BusSettings) (w : Shift σ ε) (c : Copy) : List Stage :=
  (Tracked.run settings w.calls).history c

/-- The verdicts on the deliveries of a copy, in their order. -/
def outcomes (settings : BusSettings) (w : Shift σ ε) (c : Copy) : List (Verdict ε) :=
  w.book.filterMap fun y => if y.1 ∈ receiptsOf (w.history settings c) then some y.2 else none

/-! ## Histories that grow -/

section Growth

variable {past news : List Stage}

theorem mem_tail_append {s : Stage} (h : s ∈ past.tail) : s ∈ (news ++ past).tail := by
  cases news with
  | nil => exact h
  | cons n news => exact List.mem_append_right _ (List.mem_of_mem_tail h)

/-- Queueing neither hands out nor answers. -/
theorem filterMap_queued {α : Type} {f : Stage → Option α} (silent : ∀ k u, f (.queued k u) = none)
    (queued : ∀ s ∈ news, ∃ k u, s = .queued k u) :
    (news ++ past).filterMap f = past.filterMap f := by
  have none : news.filterMap f = [] := by
    refine List.filterMap_eq_nil_iff.2 fun s hs => ?_
    obtain ⟨k, u, rfl⟩ := queued s hs
    exact silent k u
  rw [List.filterMap_append, none, List.nil_append]

end Growth

variable {settings : BusSettings} {h : Handler σ ε} {ids : List Nat} {w : Shift σ ε}

theorem journey (settings : BusSettings) (w : Shift σ ε) {c : Copy}
    (sent : w.history settings c ≠ []) : Journey settings (w.history settings c) := by
  obtain ⟨inv, same⟩ := Tracked.inv_run settings w.calls
  have journey := inv.chronicle.journeys c sent
  rwa [same, Bus.settings_run] at journey

theorem history_ne_nil_of_mem_outcomes {c : Copy} {v : Verdict ε} (hv : v ∈ w.outcomes settings c) :
    w.history settings c ≠ [] := by
  obtain ⟨y, -, hy⟩ := List.mem_filterMap.1 hv
  split at hy
  · rename_i receipt
    obtain ⟨k, u, hm⟩ := mem_receiptsOf.1 receipt
    exact List.ne_nil_of_mem hm
  · cases hy

/-- The message of a copy that was sent is that of an earlier bus. -/
theorem log_eq {b : Bus} (ext : (Tracked.run settings w.calls).bus.Extends b) {c : Copy}
    (sent : w.history settings c ≠ []) {m : String × ByteArray}
    (message : b.log[c.message]? = some m) :
    (Tracked.run settings w.calls).bus.log[c.message]? = some m := by
  obtain ⟨_, octets, -, known⟩ := (Tracked.inv_run settings w.calls).1.chronicle.known c sent
  rw [known, ← ext.log known, message]

/-- The outcomes of a copy change with its receipts in the book only. -/
theorem outcomes_congr {w' : Shift σ ε} (book : w'.book = w.book) {c : Copy}
    (receipts : ∀ y ∈ w.book, y.1 ∈ receiptsOf (w'.history settings c) ↔
      y.1 ∈ receiptsOf (w.history settings c)) :
    w'.outcomes settings c = w.outcomes settings c := by
  unfold outcomes
  rw [book]
  refine List.filterMap_congr fun y hy => ?_
  rw [if_congr (receipts y hy) rfl rfl]

theorem history_concat {w' : Shift σ ε} {call : Bus.Call} (calls : w'.calls = w.calls ++ [call]) :
    w'.history settings = ((Tracked.run settings w.calls).after call).history := by
  funext c
  unfold history
  rw [calls, Tracked.run_concat]

/-- A verdict that is written down is one more outcome of the copy with its receipt. -/
theorem outcomes_booked {w' : Shift σ ε} {r : Nat} {v : Verdict ε}
    (book : w'.book = w.book ++ [(r, v)]) {c : Copy}
    (receipts : receiptsOf (w'.history settings c) = receiptsOf (w.history settings c)) :
    w'.outcomes settings c = w.outcomes settings c ++
      if r ∈ receiptsOf (w.history settings c) then [v] else [] := by
  unfold outcomes
  rw [book, List.filterMap_append, receipts]
  congr 1
  by_cases mem : r ∈ receiptsOf (w.history settings c)
  · simp [mem]
  · simp [mem]

/-! ## Steps -/

variable [Connected σ] [Retryable ε]

/-- Takes a message in hand. -/
def taken (id : Nat) (x : Held) (b : Bus) (w : Shift σ ε) : Shift σ ε :=
  { w with
    state := onBus (fun _ => b) w.state
    calls := w.calls ++ [.next id]
    busy := Function.update w.busy id (some x) }

/-- Handles a message and settles it. Handling it calls the bus as given. -/
def finished (h : Handler σ ε) (id : Nat) (x : Held) (calls : List Bus.Call) (w : Shift σ ε) :
    Shift σ ε :=
  let d := h.dispatch x.parcel.octets w.state
  let v := h.verdict x.parcel.octets w.state
  { state := onBus (Staff.settle x.receipt d.disposition) (count d.counter d.state)
    calls := w.calls ++ calls ++ [v.answer x.receipt]
    busy := Function.update w.busy id none
    book := w.book ++ [(x.receipt, v)] }

/-- What can happen while a consumer works. A state may change in any way that others have, as long
as the bus goes by calls that spare the consumer. -/
inductive Step (h : Handler σ ε) (ids : List Nat) : Shift σ ε → Shift σ ε → Prop
  | take {w : Shift σ ε} {id receipt : Nat} {p : Parcel} {b : Bus} (own : id ∈ ids)
      (free : w.busy id = none) (next : (bus w.state).next id = (.message receipt p, b)) :
      Step h ids w (w.taken id ⟨receipt, p⟩ b)
  | finish {w : Shift σ ε} {id : Nat} {x : Held} {calls : List Bus.Call}
      (working : w.busy id = some x)
      (effect : bus (h.dispatch x.parcel.octets w.state).state = calls.foldl Bus.after (bus w.state))
      (spared : Bus.SparesAll ids (bus w.state) calls) : Step h ids w (w.finished h id x calls)
  | others {w : Shift σ ε} {s : σ} {calls : List Bus.Call}
      (effect : bus s = calls.foldl Bus.after (bus w.state))
      (spared : Bus.SparesAll ids (bus w.state) calls) :
      Step h ids w { w with state := s, calls := w.calls ++ calls }

/-- The book agrees with the bus. -/
structure Inv (settings : BusSettings) (h : Handler σ ε) (ids : List Nat) (w : Shift σ ε) : Prop where
  bus : Connected.bus w.state = (Tracked.run settings w.calls).bus
  served : ∀ id ∈ ids, (Tracked.run settings w.calls).bus.serves id = true
  /-- What a subscription is busy with was handed out last of its copy. -/
  busy : ∀ id x, w.busy id = some x → id ∈ ids ∧ ∃ c u past, c.subscription = id ∧
    (Tracked.run settings w.calls).bus.Matches x.parcel c ∧
    w.history settings c = .handed x.parcel.attempt x.receipt u :: past
  /-- Every delivery of an own copy has a verdict or is in hand. -/
  judged : ∀ c, c.subscription ∈ ids → ∀ r ∈ receiptsOf (w.history settings c),
    r ∈ w.book.map Prod.fst ∨ ∃ x, w.busy c.subscription = some x ∧ x.receipt = r
  /-- A verdict is on a delivery of an own copy that something came of, and there is one on each. -/
  booked : ∀ y ∈ w.book, ∃ c k u, c.subscription ∈ ids ∧
    .handed k y.1 u ∈ (w.history settings c).tail
  nodup : (w.book.map Prod.fst).Nodup
  read : ∀ c, c.subscription ∈ ids → ∀ v ∈ w.outcomes settings c, ∀ m,
    (Tracked.run settings w.calls).bus.log[c.message]? = some m → (v = .unread ↔ ¬ h.Takes m.2)
  answers : ∀ c, c.subscription ∈ ids → (w.outcomes settings c).map Verdict.isRetry =
    ((w.history settings c).filterMap Stage.answer?).reverse
  refusals : tally Stage.isRefusal (ownCopies ids (Bus.copiesOf settings w.calls))
    (w.history settings) = w.book.countP fun y => y.2.isRetry
  kept : ∀ c, c.subscription ∈ ids → ∀ s ∈ w.history settings c, s.isGivenUp = false

/-! ## Turns -/

/-- A call by the consumer or by others that leaves its subscriptions open, and what comes of it:
what the book says of copies and what is in hand is right after the call if it was before. -/
structure Turn (settings : BusSettings) (h : Handler σ ε) (ids : List Nat) (call : Bus.Call)
    (w w' : Shift σ ε) : Prop where
  calls : w'.calls = w.calls ++ [call]
  bus : Connected.bus w'.state = (Connected.bus w.state).after call
  running : call ≠ .close
  open' : ∀ id ∈ ids, call ≠ .unsubscribe id
  entered : Entered (fun c s => c.subscription ∈ ids → s.isGivenUp = false)
    (w.history settings) (w'.history settings)
  busy : ∀ id x, w'.busy id = some x → id ∈ ids ∧ ∃ c u past, c.subscription = id ∧
    (Tracked.run settings w.calls).bus.Matches x.parcel c ∧
    w'.history settings c = .handed x.parcel.attempt x.receipt u :: past
  judged : ∀ c, c.subscription ∈ ids → ∀ r ∈ receiptsOf (w'.history settings c),
    r ∈ w'.book.map Prod.fst ∨ ∃ x, w'.busy c.subscription = some x ∧ x.receipt = r
  booked : ∀ y ∈ w'.book, y ∈ w.book ∨ ∃ c k u, c.subscription ∈ ids ∧
    .handed k y.1 u ∈ (w'.history settings c).tail
  nodup : (w'.book.map Prod.fst).Nodup
  read : ∀ c, c.subscription ∈ ids → ∀ v ∈ w'.outcomes settings c,
    v ∈ w.outcomes settings c ∨ ∃ p, (Tracked.run settings w.calls).bus.Matches p c ∧
      (v = .unread ↔ ¬ h.Takes p.octets)
  answers : ∀ c, c.subscription ∈ ids → (w'.outcomes settings c).map Verdict.isRetry =
    ((w'.history settings c).filterMap Stage.answer?).reverse
  refusals : tally Stage.isRefusal (ownCopies ids (Bus.copiesOf settings w'.calls))
    (w'.history settings) = w'.book.countP fun y => y.2.isRetry

/-- The book agrees with the bus after a turn if it did before. -/
theorem Inv.after {w' : Shift σ ε} {call : Bus.Call} (inv : Inv settings h ids w)
    (turn : Turn settings h ids call w w') : Inv settings h ids w' := by
  obtain ⟨tracked, -⟩ := Tracked.inv_run settings w.calls
  have run : Tracked.run settings w'.calls = (Tracked.run settings w.calls).after call := by
    rw [turn.calls, Tracked.run_concat]
  have same := (tracked.after call).2
  have ext := Bus.extends_after call (Tracked.run settings w.calls).bus
  rw [← same, ← run] at ext
  exact {
    bus := by rw [turn.bus, inv.bus, run, same]
    served := fun id own => by
      rw [run, same]
      exact Bus.serves_after tracked.numbered (inv.served id own) (turn.open' id own) turn.running
    busy := fun id x hx => by
      obtain ⟨own, c, u, past, named, matched, latest⟩ := turn.busy id x hx
      exact ⟨own, c, u, past, named, ext.matches matched, latest⟩
    judged := turn.judged
    booked := fun y hy => by
      rcases turn.booked y hy with old | new
      · obtain ⟨c, k, u, own, before⟩ := inv.booked y old
        obtain ⟨news, grown, -⟩ := turn.entered c
        exact ⟨c, k, u, own, grown ▸ mem_tail_append before⟩
      · exact new
    nodup := turn.nodup
    read := fun c own v hv m message => by
      rcases turn.read c own v hv with old | ⟨p, matched, seen⟩
      · exact inv.read c own v old m (log_eq ext (history_ne_nil_of_mem_outcomes old) message)
      · obtain ⟨-, _, -, -, known⟩ := ext.matches matched
        cases known.symm.trans message
        exact seen
    answers := turn.answers
    refusals := turn.refusals
    kept := fun c own s hs => by
      rcases turn.entered.mem hs with new | old
      · exact new own
      · exact inv.kept c own s old }

/-- What others do keeps the book in agreement with the bus. -/
theorem Inv.spared (inv : Inv settings h ids w) {call : Bus.Call}
    (spared : (Connected.bus w.state).Spares ids call) {s : σ}
    (after : Connected.bus s = (Connected.bus w.state).after call) :
    Inv settings h ids { w with state := s, calls := w.calls ++ [call] } := by
  generalize hw : ({ w with state := s, calls := w.calls ++ [call] } : Shift σ ε) = w'
  have calls : w'.calls = w.calls ++ [call] := by rw [← hw]
  have book : w'.book = w.book := by rw [← hw]
  have busy : w'.busy = w.busy := by rw [← hw]
  obtain ⟨tracked, -⟩ := Tracked.inv_run settings w.calls
  rw [inv.bus] at spared
  have entered := tracked.entered_spared spared inv.served
  rw [← history_concat calls] at entered
  have grown : ∀ c, c.subscription ∈ ids → ∃ news,
      w'.history settings c = news ++ w.history settings c ∧
      ∀ s ∈ news, ∃ k u, s = .queued k u := by
    intro c own
    obtain ⟨news, grown, queued⟩ := entered c
    exact ⟨news, grown, fun s hs => queued s hs own⟩
  have latest : ∀ c, c.subscription ∈ ids → ∀ k r u past,
      w.history settings c = .handed k r u :: past →
        w'.history settings c = .handed k r u :: past := by
    intro c own k r u past handed
    obtain ⟨news, grown, queued⟩ := grown c own
    have journey := w'.journey settings (c := c) (by simp [grown, handed])
    rw [grown, handed] at journey ⊢
    rw [journey.eq_nil_of_queued queued, List.nil_append]
  have receipts : ∀ c, c.subscription ∈ ids →
      receiptsOf (w'.history settings c) = receiptsOf (w.history settings c) := by
    intro c own
    obtain ⟨news, grown, queued⟩ := grown c own
    unfold receiptsOf
    rw [grown, filterMap_queued (fun _ _ => rfl) queued]
  have outcomes : ∀ c, c.subscription ∈ ids → w'.outcomes settings c = w.outcomes settings c :=
    fun c own => outcomes_congr book fun y hy => by rw [receipts c own]
  have old : tally Stage.isRefusal (ownCopies ids (Bus.copiesOf settings w.calls))
      (w'.history settings) = tally Stage.isRefusal
        (ownCopies ids (Bus.copiesOf settings w.calls)) (w.history settings) := by
    refine tally_of_entered entered fun c hc s queued => ?_
    obtain ⟨k, u, rfl⟩ := queued (mem_ownCopies.1 hc).2
    rfl
  have new : tally Stage.isRefusal
      (ownCopies ids ((Tracked.run settings w.calls).bus.made call)) (w'.history settings) = 0 := by
    rw [history_concat calls]
    exact tally_eq_zero fun c hc s hs => (Stage.isAnswer_eq_false
      (Bus.isAnswer_made tracked (mem_ownCopies.1 hc).1 hs)).2
  exact inv.after {
    calls := calls
    bus := by rw [← hw, after]
    running := by
      rintro rfl
      exact spared
    open' := by
      rintro id own rfl
      exact spared own
    entered := entered.mono fun c s queued own => by
      obtain ⟨k, u, rfl⟩ := queued own
      rfl
    busy := fun id x working => by
      obtain ⟨own, c, u, past, rfl, matched, handed⟩ := inv.busy id x (busy ▸ working)
      exact ⟨own, c, u, past, rfl, matched, latest c own _ _ _ _ handed⟩
    judged := fun c own r hr => by
      rw [book, busy]
      exact inv.judged c own r (receipts c own ▸ hr)
    booked := fun y hy => .inl (book ▸ hy)
    nodup := book ▸ inv.nodup
    read := fun c own v hv => .inl (outcomes c own ▸ hv)
    answers := fun c own => by
      obtain ⟨news, grown, queued⟩ := grown c own
      rw [outcomes c own, inv.answers c own, grown, filterMap_queued (fun _ _ => rfl) queued]
    refusals := by
      rw [book, ← inv.refusals, calls, Bus.copiesOf_concat, ownCopies, List.filter_append,
        tally_append, ← ownCopies, ← ownCopies, old, new]
      rfl }

theorem ne_of_subscription {c d : Copy} (h : c.subscription ≠ d.subscription) : c ≠ d :=
  fun same => h (same ▸ rfl)

/-- Taking a message in hand keeps the book in agreement with the bus: its receipt is new, so no
verdict stands under it. -/
theorem Inv.taken (inv : Inv settings h ids w) {id receipt : Nat} {p : Parcel} {b : Bus}
    (own : id ∈ ids) (free : w.busy id = none)
    (next : (Connected.bus w.state).next id = (.message receipt p, b)) {s : σ}
    (after : Connected.bus s = b) :
    Inv settings h ids { w with
      state := s
      calls := w.calls ++ [.next id]
      busy := Function.update w.busy id (some ⟨receipt, p⟩) } := by
  have result : (Connected.bus w.state).after (.next id) = b := congrArg Prod.snd next
  obtain ⟨tracked, -⟩ := Tracked.inv_run settings w.calls
  obtain ⟨waits, receipts⟩ := Bus.next_eq_message.1 (congrArg Prod.fst next)
  rw [inv.bus] at receipts
  rw [inv.bus, tracked.find?_waiting] at waits
  obtain ⟨⟨q, c⟩, found, same⟩ := Option.map_eq_some_iff.1 waits
  obtain rfl : q = p := same
  have matched := tracked.matched _ (Tracked.mem_spots_of_queued (List.mem_of_find?_eq_some found))
  obtain rfl : c.subscription = id := by
    have named : q.subscription = id := by simpa using List.find?_some found
    exact matched.1.symm.trans named
  generalize hw : ({ w with
    state := s
    calls := w.calls ++ [.next c.subscription]
    busy := Function.update w.busy c.subscription (some ⟨receipt, q⟩) } : Shift σ ε) = w'
  have calls : w'.calls = w.calls ++ [.next c.subscription] := by rw [← hw]
  have book : w'.book = w.book := by rw [← hw]
  have busy : w'.busy = Function.update w.busy c.subscription (some ⟨receipt, q⟩) := by rw [← hw]
  have noted : w'.history settings = note [c]
      (.handed q.attempt receipt (Tracked.run settings w.calls).bus.now) (w.history settings) := by
    rw [history_concat calls, receipts]
    show ((Tracked.run settings w.calls).next c.subscription).history = _
    unfold Tracked.next
    rw [found]
    rfl
  have others : ∀ d, d ≠ c → w'.history settings d = w.history settings d := fun d apart => by
    rw [noted, note_one_of_ne apart]
  have handed : w'.history settings c = .handed q.attempt receipt
      (Tracked.run settings w.calls).bus.now :: w.history settings c := by
    rw [noted, note_one_self]
  have outcomes : ∀ d, w'.outcomes settings d = w.outcomes settings d := by
    intro d
    refine outcomes_congr book fun y hy => ?_
    by_cases same : d = c
    · subst same
      obtain ⟨e, k, u, -, before⟩ := inv.booked y hy
      have old := tracked.chronicle.receipts e k y.1 u (List.mem_of_mem_tail before)
      rw [handed]
      show y.1 ∈ receipt :: receiptsOf (w.history settings d) ↔ _
      exact List.mem_cons.trans (or_iff_right (Nat.ne_of_lt (receipts ▸ old)))
    · rw [others d same]
  exact inv.after {
    calls := calls
    bus := by rw [← hw, result, ← after]
    running := fun he => nomatch he
    open' := fun _ _ he => nomatch he
    entered := noted ▸ .note_one fun _ => rfl
    busy := fun id x working => by
      rw [busy] at working
      by_cases same : id = c.subscription
      · subst same
        rw [Function.update_self] at working
        cases working
        exact ⟨own, c, _, _, rfl, matched, handed⟩
      · rw [Function.update_of_ne same] at working
        obtain ⟨own', d, u, past, rfl, matched', latest⟩ := inv.busy id x working
        refine ⟨own', d, u, past, rfl, matched', ?_⟩
        rw [others d (ne_of_subscription same), latest]
    judged := fun d own' r hr => by
      have old (hr : r ∈ receiptsOf (w.history settings d)) : r ∈ w'.book.map Prod.fst ∨
          ∃ x, w'.busy d.subscription = some x ∧ x.receipt = r := by
        rw [book, busy]
        refine (inv.judged d own' r hr).imp_right fun ⟨x, working, receipt⟩ => ?_
        have apart : d.subscription ≠ c.subscription := fun he => by
          rw [he, free] at working
          cases working
        exact ⟨x, by rw [Function.update_of_ne apart, working], receipt⟩
      by_cases same : d = c
      · subst same
        rw [handed] at hr
        have hr : r ∈ receipt :: receiptsOf (w.history settings d) := hr
        rcases List.mem_cons.1 hr with rfl | hr
        · exact .inr ⟨_, by rw [busy, Function.update_self], rfl⟩
        · exact old hr
      · exact old (others d same ▸ hr)
    booked := fun y hy => .inl (book ▸ hy)
    nodup := book ▸ inv.nodup
    read := fun d own' v hv => .inl (outcomes d ▸ hv)
    answers := fun d own' => by
      rw [outcomes d, inv.answers d own']
      by_cases same : d = c
      · subst same
        rw [handed]
        rfl
      · rw [others d same]
    refusals := by
      have unmade : (Tracked.run settings w.calls).bus.made (.next c.subscription) = [] := rfl
      rw [book, ← inv.refusals, calls, Bus.copiesOf_concat, unmade, List.append_nil, noted]
      exact tally_of_entered (Q := fun _ s => s.isRefusal = false) (.note_one rfl) fun _ _ _ => id }

/-- Answering a delivery and writing down the verdict keeps the book in agreement with the bus. -/
theorem Inv.answered (inv : Inv settings h ids w) (unlimited : settings.limit = none) {id : Nat}
    {x : Held} (working : w.busy id = some x) {v : Verdict ε}
    (seen : v = .unread ↔ ¬ h.Takes x.parcel.octets) {s : σ}
    (after : Connected.bus s = (Connected.bus w.state).after (v.answer x.receipt)) :
    Inv settings h ids
      { state := s
        calls := w.calls ++ [v.answer x.receipt]
        busy := Function.update w.busy id none
        book := w.book ++ [(x.receipt, v)] } := by
  generalize hw : (⟨s, w.calls ++ [v.answer x.receipt], Function.update w.busy id none,
    w.book ++ [(x.receipt, v)]⟩ : Shift σ ε) = w'
  have calls : w'.calls = w.calls ++ [v.answer x.receipt] := by rw [← hw]
  have book : w'.book = w.book ++ [(x.receipt, v)] := by rw [← hw]
  have busy : w'.busy = Function.update w.busy id none := by rw [← hw]
  have answer : v.answer x.receipt = .ack x.receipt ∨ v.answer x.receipt = .nak x.receipt := by
    unfold Verdict.answer
    split
    · exact .inr rfl
    · exact .inl rfl
  obtain ⟨tracked, same⟩ := Tracked.inv_run settings w.calls
  obtain ⟨own, c, u, past, rfl, matched, latest⟩ := inv.busy id x working
  obtain ⟨p, found, -⟩ := Tracked.held_of_latest latest
  have unlimited : (Tracked.run settings w.calls).bus.settings.limit = none := by
    rw [same, Bus.settings_run, unlimited]
  obtain ⟨stage, noted, answered⟩ := tracked.history_answer unlimited found (inv.served _ own) v
  rw [← history_concat calls] at noted
  have kind := stage.of_answer? answered
  have others : ∀ d, d ≠ c → w'.history settings d = w.history settings d := fun d apart => by
    rw [noted]
    exact note_one_of_ne apart
  have judged : w'.history settings c = stage :: w.history settings c := by
    rw [noted]
    exact note_one_self
  have once : ∀ d k u', .handed k x.receipt u' ∈ w.history settings d →
      d = c ∧ k = x.parcel.attempt := fun d k u' hm => by
    obtain ⟨same, attempt, -⟩ := Tracked.unique_run settings w.calls hm (latest ▸ List.mem_cons_self)
    exact ⟨same, attempt⟩
  have receipts : ∀ d, receiptsOf (w'.history settings d) = receiptsOf (w.history settings d) := by
    intro d
    by_cases same : d = c
    · subst same
      unfold receiptsOf
      rw [judged, List.filterMap_cons_none kind.1]
    · rw [others d same]
  have outcome : w'.outcomes settings c = w.outcomes settings c ++ [v] := by
    rw [outcomes_booked book (receipts c), if_pos]
    exact mem_receiptsOf.2 ⟨_, _, latest ▸ List.mem_cons_self⟩
  have outcomes : ∀ d, d ≠ c → w'.outcomes settings d = w.outcomes settings d := by
    intro d apart
    rw [outcomes_booked book (receipts d), if_neg, List.append_nil]
    rintro receipt
    obtain ⟨k, u', hm⟩ := mem_receiptsOf.1 receipt
    exact apart (once d k u' hm).1
  exact inv.after {
    calls := calls
    bus := by rw [← hw, after]
    running := fun he => by rcases answer with ha | ha <;> rw [ha] at he <;> cases he
    open' := fun _ _ he => by rcases answer with ha | ha <;> rw [ha] at he <;> cases he
    entered := noted ▸ .note_one fun _ => kind.2.1
    busy := fun id y working => by
      rw [busy] at working
      by_cases same : id = c.subscription
      · subst same
        rw [Function.update_self] at working
        cases working
      · rw [Function.update_of_ne same] at working
        obtain ⟨own', d, u', past', rfl, matched', latest'⟩ := inv.busy id y working
        refine ⟨own', d, u', past', rfl, matched', ?_⟩
        rw [others d (ne_of_subscription same), latest']
    judged := fun d own' r hr => by
      rw [book, List.map_append, List.mem_append]
      rcases inv.judged d own' r (receipts d ▸ hr) with old | ⟨y, working', rfl⟩
      · exact .inl (.inl old)
      · by_cases same : d.subscription = c.subscription
        · rw [same, working] at working'
          cases working'
          exact .inl (.inr List.mem_cons_self)
        · exact .inr ⟨y, by rw [busy, Function.update_of_ne same, working'], rfl⟩
    booked := fun y hy => by
      rw [book] at hy
      refine (List.mem_append.1 hy).imp_right fun hy => ?_
      rw [List.mem_singleton.1 hy]
      refine ⟨c, x.parcel.attempt, u, own, ?_⟩
      rw [judged, latest]
      exact List.mem_cons_self
    nodup := by
      rw [book, List.map_append, List.nodup_append]
      refine ⟨inv.nodup, List.nodup_singleton _, ?_⟩
      rintro r hr _ hx rfl
      obtain ⟨y, hy, rfl⟩ := List.mem_map.1 hr
      obtain ⟨d, k, u', -, before⟩ := inv.booked y hy
      rw [List.mem_singleton.1 hx] at before
      obtain ⟨rfl, rfl⟩ := once d k u' (List.mem_of_mem_tail before)
      -- The delivery in hand is the latest of its copy, and the only one with its attempt.
      rw [latest] at before
      exact (latest ▸ w.journey settings (by simp [latest])).not_mem_of_handed before
    read := fun d own' v' hv => by
      by_cases same : d = c
      · subst same
        rw [outcome] at hv
        refine (List.mem_append.1 hv).imp_right fun hv => ⟨x.parcel, matched, ?_⟩
        rw [List.mem_singleton.1 hv]
        exact seen
      · exact .inl (outcomes d same ▸ hv)
    answers := fun d own' => by
      by_cases same : d = c
      · subst same
        rw [outcome, judged, List.map_append, inv.answers d own', List.filterMap_cons_some answered,
          List.reverse_cons]
        rfl
      · rw [outcomes d same, others d same, inv.answers d own']
    refusals := by
      have unmade : (Tracked.run settings w.calls).bus.made (v.answer x.receipt) = [] := by
        rcases answer with ha | ha <;> rw [ha] <;> rfl
      have sent : c ∈ Bus.copiesOf settings w.calls :=
        (Tracked.sent_run settings w.calls c).1 (List.ne_nil_of_mem (latest ▸ List.mem_cons_self))
      rw [book, List.countP_append, ← inv.refusals, calls, Bus.copiesOf_concat, unmade,
        List.append_nil, noted, List.countP_singleton]
      cases retry : v.isRetry with
      | false =>
        exact tally_of_entered (Q := fun _ s => s.isRefusal = false)
          (.note_one (kind.2.2.trans retry)) fun _ _ _ => id
      | true =>
        exact tally_note_one ((Bus.nodup_copiesOf settings w.calls).filter _)
          (mem_ownCopies.2 ⟨sent, own⟩) (kind.2.2.trans retry) }

/-- Only the bus in a state matters. -/
theorem Inv.withState (inv : Inv settings h ids w) {s : σ}
    (same : Connected.bus s = Connected.bus w.state) :
    Inv settings h ids { w with state := s } :=
  { inv with bus := same.trans inv.bus }

variable [Lawful σ]

/-- What others do, call by call, keeps the book in agreement with the bus. -/
theorem Inv.sparedAll : ∀ {calls : List Bus.Call} {w : Shift σ ε}, Inv settings h ids w →
    Bus.SparesAll ids (Connected.bus w.state) calls → ∀ {s : σ},
    Connected.bus s = calls.foldl Bus.after (Connected.bus w.state) →
    Inv settings h ids { w with state := s, calls := w.calls ++ calls }
  | [], w, inv, _, s, effect => by
    rw [List.append_nil]
    exact inv.withState effect
  | call :: calls, w, inv, spared, s, effect => by
    have after := Connected.bus_onBus (fun b => b.after call) w.state
    have first := inv.spared spared.1 after
    have rest := first.sparedAll (after ▸ spared.2) (s := s) (after ▸ effect)
    rw [List.append_assoc] at rest
    exact rest

/-- **Every step keeps the book in agreement with the bus.** -/
theorem Inv.step {w' : Shift σ ε} (unlimited : settings.limit = none) (step : Step h ids w w')
    (inv : Inv settings h ids w) : Inv settings h ids w' := by
  cases step with
  | take own free next => exact inv.taken own free next (Connected.bus_onBus _ _)
  | @finish id x calls working effect spared =>
    have handled := inv.sparedAll spared effect
    refine handled.answered unlimited working Handler.verdict_eq_unread ?_
    rw [Connected.bus_onBus, Connected.bus_count, Handler.settle_dispatch]
  | others effect spared => exact inv.sparedAll spared effect

end Shift

end Marketplace
