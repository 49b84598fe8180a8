import Marketplace.Proofs.Bus.Tracking

/-!
# What a call does to a bus

What was subscribed and logged stays, whatever happens; the clock and the receipts only go forward.
The delayed copies stand in the order in which they are due, because every refusal waits for the
same delay.

## Results

* `Bus.extends_after`: no call takes back a subscription or a message.
* `Bus.takeEarliest_cons`: the delayed copy that is due first is the first one.
-/

namespace Marketplace.Bus

variable {b b' : Bus}

/-! ## What stays -/

/-- One bus is an earlier state of another: subscriptions and messages stay, and a receiver that is
gone does not come back. -/
structure Extends (b b' : Bus) : Prop where
  settings : b'.settings = b.settings
  now : b.now ≤ b'.now
  receipts : b.receipts ≤ b'.receipts
  subscriber : ∀ {id : Nat} {s : Subscriber}, b.subscriber? id = some s → ∃ s', b'.subscriber? id = some s' ∧
    s'.address = s.address ∧ s'.subject = s.subject ∧ (s'.isOpen = true → s.isOpen = true)
  log : ∀ {i : Nat} {m : String × ByteArray}, b.log[i]? = some m → b'.log[i]? = some m

theorem Extends.refl (b : Bus) : b.Extends b :=
  ⟨rfl, Nat.le_refl _, Nat.le_refl _, fun h => ⟨_, h, rfl, rfl, id⟩, id⟩

theorem Extends.trans {b'' : Bus} (h : b.Extends b') (h' : b'.Extends b'') : b.Extends b'' where
  settings := h'.settings.trans h.settings
  now := Nat.le_trans h.now h'.now
  receipts := Nat.le_trans h.receipts h'.receipts
  subscriber found := by
    obtain ⟨s, found, address, subject, opened⟩ := h.subscriber found
    obtain ⟨s', found', address', subject', opened'⟩ := h'.subscriber found
    exact ⟨s', found', address'.trans address, subject'.trans subject, opened ∘ opened'⟩
  log found := h'.log (h.log found)

/-- A bus with the same subscriptions, log and settings, at a later time or with more receipts. -/
theorem Extends.of_eq (settings : b'.settings = b.settings) (now : b.now ≤ b'.now)
    (receipts : b.receipts ≤ b'.receipts) (subscribers : b'.subscribers = b.subscribers)
    (log : b'.log = b.log) : b.Extends b' where
  settings := settings
  now := now
  receipts := receipts
  subscriber found := ⟨_, by unfold subscriber? at *; rw [subscribers, found], rfl, rfl, id⟩
  log found := by rw [log, found]

/-- Subscriptions that change their flags are found under the same numbers. -/
theorem subscriber?_map {f : Subscriber → Subscriber} (own : ∀ s, (f s).id = s.id) (id : Nat)
    (h : b'.subscribers = b.subscribers.map f) :
    b'.subscriber? id = (b.subscriber? id).map f := by
  unfold subscriber?
  rw [h, List.find?_map]
  simp only [Function.comp_def, own]

theorem Extends.of_map {f : Subscriber → Subscriber} (own : ∀ s, (f s).id = s.id)
    (kept : ∀ s, (f s).address = s.address ∧ (f s).subject = s.subject ∧
      ((f s).isOpen = true → s.isOpen = true))
    (settings : b'.settings = b.settings) (now : b'.now = b.now) (receipts : b'.receipts = b.receipts)
    (subscribers : b'.subscribers = b.subscribers.map f) (log : ∃ more, b'.log = b.log ++ more) :
    b.Extends b' where
  settings := settings
  now := Nat.le_of_eq now.symm
  receipts := Nat.le_of_eq receipts.symm
  subscriber found := ⟨_, by rw [subscriber?_map own _ subscribers, found]; rfl, kept _⟩
  log found := by
    obtain ⟨more, log⟩ := log
    rw [log, List.getElem?_append_left (List.getElem?_eq_some_iff.1 found).1, found]

/-- The receiver of a subscription is there. -/
def takes (b : Bus) (id : Nat) : Bool := (b.subscriber? id).any Subscriber.isOpen

theorem takes_map {f : Subscriber → Subscriber} (own : ∀ s, (f s).id = s.id) (id : Nat)
    (h : b'.subscribers = b.subscribers.map f) (kept : ∀ s, (f s).isOpen = s.isOpen) :
    b'.takes id = b.takes id := by
  unfold takes
  rw [subscriber?_map own id h, Option.any_map]
  simp only [kept]

/-- The subscriptions are numbered in their order. -/
def IsNumbered (b : Bus) : Prop :=
  b.subscribers.map Subscriber.id = List.range b.subscribers.length

theorem IsNumbered.subscriber?_of_mem (h : b.IsNumbered) {s : Subscriber} (hs : s ∈ b.subscribers) :
    b.subscriber? s.id = some s := by
  have nodup : (b.subscribers.map Subscriber.id).Nodup := by
    rw [h]
    exact List.nodup_range
  obtain ⟨before, rest, split⟩ := List.append_of_mem hs
  unfold subscriber?
  rw [List.find?_eq_some_iff_append]
  refine ⟨beq_self_eq_true _, before, rest, split, fun u hu => ?_⟩
  rw [split, List.map_append, List.nodup_append] at nodup
  have other := nodup.2.2 u.id (List.mem_map_of_mem hu) s.id (by simp)
  simpa using other

theorem IsNumbered.id_lt (h : b.IsNumbered) {s : Subscriber} (hs : s ∈ b.subscribers) :
    s.id < b.subscribers.length := by
  have listed := List.mem_map_of_mem (f := Subscriber.id) hs
  rw [h] at listed
  exact List.mem_range.1 listed

theorem IsNumbered.of_map {f : Subscriber → Subscriber} (own : ∀ s, (f s).id = s.id)
    (h : b.IsNumbered) (subscribers : b'.subscribers = b.subscribers.map f) : b'.IsNumbered := by
  unfold IsNumbered
  rw [subscribers, List.map_map, List.length_map, ← h]
  exact List.map_congr_left fun s _ => own s

theorem unlistGone_id (subject : String) (s : Subscriber) : (unlistGone subject s).id = s.id := by
  unfold unlistGone
  split <;> rfl

theorem unlistGone_isOpen (subject : String) (s : Subscriber) :
    (unlistGone subject s).isOpen = s.isOpen := by
  unfold unlistGone
  split <;> rfl

theorem unlistGone_kept (subject : String) (s : Subscriber) :
    (unlistGone subject s).address = s.address ∧ (unlistGone subject s).subject = s.subject ∧
      ((unlistGone subject s).isOpen = true → s.isOpen = true) := by
  unfold unlistGone
  split
  · exact ⟨rfl, rfl, id⟩
  · exact ⟨rfl, rfl, id⟩

/-! ## Single calls -/

/-- A bus that carries one more message: it is logged and copied, and receivers that are gone are
taken off the list. -/
def carrying (b : Bus) (subject : String) (octets : ByteArray) (attempts : Nat) : Bus :=
  { b with
    attempts := attempts
    log := b.log ++ [(subject, octets)]
    waiting := b.waiting ++ b.copies subject octets
    subscribers := b.subscribers.map (unlistGone subject) }

/-- Publishing fails and at most counts the attempt, or the bus carries the message. -/
theorem publish_eq (subject : String) (octets : ByteArray) (b : Bus) :
    (∃ err attempts, b.publish subject octets = (.error err, { b with attempts := attempts })) ∨
    ∃ attempts, b.publish subject octets = (.ok (), b.carrying subject octets attempts) := by
  unfold publish
  split
  · exact .inl ⟨_, b.attempts, rfl⟩
  · dsimp only
    split
    · exact .inl ⟨_, _, rfl⟩
    · exact .inr ⟨_, rfl⟩

theorem extends_carrying (subject : String) (octets : ByteArray) (attempts : Nat) (b : Bus) :
    b.Extends (b.carrying subject octets attempts) :=
  .of_map (unlistGone_id subject) (unlistGone_kept subject) rfl rfl rfl rfl ⟨_, rfl⟩

theorem takes_carrying (subject : String) (octets : ByteArray) (attempts : Nat) (b : Bus)
    (id : Nat) : (b.carrying subject octets attempts).takes id = b.takes id :=
  takes_map (unlistGone_id subject) id rfl (unlistGone_isOpen subject)

theorem extends_publish (subject : String) (octets : ByteArray) (b : Bus) :
    b.Extends (b.publish subject octets).2 := by
  rcases publish_eq subject octets b with ⟨err, attempts, h⟩ | ⟨attempts, h⟩
  · rw [h]
    exact .of_eq rfl (Nat.le_refl _) (Nat.le_refl _) rfl rfl
  · rw [h]
    exact extends_carrying subject octets attempts b

theorem extends_subscribe (subject consumer : String) (b : Bus) :
    b.Extends (b.subscribe subject consumer).2 := by
  unfold subscribe
  split
  · exact .refl b
  · refine ⟨rfl, Nat.le_refl _, Nat.le_refl _, fun {id s} found => ⟨s, ?_, rfl, rfl, fun h => h⟩,
      fun h => h⟩
    unfold subscriber? at found ⊢
    rw [List.find?_append, found]
    rfl

theorem IsNumbered.subscribe (h : b.IsNumbered) (subject consumer : String) :
    (b.subscribe subject consumer).2.IsNumbered := by
  unfold Bus.subscribe
  split
  · exact h
  · unfold IsNumbered
    rw [List.map_append, h, List.length_append, List.length_singleton, List.range_succ]
    rfl

theorem takes_subscribe (subject consumer : String) (b : Bus) (id : Nat)
    (opened : b.takes id = true) : (b.subscribe subject consumer).2.takes id = true := by
  obtain ⟨s, found, hs⟩ := (Option.any_eq_true _ _).1 opened
  unfold Bus.subscribe
  split
  · exact opened
  · unfold takes subscriber?
    rw [List.find?_append, show List.find? _ b.subscribers = some s from found]
    exact hs

theorem extends_next (id : Nat) (b : Bus) : b.Extends (b.next id).2 := by
  unfold next
  split
  · exact .of_eq rfl (Nat.le_refl _) (Nat.le_succ _) rfl rfl
  · exact .refl b

theorem extends_ack (receipt : Nat) (b : Bus) : b.Extends (b.ack receipt) := by
  unfold ack
  split
  · exact .of_eq rfl (Nat.le_refl _) (Nat.le_refl _) rfl rfl
  · exact .refl b

theorem extends_nak (receipt : Nat) (b : Bus) : b.Extends (b.nak receipt).2 := by
  unfold nak
  split
  · exact .refl b
  · dsimp only
    split
    · exact .of_eq rfl (Nat.le_refl _) (Nat.le_refl _) rfl rfl
    · split <;> exact .of_eq rfl (Nat.le_refl _) (Nat.le_refl _) rfl rfl

theorem extends_unsubscribe (id : Nat) (b : Bus) : b.Extends (b.unsubscribe id) := by
  have own (s : Subscriber) :
      (if s.id = id then { s with isOpen := false } else s).id = s.id := by
    split <;> rfl
  refine .of_map own (fun s => ?_) rfl rfl rfl rfl ⟨[], (List.append_nil _).symm⟩
  split
  · exact ⟨rfl, rfl, fun h => nomatch h⟩
  · exact ⟨rfl, rfl, fun h => h⟩

/-- Only the receiver of the subscription goes. -/
theorem takes_unsubscribe (id id' : Nat) (b : Bus) :
    (b.unsubscribe id).takes id' = (b.takes id' && id' != id) := by
  have own (s : Subscriber) :
      (if s.id = id then { s with isOpen := false } else s).id = s.id := by
    split <;> rfl
  unfold takes
  rw [subscriber?_map own id' rfl]
  cases found : b.subscriber? id' with
  | none => rfl
  | some s =>
    have named : s.id = id' := by
      unfold subscriber? at found
      simpa using List.find?_some found
    subst named
    by_cases same : s.id = id
    · simp [same]
    · simp [same]

theorem extends_requeue (d : Delayed) (rest : List Delayed) (b : Bus) :
    b.Extends (b.requeue d rest) := .of_eq rfl (Nat.le_refl _) (Nat.le_refl _) rfl rfl

theorem extends_close (b : Bus) : b.Extends b.close :=
  .of_map (f := fun s => { s with listed := false }) (fun _ => rfl) (fun _ => ⟨rfl, rfl, id⟩)
    rfl rfl rfl rfl ⟨[], (List.append_nil _).symm⟩

theorem next_of_find {id : Nat} {p : Parcel}
    (h : b.waiting.find? (fun p => p.subscription == id) = some p) :
    b.next id = (.message b.receipts p, { b with
      waiting := b.waiting.eraseP fun p => p.subscription == id
      held := b.held ++ [⟨b.receipts, p⟩]
      receipts := b.receipts + 1 }) := by
  unfold next
  rw [h]

/-- The answer is the first parcel that waits, against the next receipt. -/
theorem next_eq_message {id r : Nat} {p : Parcel} : (b.next id).1 = .message r p ↔
    b.waiting.find? (fun p => p.subscription == id) = some p ∧ r = b.receipts := by
  unfold next
  cases b.waiting.find? fun p => p.subscription == id with
  | none =>
    refine iff_of_false (fun h => ?_) fun h => nomatch h.1
    dsimp only at h
    split at h <;> cases h
  | some q =>
    simp only [Next.message.injEq, Option.some.injEq]
    constructor
    · rintro ⟨rfl, rfl⟩
      exact ⟨rfl, rfl⟩
    · rintro ⟨rfl, rfl⟩
      exact ⟨rfl, rfl⟩

/-- What one subscription gets next depends on what waits there and on who sends to it. -/
theorem next_congr {id : Nat} (waiting : b'.waiting = b.waiting) (receipts : b'.receipts = b.receipts)
    (hasSender : b'.hasSender id = b.hasSender id) : (b'.next id).1 = (b.next id).1 := by
  unfold next
  rw [waiting, receipts, hasSender]
  split <;> rfl

theorem next_of_none {id : Nat} (h : b.waiting.find? (fun p => p.subscription == id) = none) :
    (b.next id).2 = b := by
  unfold next
  rw [h]

theorem ack_of_find {receipt : Nat} {x : Held}
    (h : b.held.find? (fun x => x.receipt == receipt) = some x) :
    b.ack receipt = { b with
      held := b.held.eraseP fun x => x.receipt == receipt
      acked := b.acked + 1 } := by
  unfold ack held?
  rw [h]
  rfl

theorem ack_of_none {receipt : Nat} (h : b.held.find? (fun x => x.receipt == receipt) = none) :
    b.ack receipt = b := by
  unfold ack held?
  rw [h]
  rfl

/-- A refusal of what was handed out: after the last attempt, while somebody sends to the
subscription, or when nobody does. -/
theorem nak_of_find {receipt : Nat} {x : Held}
    (h : b.held.find? (fun x => x.receipt == receipt) = some x) :
    let released := { b with
      held := b.held.eraseP fun x => x.receipt == receipt
      naked := b.naked + 1 }
    b.nak receipt =
      if b.settings.isLast x.parcel.attempt then (.ok (), released)
      else if b.hasSender x.parcel.subscription then
        (.ok (), { released with delayed := b.delayed ++
          [⟨b.now + b.settings.delay, { x.parcel with attempt := x.parcel.attempt + 1 }⟩] })
      else (.error .closed, released) := by
  unfold nak held?
  rw [h]
  rfl

theorem nak_of_none {receipt : Nat} (h : b.held.find? (fun x => x.receipt == receipt) = none) :
    b.nak receipt = (.ok (), b) := by
  unfold nak held?
  rw [h]
  rfl

theorem IsNumbered.close (h : b.IsNumbered) : b.close.IsNumbered :=
  h.of_map (f := fun s => { s with listed := false }) (fun _ => rfl) rfl

theorem takes_close (b : Bus) (id : Nat) : b.close.takes id = b.takes id :=
  takes_map (f := fun s => { s with listed := false }) (fun _ => rfl) id rfl fun _ => rfl

/-- What queues again does not depend on the clock. -/
theorem requeueUntil_now (time now : Nat) : ∀ (count : Nat) (b : Bus),
    requeueUntil time count { b with now := now } = { requeueUntil time count b with now := now }
  | 0, _ => rfl
  | count + 1, b => by
    unfold requeueUntil
    dsimp only
    cases takeEarliest b.delayed with
    | none => rfl
    | some x =>
      obtain ⟨d, rest⟩ := x
      dsimp only
      split
      · exact requeueUntil_now time now count (b.requeue d rest)
      · rfl

theorem extends_requeueUntil (time : Nat) : ∀ (count : Nat) (b : Bus),
    b.Extends (requeueUntil time count b)
  | 0, b => .refl b
  | count + 1, b => by
    unfold requeueUntil
    split
    · split
      · exact (extends_requeue _ _ b).trans (extends_requeueUntil time count _)
      · exact .refl b
    · exact .refl b

theorem extends_pass (duration : Nat) (b : Bus) : b.Extends (b.pass duration) := by
  have clock : Extends { b with now := b.now + duration } (b.pass duration) := by
    have := extends_requeueUntil (b.now + duration) b.delayed.length
      { b with now := b.now + duration }
    rwa [requeueUntil_now] at this
  have later : b.Extends { b with now := b.now + duration } :=
    .of_eq rfl (Nat.le_add_right _ _) (Nat.le_refl _) rfl rfl
  exact later.trans clock

/-- **No call takes back a subscription or a message.** -/
theorem extends_after (call : Call) (b : Bus) : b.Extends (b.after call) := by
  cases call with
  | subscribe subject consumer => exact extends_subscribe subject consumer b
  | publish subject octets => exact extends_publish subject octets b
  | next id => exact extends_next id b
  | ack receipt => exact extends_ack receipt b
  | nak receipt => exact extends_nak receipt b
  | unsubscribe id => exact extends_unsubscribe id b
  | pass duration => exact extends_pass duration b
  | failOn attempt => exact .of_eq rfl (Nat.le_refl _) (Nat.le_refl _) rfl rfl
  | close => exact extends_close b

/-! ## The delayed copies -/

theorem takeEarliest_mem : ∀ {ds : List Delayed} {d : Delayed} {rest : List Delayed},
    takeEarliest ds = some (d, rest) → d ∈ ds
  | d :: ds, e, rest, h => by
    unfold takeEarliest at h
    split at h
    · rename_i f others earlier
      split at h
      · cases h
        exact List.mem_cons_of_mem d (takeEarliest_mem earlier)
      · cases h
        exact List.mem_cons_self
    · cases h
      exact List.mem_cons_self

/-- **The delayed copy that is due first is the first one.** -/
theorem takeEarliest_cons {d : Delayed} {ds : List Delayed} (first : ∀ e ∈ ds, d.due ≤ e.due) :
    takeEarliest (d :: ds) = some (d, ds) := by
  unfold takeEarliest
  split
  · rename_i e rest h
    rw [if_neg (Nat.not_lt.2 (first e (takeEarliest_mem h)))]
  · rename_i h
    cases ds with
    | nil => rfl
    | cons e es =>
      unfold takeEarliest at h
      split at h
      · split at h <;> cases h
      · cases h

end Marketplace.Bus
