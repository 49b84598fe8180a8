import Marketplace.Proofs.Bus.Placement

/-!
# The tracked bus in order

What holds of a tracked bus whatever is done with it: the labels stand on the parcels of the bus,
every copy is in its place, every history is a journey, and the first attempts of a subscription
come in the order of publication.

## Results

* `Tracked.Inv.after`: every call keeps the invariant, and the labels do not disturb the bus.
-/

namespace Marketplace

/-! ## Lists with a marked entry -/

theorem find?_split {α : Type} {p : α → Bool} {l : List α} {a : α} (h : l.find? p = some a) :
    ∃ before rest, l = before ++ a :: rest ∧ l.eraseP p = before ++ rest ∧ p a = true ∧
      ∀ x ∈ before, p x = false := by
  obtain ⟨ha, before, rest, rfl, none⟩ := List.find?_eq_some_iff_append.1 h
  have none : ∀ x ∈ before, p x = false := fun x hx => by simpa using none x hx
  refine ⟨before, rest, rfl, ?_, ha, none⟩
  rw [List.eraseP_append_right _ (fun x hx => by simp [none x hx]), List.eraseP_cons_of_pos ha]

namespace Tracked

variable {t : Tracked}

/-- The spots of all parcels with their copies. -/
def spots (queued : List (Parcel × Copy)) (held : List (Held × Copy))
    (delayed : List (Delayed × Copy)) : Multiset (Copy × Spot) :=
  (queued.map fun x => (x.2, Spot.queued x.1) : List _) +
    ((held.map fun x => (x.2, Spot.held x.1) : List _) +
      (delayed.map fun x => (x.2, Spot.delayed x.1) : List _))

theorem spots_queued (before rest : List (Parcel × Copy)) (x : Parcel × Copy)
    (held : List (Held × Copy)) (delayed : List (Delayed × Copy)) :
    spots (before ++ x :: rest) held delayed =
      (x.2, .queued x.1) ::ₘ spots (before ++ rest) held delayed := by
  simp only [spots, List.map_append, List.map_cons, ← Multiset.coe_add, ← Multiset.cons_coe,
    Multiset.add_cons, Multiset.cons_add]

theorem spots_held (queued : List (Parcel × Copy)) (before rest : List (Held × Copy))
    (x : Held × Copy) (delayed : List (Delayed × Copy)) :
    spots queued (before ++ x :: rest) delayed =
      (x.2, .held x.1) ::ₘ spots queued (before ++ rest) delayed := by
  simp only [spots, List.map_append, List.map_cons, ← Multiset.coe_add, ← Multiset.cons_coe,
    Multiset.add_cons, Multiset.cons_add]

theorem spots_delayed (queued : List (Parcel × Copy)) (held : List (Held × Copy))
    (before rest : List (Delayed × Copy)) (x : Delayed × Copy) :
    spots queued held (before ++ x :: rest) =
      (x.2, .delayed x.1) ::ₘ spots queued held (before ++ rest) := by
  simp only [spots, List.map_append, List.map_cons, ← Multiset.coe_add, ← Multiset.cons_coe,
    Multiset.add_cons]

theorem spots_append (queued more : List (Parcel × Copy)) (held : List (Held × Copy))
    (delayed : List (Delayed × Copy)) :
    spots (queued ++ more) held delayed = spots more [] [] + spots queued held delayed := by
  simp only [spots, List.map_append, ← Multiset.coe_add, List.map_nil, Multiset.coe_nil]
  rw [add_zero, add_zero, add_assoc, add_left_comm]

theorem spots_perm {queued queued' : List (Parcel × Copy)} (same : queued.Perm queued')
    (held : List (Held × Copy)) (delayed : List (Delayed × Copy)) :
    spots queued held delayed = spots queued' held delayed := by
  unfold spots
  rw [Multiset.coe_eq_coe.2 (same.map _)]

theorem map_fst_spots (queued : List (Parcel × Copy)) (held : List (Held × Copy))
    (delayed : List (Delayed × Copy)) : (spots queued held delayed).map Prod.fst =
      (queued.map Prod.snd ++ (held.map Prod.snd ++ delayed.map Prod.snd) : List Copy) := by
  simp only [spots, Multiset.map_add, Multiset.map_coe, List.map_map, ← Multiset.coe_add,
    Function.comp_def]

theorem mem_spots {queued : List (Parcel × Copy)} {held : List (Held × Copy)}
    {delayed : List (Delayed × Copy)} {c : Copy} {a : Spot} :
    (c, a) ∈ spots queued held delayed ↔ match a with
      | .queued p => (p, c) ∈ queued
      | .held x => (x, c) ∈ held
      | .delayed d => (d, c) ∈ delayed := by
  unfold spots
  simp only [Multiset.mem_add, Multiset.mem_coe, List.mem_map, Prod.mk.injEq, Prod.exists]
  cases a <;> grind

theorem mem_spots_of_queued {x : Parcel × Copy} (hx : x ∈ t.queued) :
    (x.2, Spot.queued x.1) ∈ spots t.queued t.held t.delayed := mem_spots.2 hx

theorem mem_spots_of_held {x : Held × Copy} (hx : x ∈ t.held) :
    (x.2, Spot.held x.1) ∈ spots t.queued t.held t.delayed := mem_spots.2 hx

theorem mem_spots_of_delayed {x : Delayed × Copy} (hx : x ∈ t.delayed) :
    (x.2, Spot.delayed x.1) ∈ spots t.queued t.held t.delayed := mem_spots.2 hx

theorem mem_spots_nil {queued : List (Parcel × Copy)} {x : Copy × Spot}
    (h : x ∈ spots queued [] []) : ∃ y ∈ queued, x = (y.2, .queued y.1) := by
  simp only [spots, List.map_nil, Multiset.coe_nil, add_zero, Multiset.mem_coe, List.mem_map] at h
  obtain ⟨y, hy, rfl⟩ := h
  exact ⟨y, hy, rfl⟩

/-- First attempts come in the order of publication: those in the queue stand in it, and what was
handed out for the first time has nothing before it that was not. -/
structure InOrder (queued : List (Parcel × Copy)) (history : Copy → List Stage) : Prop where
  waiting : queued.Pairwise fun x y => x.2.subscription = y.2.subscription →
    x.1.attempt = 1 → y.1.attempt = 1 → x.2.message < y.2.message
  before : ∀ c d, c.subscription = d.subscription → c.message < d.message → history c ≠ [] →
    ∀ r u, .handed 1 r u ∈ history d → ∃ r' u', .handed 1 r' u' ∈ history c ∧ r' < r

/-- The tracked bus is in order. -/
structure Inv (t : Tracked) : Prop where
  waiting : t.bus.waiting = t.queued.map Prod.fst
  held : t.bus.held = t.held.map Prod.fst
  delayed : t.bus.delayed = t.delayed.map Prod.fst
  numbered : t.bus.IsNumbered
  sorted : t.delayed.Pairwise fun x y => x.1.due ≤ y.1.due
  due : ∀ x ∈ t.delayed, x.1.due ≤ t.bus.now + t.bus.settings.delay
  placed : Placed t.bus.settings t.history (spots t.queued t.held t.delayed)
  matched : ∀ x ∈ spots t.queued t.held t.delayed, t.bus.Matches x.2.parcel x.1
  opened : ∀ x ∈ t.queued, t.bus.takes x.2.subscription = true
  chronicle : Chronicle t.bus t.history
  inOrder : InOrder t.queued t.history

theorem Inv.new (settings : BusSettings) : Inv (Tracked.new settings) where
  waiting := rfl
  held := rfl
  delayed := rfl
  numbered := rfl
  sorted := .nil
  due := by simp [Tracked.new]
  placed := ⟨by simp [spots, Tracked.new], by simp [spots, Tracked.new], by simp [Tracked.new]⟩
  matched := by simp [spots, Tracked.new]
  opened := by simp [Tracked.new]
  chronicle := ⟨by simp [Tracked.new], by simp [Tracked.new], by simp [Tracked.new],
    by simp [Tracked.new], by simp [Tracked.new]⟩
  inOrder := ⟨.nil, by simp [Tracked.new]⟩

/-- A call that moves no parcel keeps everything in order. -/
theorem Inv.onBus (h : t.Inv) {b : Bus} (ext : t.bus.Extends b) (waiting : b.waiting = t.bus.waiting)
    (held : b.held = t.bus.held) (delayed : b.delayed = t.bus.delayed) (numbered : b.IsNumbered)
    (opened : ∀ id, t.bus.takes id = true → b.takes id = true) : Inv { t with bus := b } where
  waiting := waiting.trans h.waiting
  held := held.trans h.held
  delayed := delayed.trans h.delayed
  numbered := numbered
  sorted := h.sorted
  due x hx := by
    have due := h.due x hx
    have now := ext.now
    show x.1.due ≤ b.now + b.settings.delay
    rw [ext.settings]
    omega
  placed := ext.settings ▸ h.placed
  matched x hx := ext.matches (h.matched x hx)
  opened x hx := opened _ (h.opened x hx)
  chronicle := h.chronicle.mono ext
  inOrder := h.inOrder

/-- The copy of a parcel on the bus is on a journey whose latest stage fits its spot. -/
theorem Inv.journey (h : t.Inv) {x : Copy × Spot} (hx : x ∈ spots t.queued t.held t.delayed) :
    ∃ s past, t.history x.1 = s :: past ∧ x.2.Fits t.bus.settings s ∧ s.time ≤ t.bus.now ∧
      Journey t.bus.settings (s :: past) := by
  obtain ⟨s, latest, fit⟩ := h.placed.fits x hx
  obtain ⟨past, eq⟩ := List.head?_eq_some_iff.1 latest
  refine ⟨s, past, eq, fit, h.chronicle.times x.1 s (eq ▸ List.mem_cons_self), ?_⟩
  exact eq ▸ h.chronicle.journeys x.1 (eq ▸ List.cons_ne_nil _ _)

/-! ## Order of first attempts -/

/-- Stages other than a first delivery leave the first deliveries in order. -/
theorem InOrder.note {queued queued' : List (Parcel × Copy)} {history : Copy → List Stage}
    {cs : List Copy} {s : Stage} (h : InOrder queued history)
    (waiting : queued'.Pairwise fun x y => x.2.subscription = y.2.subscription →
      x.1.attempt = 1 → y.1.attempt = 1 → x.2.message < y.2.message)
    (silent : ∀ r u, s ≠ .handed 1 r u)
    (late : ∀ c ∈ cs, history c = [] → ∀ d, history d ≠ [] → d.message ≤ c.message) :
    InOrder queued' (note cs s history) where
  waiting := waiting
  before c d same lt hc r u hd := by
    have hd : .handed 1 r u ∈ history d := by
      rcases mem_note.1 hd with ⟨-, he⟩ | hd
      · exact (silent r u he.symm).elim
      · exact hd
    have sent : history c ≠ [] := by
      by_cases hm : c ∈ cs
      · intro none
        have := late c hm none d (List.ne_nil_of_mem hd)
        omega
      · rwa [note_of_not_mem hm] at hc
    obtain ⟨r', u', hm, earlier⟩ := h.before c d same lt sent r u hd
    exact ⟨r', u', mem_note.2 (.inr hm), earlier⟩

/-- A first delivery of the first parcel in the queue of a subscription is in order. -/
theorem Inv.inOrder_handed (h : t.Inv) {before rest : List (Parcel × Copy)} {p : Parcel} {c : Copy}
    (split : t.queued = before ++ (p, c) :: rest)
    (first : ∀ x ∈ before, x.2.subscription ≠ c.subscription) (u : Nat) :
    InOrder (before ++ rest) (note [c] (.handed p.attempt t.bus.receipts u) t.history) where
  waiting := by
    have waiting := h.inOrder.waiting
    rw [split] at waiting
    exact waiting.sublist ((List.sublist_cons_self _ _).append_left _)
  before c' d same lt hc' r v hd := by
    have here : (p, c) ∈ t.queued := split ▸ by simp
    obtain ⟨s, past, latest, -⟩ := h.journey (mem_spots_of_queued here)
    have sent : t.history c' ≠ [] := by
      by_cases hm : c' ∈ [c]
      · rw [List.mem_singleton.1 hm]
        exact latest ▸ List.cons_ne_nil _ _
      · rwa [note_of_not_mem hm] at hc'
    rcases mem_note.1 hd with ⟨hm, he⟩ | hd
    · -- The copy is handed out now: an earlier one is in front of it, was handed out, or is gone.
      obtain rfl := List.mem_singleton.1 hm
      obtain ⟨one, rfl, rfl⟩ := Stage.handed.inj he
      rcases (h.chronicle.journeys c' sent).first_cases with ⟨r, w, hm⟩ | ⟨w, waits | gone⟩
      · exact ⟨r, w, mem_note.2 (.inr hm), h.chronicle.receipts c' _ _ _ hm⟩
      · obtain ⟨x, hx, rfl⟩ := Multiset.mem_map.1 (h.placed.covers c' (.queued 1 w)
          (by simp [waits]) rfl)
        obtain ⟨c', a⟩ := x
        obtain ⟨s, past, latest, fit, -⟩ := h.journey hx
        cases waits.symm.trans latest
        cases fit with
        | queued _ attempt =>
          have ahead := mem_spots.1 hx
          rw [split] at ahead
          have waiting := h.inOrder.waiting
          rw [split] at waiting
          rcases List.mem_append.1 ahead with hb | hr
          · exact (first _ hb same).elim
          · rcases List.mem_cons.1 hr with he | hr
            · cases he
              exact (Nat.lt_irrefl _ lt).elim
            · have later := (List.pairwise_cons.1 (List.pairwise_append.1 waiting).2.1).1 _ hr
              have := later same.symm one.symm attempt
              dsimp only at this lt
              omega
      · have open' := h.opened _ here
        have closed := h.chronicle.gone c' (by simp [gone])
        rw [same] at closed
        exact absurd open' (by simp [closed])
    · obtain ⟨r', u', hm, earlier⟩ := h.inOrder.before c' d same lt sent r v hd
      exact ⟨r', u', mem_note.2 (.inr hm), earlier⟩

/-! ## Single calls -/

/-- The copies of a message that is published, with the numbers that they get. -/
def sent (t : Tracked) (subject : String) (octets : ByteArray) : List (Parcel × Copy) :=
  (t.bus.copies subject octets).map fun p => (p, ⟨t.bus.log.length, p.subscription⟩)

theorem mem_sent {subject : String} {octets : ByteArray} {x : Parcel × Copy} :
    x ∈ t.sent subject octets ↔ ∃ s ∈ t.bus.subscribers, s.isLive = true ∧ s.subject = subject ∧
      x = (⟨s.id, s.address, octets, 1⟩, ⟨t.bus.log.length, s.id⟩) := by
  simp only [sent, Bus.copies, List.map_map, List.mem_map, List.mem_filter, Bool.and_eq_true,
    beq_iff_eq, Function.comp_apply]
  grind

/-- A new copy is a parcel of the message, for a receiver who is there. -/
theorem Inv.matches_sent (h : t.Inv) {subject : String} {octets : ByteArray}
    (attempts : Nat) {x : Parcel × Copy} (hx : x ∈ t.sent subject octets) :
    (t.bus.carrying subject octets attempts).Matches x.1 x.2 ∧
      t.bus.takes x.2.subscription = true := by
  obtain ⟨s, hs, live, rfl, rfl⟩ := mem_sent.1 hx
  have found := h.numbered.subscriber?_of_mem hs
  have found' : (t.bus.carrying s.subject octets attempts).subscriber? s.id =
      some (Bus.unlistGone s.subject s) := by
    rw [Bus.subscriber?_map (Bus.unlistGone_id s.subject) s.id rfl, found]
    rfl
  obtain ⟨address, subject, -⟩ := Bus.unlistGone_kept s.subject s
  refine ⟨⟨rfl, _, found', address.symm, ?_⟩, ?_⟩
  · rw [subject]
    exact List.getElem?_concat_length
  · show (t.bus.subscriber? s.id).any Subscriber.isOpen = true
    rw [found]
    exact (Bool.and_eq_true_iff.1 live).2

theorem Inv.nodup_sent (h : t.Inv) (subject : String) (octets : ByteArray) :
    ((t.sent subject octets).map Prod.snd).Nodup := by
  apply List.Nodup.of_map Copy.subscription
  have ids : ((t.sent subject octets).map Prod.snd).map Copy.subscription =
      (t.bus.subscribers.filter fun s => s.isLive && s.subject == subject).map Subscriber.id := by
    simp only [sent, Bus.copies, List.map_map, Function.comp_def]
  rw [ids]
  apply (List.filter_sublist.map Subscriber.id).nodup
  rw [h.numbered]
  exact List.nodup_range

/-- A message that is published is put into the queues of the live subscriptions. -/
theorem Inv.carrying (h : t.Inv) (subject : String) (octets : ByteArray) (attempts : Nat) :
    Inv { t with
      bus := t.bus.carrying subject octets attempts
      queued := t.queued ++ t.sent subject octets
      history := note ((t.sent subject octets).map Prod.snd) (.queued 1 t.bus.now) t.history } := by
  have ext := Bus.extends_carrying subject octets attempts t.bus
  have nodup := h.nodup_sent subject octets
  have first : ∀ x ∈ t.sent subject octets, x.1.attempt = 1 ∧ x.2.message = t.bus.log.length := by
    intro x hx
    obtain ⟨s, -, -, -, rfl⟩ := mem_sent.1 hx
    exact ⟨rfl, rfl⟩
  have fresh : ∀ c ∈ (t.sent subject octets).map Prod.snd, c.message = t.bus.log.length := by
    intro c hc
    obtain ⟨x, hx, rfl⟩ := List.mem_map.1 hc
    exact (first x hx).2
  have unsent : ∀ c ∈ (t.sent subject octets).map Prod.snd, t.history c = [] := by
    intro c hc
    by_contra known
    exact absurd (h.chronicle.message_lt known) (Nat.not_lt.2 (Nat.le_of_eq (fresh c hc).symm))
  exact {
    waiting := by
      show t.bus.waiting ++ _ = (t.queued ++ t.sent subject octets).map Prod.fst
      rw [List.map_append, ← h.waiting]
      simp [sent, Function.comp_def]
    held := h.held
    delayed := h.delayed
    numbered := .of_map (Bus.unlistGone_id subject) h.numbered rfl
    sorted := h.sorted
    due := h.due
    placed := by
      rw [spots_append]
      refine h.placed.enter unsent ?_ (fun c => ?_) fun x hx => ?_
      · rw [map_fst_spots]
        simpa using nodup
      · rw [map_fst_spots]
        simp
      · obtain ⟨y, hy, rfl⟩ := mem_spots_nil hx
        exact .queued _ (first y hy).1
    matched := by
      intro x hx
      rw [spots_append, Multiset.mem_add] at hx
      rcases hx with hx | hx
      · obtain ⟨y, hy, rfl⟩ := mem_spots_nil hx
        exact (h.matches_sent attempts hy).1
      · exact ext.matches (h.matched x hx)
    opened := by
      intro x hx
      show (t.bus.carrying subject octets attempts).takes _ = true
      rw [Bus.takes_carrying]
      rcases List.mem_append.1 hx with hx | hx
      · exact h.opened x hx
      · exact (h.matches_sent attempts hx).2
    chronicle := by
      refine (h.chronicle.mono ext).note (fun c hc => ?_) (Nat.le_refl _)
        (fun _ _ _ he => nomatch he) (fun he => nomatch he)
      rw [unsent c hc]
      obtain ⟨x, hx, rfl⟩ := List.mem_map.1 hc
      exact ⟨.sent _, (h.matches_sent attempts hx).1.knows⟩
    inOrder := by
      refine h.inOrder.note ?_ (fun _ _ he => nomatch he) fun c hc _ d hd => ?_
      · refine List.pairwise_append.2 ⟨h.inOrder.waiting, ?_, fun x hx y hy _ _ _ => ?_⟩
        · -- Two new copies are of one message, and so for different subscriptions.
          refine (List.pairwise_map.1 nodup).imp_of_mem fun {x y} hx hy other same _ _ => ?_
          refine (other ?_).elim
          rw [Copy.mk.injEq]
          exact ⟨(first x hx).2.trans (first y hy).2.symm, same⟩
        · obtain ⟨s, past, latest, -⟩ := h.journey (mem_spots_of_queued hx)
          rw [(first y hy).2]
          exact h.chronicle.message_lt (latest ▸ List.cons_ne_nil _ _)
      · rw [fresh c hc]
        exact Nat.le_of_lt (h.chronicle.message_lt hd) }

theorem Inv.publish (h : t.Inv) (subject : String) (octets : ByteArray) :
    (t.publish subject octets).Inv := by
  have ext := Bus.extends_publish subject octets t.bus
  unfold Tracked.publish
  rcases Bus.publish_eq subject octets t.bus with ⟨err, attempts, eq⟩ | ⟨attempts, eq⟩
  · rw [eq] at ext ⊢
    exact h.onBus ext rfl rfl rfl h.numbered fun _ => id
  · rw [eq] at ext ⊢
    exact h.carrying subject octets attempts

/-- The first parcel that waits for a subscription is the first one with a label. -/
theorem Inv.find?_waiting (h : t.Inv) (id : Nat) :
    t.bus.waiting.find? (fun p => p.subscription == id) =
      (t.queued.find? fun x => x.1.subscription == id).map Prod.fst := by
  rw [h.waiting, List.find?_map]
  rfl

theorem Inv.next (h : t.Inv) (id : Nat) : (t.next id).Inv := by
  unfold Tracked.next
  cases found : t.queued.find? fun x => x.1.subscription == id with
  | none =>
    dsimp only
    rw [Bus.next_of_none ((h.find?_waiting id).trans (congrArg (Option.map Prod.fst) found))]
    exact h
  | some x =>
    obtain ⟨p, c⟩ := x
    obtain ⟨before, rest, split, erased, asked, first⟩ := find?_split found
    have labels := (h.find?_waiting id).trans (congrArg (Option.map Prod.fst) found)
    have erased' : t.bus.waiting.eraseP (fun p => p.subscription == id) =
        (before ++ rest).map Prod.fst := by
      rw [h.waiting, List.eraseP_map]
      exact congrArg (List.map Prod.fst) erased
    dsimp only
    rw [Bus.next_of_find labels, erased, erased']
    have here := mem_spots_of_queued (split ▸ by simp : (p, c) ∈ t.queued)
    obtain ⟨s, past, latest, fit, time, journeyed⟩ := h.journey here
    have known : t.bus.Matches p c := h.matched _ here
    have own : p.subscription = c.subscription := known.1
    have first : ∀ x ∈ before, x.2.subscription ≠ c.subscription := by
      intro x hx same
      have matched := h.matched _ (mem_spots_of_queued (split ▸ by simp [hx] : x ∈ t.queued))
      have other := beq_eq_false_iff_ne.1 (first x hx)
      exact other (matched.1.trans (same.trans (own.symm.trans (beq_iff_eq.1 asked))))
    have placed := h.placed
    have matched := h.matched
    rw [split, spots_queued, show t.held = t.held ++ [] from (List.append_nil _).symm] at placed matched
    have ext := Bus.extends_next id t.bus
    rw [Bus.next_of_find labels, erased'] at ext
    exact {
      waiting := rfl
      held := by simp [h.held]
      delayed := h.delayed
      numbered := h.numbered
      sorted := h.sorted
      due := h.due
      placed := by
        have moved := placed.move (.held (x := ⟨t.bus.receipts, p⟩) t.bus.now rfl rfl)
        rwa [← spots_held (before ++ rest) t.held [] (⟨t.bus.receipts, p⟩, c)] at moved
      matched := fun y hy => by
        rw [spots_held, Multiset.mem_cons] at hy
        rcases hy with rfl | hy
        · exact ext.matches known
        · exact ext.matches (matched y (Multiset.mem_cons_of_mem hy))
      opened := fun y hy => h.opened y (split ▸ ((List.sublist_cons_self _ _).append_left _).mem hy)
      chronicle := by
        refine (h.chronicle.mono ext).note (fun d hd => ?_) (Nat.le_refl _) ?_ (fun he => nomatch he)
        · rw [List.mem_singleton.1 hd, latest]
          cases fit with
          | queued u attempt =>
            subst attempt
            exact ⟨.handed _ _ journeyed time, ext.knows known.knows⟩
        · intro k r u he
          obtain ⟨-, rfl, -⟩ := Stage.handed.inj he
          exact Nat.lt_succ_self _
      inOrder := h.inOrder_handed split first _ }

/-- The parcel that was handed out against a receipt, with its copy and what the bus does to it. -/
theorem Inv.held_split (h : t.Inv) {receipt : Nat} {x : Held × Copy}
    (found : t.held.find? (fun x => x.1.receipt == receipt) = some x) :
    t.bus.held.find? (fun x => x.receipt == receipt) = some x.1 ∧
    ∃ before rest, t.held = before ++ x :: rest ∧
      t.held.eraseP (fun x => x.1.receipt == receipt) = before ++ rest ∧
      t.bus.held.eraseP (fun x => x.receipt == receipt) = (before ++ rest).map Prod.fst := by
  obtain ⟨before, rest, split, erased, -, -⟩ := find?_split found
  refine ⟨?_, before, rest, split, erased, ?_⟩
  · rw [h.held, List.find?_map]
    exact congrArg (Option.map Prod.fst) found
  · rw [h.held, List.eraseP_map]
    exact congrArg (List.map Prod.fst) erased

theorem Inv.find?_held_eq_none (h : t.Inv) {receipt : Nat}
    (found : t.held.find? (fun x => x.1.receipt == receipt) = none) :
    t.bus.held.find? (fun x => x.receipt == receipt) = none := by
  rw [h.held, List.find?_map]
  exact congrArg (Option.map Prod.fst) found

/-- A copy that was handed out ends there. -/
theorem Inv.ended (h : t.Inv) {before rest : List (Held × Copy)} {x : Held × Copy}
    (split : t.held = before ++ x :: rest) (acked naked : Nat) {s : Stage}
    (ended : s.isMoving = false) (present : s ≠ .discarded)
    (journey : ∀ u past, Journey t.bus.settings (.handed x.1.parcel.attempt x.1.receipt u :: past) →
      Journey t.bus.settings (s :: .handed x.1.parcel.attempt x.1.receipt u :: past)) :
    Inv { t with
      bus := { t.bus with held := (before ++ rest).map Prod.fst, acked := acked, naked := naked }
      held := before ++ rest
      history := note [x.2] s t.history } := by
  have placed := h.placed
  have matched := h.matched
  rw [split, spots_held] at placed matched
  have here := mem_spots_of_held (split ▸ by simp : x ∈ t.held)
  have known := (h.matched _ here).knows
  obtain ⟨s', past, latest, fit, -, journeyed⟩ := h.journey here
  have time : s.time = 0 := by
    cases s with
    | queued k u | handed k r u | refused k u => cases ended
    | acked | exhausted | lost | discarded => rfl
  have chronicle : Chronicle t.bus (note [x.2] s t.history) := by
    refine h.chronicle.note (fun c hc => ?_) (time ▸ Nat.zero_le _)
      (by rintro k r u rfl; cases ended) (fun he => (present he).elim)
    rw [List.mem_singleton.1 hc, latest]
    cases fit with
    | held u attempt receipt =>
      subst attempt receipt
      exact ⟨journey u past journeyed, known⟩
  exact {
    waiting := h.waiting
    held := rfl
    delayed := h.delayed
    numbered := h.numbered
    sorted := h.sorted
    due := h.due
    placed := placed.leave_one ended
    matched := fun y hy => matched y (Multiset.mem_cons_of_mem hy)
    opened := h.opened
    chronicle := chronicle.mono (.of_eq rfl (Nat.le_refl _) (Nat.le_refl _) rfl rfl)
    inOrder := h.inOrder.note h.inOrder.waiting (by rintro r u rfl; cases ended)
      (by simpa using fun none => absurd (none ▸ latest) (by simp)) }

/-- A copy that was handed out and is refused waits for the delay, behind all that wait already. -/
theorem Inv.refused (h : t.Inv) {before rest : List (Held × Copy)} {x : Held × Copy}
    (split : t.held = before ++ x :: rest) (more : t.bus.settings.isLast x.1.parcel.attempt = false)
    (naked : Nat) :
    let d : Delayed := ⟨t.bus.now + t.bus.settings.delay,
      { x.1.parcel with attempt := x.1.parcel.attempt + 1 }⟩
    Inv { t with
      bus := { t.bus with
        held := (before ++ rest).map Prod.fst
        naked := naked
        delayed := t.bus.delayed ++ [d] }
      held := before ++ rest
      delayed := t.delayed ++ [(d, x.2)]
      history := note [x.2] (.refused x.1.parcel.attempt t.bus.now) t.history } := by
  intro d
  have here := mem_spots_of_held (split ▸ by simp : x ∈ t.held)
  have known : t.bus.Matches x.1.parcel x.2 := h.matched _ here
  obtain ⟨s, past, latest, fit, time, journeyed⟩ := h.journey here
  have placed := h.placed
  have matched := h.matched
  rw [split, spots_held, show t.delayed = t.delayed ++ [] from (List.append_nil _).symm]
    at placed matched
  have chronicle : Chronicle t.bus
      (note [x.2] (.refused x.1.parcel.attempt t.bus.now) t.history) := by
    refine h.chronicle.note (fun c hc => ?_) (Nat.le_refl _) (fun _ _ _ he => nomatch he)
      (fun he => nomatch he)
    rw [List.mem_singleton.1 hc, latest]
    cases fit with
    | held u attempt receipt =>
      subst attempt receipt
      exact ⟨.refused _ journeyed time more, known.knows⟩
  exact {
    waiting := h.waiting
    held := rfl
    delayed := by simp [h.delayed]
    numbered := h.numbered
    sorted := List.pairwise_append.2 ⟨h.sorted, List.pairwise_singleton _ _, fun y hy z hz => by
      rw [List.mem_singleton.1 hz]
      exact h.due y hy⟩
    due := by
      intro y hy
      rcases List.mem_append.1 hy with hy | hy
      · exact h.due y hy
      · rw [List.mem_singleton.1 hy]
    placed := by
      have moved := placed.move (.delayed (d := d) rfl rfl)
      rwa [← spots_delayed t.queued (before ++ rest) t.delayed [] (d, x.2)] at moved
    matched := fun y hy => by
      rw [spots_delayed, Multiset.mem_cons] at hy
      rcases hy with rfl | hy
      · exact known
      · exact matched y (Multiset.mem_cons_of_mem hy)
    opened := h.opened
    chronicle := chronicle.mono (.of_eq rfl (Nat.le_refl _) (Nat.le_refl _) rfl rfl)
    inOrder := h.inOrder.note h.inOrder.waiting (fun _ _ he => nomatch he)
      (by simpa using fun none => absurd (none ▸ latest) (by simp)) }

theorem Inv.ack (h : t.Inv) (receipt : Nat) : (t.ack receipt).Inv := by
  unfold Tracked.ack
  cases found : t.held.find? fun x => x.1.receipt == receipt with
  | none =>
    dsimp only
    rw [Bus.ack_of_none (h.find?_held_eq_none found)]
    exact h
  | some x =>
    obtain ⟨labels, before, rest, split, erased, erased'⟩ := h.held_split found
    dsimp only
    rw [Bus.ack_of_find labels, erased, erased']
    exact h.ended split _ _ rfl (fun he => nomatch he) fun u past => .acked

theorem Inv.nak (h : t.Inv) (receipt : Nat) : (t.nak receipt).Inv := by
  unfold Tracked.nak
  cases found : t.held.find? fun x => x.1.receipt == receipt with
  | none =>
    dsimp only
    rw [Bus.nak_of_none (h.find?_held_eq_none found)]
    exact h
  | some x =>
    obtain ⟨labels, before, rest, split, erased, erased'⟩ := h.held_split found
    dsimp only
    rw [Bus.nak_of_find labels, erased, erased']
    by_cases last : t.bus.settings.isLast x.1.parcel.attempt = true
    · rw [if_pos last, if_pos last]
      exact h.ended split _ _ rfl (fun he => nomatch he) fun u past j => .exhausted j last
    · have more : t.bus.settings.isLast x.1.parcel.attempt = false := eq_false_of_ne_true last
      rw [if_neg last, if_neg last]
      split
      · exact h.refused split more _
      · exact h.ended split _ _ rfl (fun he => nomatch he) fun u past j => .lost j more

theorem Inv.unsubscribe (h : t.Inv) (id : Nat) : (t.unsubscribe id).Inv := by
  have ext := Bus.extends_unsubscribe id t.bus
  have split := spots_perm ((t.queued.filter_append_perm fun x => x.1.subscription == id).symm.trans
    List.perm_append_comm) t.held t.delayed
  have placed := h.placed
  rw [split, spots_append] at placed
  have own : ∀ x ∈ t.queued, x.1.subscription = x.2.subscription := fun x hx =>
    (h.matched _ (mem_spots_of_queued hx)).1
  exact {
    waiting := by
      show t.bus.waiting.filter _ = _
      rw [h.waiting, List.filter_map]
      rfl
    held := h.held
    delayed := h.delayed
    numbered := .of_map (fun s => by split <;> rfl) h.numbered rfl
    sorted := h.sorted
    due := h.due
    placed := by
      refine placed.leave (fun c => ?_) rfl
      rw [map_fst_spots]
      simp
    matched := fun x hx => by
      refine ext.matches (h.matched x ?_)
      rw [split, spots_append]
      exact Multiset.mem_add.2 (.inr hx)
    opened := fun x hx => by
      obtain ⟨hx, other⟩ := List.mem_filter.1 hx
      show (t.bus.unsubscribe id).takes _ = true
      rw [Bus.takes_unsubscribe, h.opened x hx, ← own x hx, other]
      rfl
    chronicle := by
      refine (h.chronicle.mono ext).note (fun c hc => ?_) (Nat.zero_le _)
        (fun _ _ _ he => nomatch he) (fun _ c hc => ?_)
      · obtain ⟨x, hx, rfl⟩ := List.mem_map.1 hc
        have here := mem_spots_of_queued (List.mem_filter.1 hx).1
        obtain ⟨s, past, latest, fit, -, journeyed⟩ := h.journey here
        rw [show t.history x.2 = _ from latest]
        cases fit with
        | queued u attempt => exact ⟨.dropped journeyed, ext.knows (h.matched _ here).knows⟩
      · obtain ⟨x, hx, rfl⟩ := List.mem_map.1 hc
        obtain ⟨hx, here⟩ := List.mem_filter.1 hx
        rw [Bus.takes_unsubscribe, ← own x hx, beq_iff_eq.1 here]
        simp
    inOrder := by
      refine h.inOrder.note (h.inOrder.waiting.sublist List.filter_sublist)
        (fun _ _ he => nomatch he) fun c hc none => ?_
      obtain ⟨x, hx, rfl⟩ := List.mem_map.1 hc
      obtain ⟨s, past, latest, -⟩ := h.journey (mem_spots_of_queued (List.mem_filter.1 hx).1)
      exact absurd (latest.symm.trans none) (List.cons_ne_nil _ _) }

/-- A delayed copy that is due queues again, or is discarded when its receiver is gone. -/
theorem Inv.requeue (h : t.Inv) {d : Delayed} {c : Copy} {rest : List (Delayed × Copy)}
    (first : t.delayed = (d, c) :: rest) (due : d.due ≤ t.bus.now) : (t.requeue d c rest).Inv := by
  have ext := Bus.extends_requeue d (rest.map Prod.fst) t.bus
  have here := mem_spots_of_delayed (first ▸ List.mem_cons_self : (d, c) ∈ t.delayed)
  have known : t.bus.Matches d.parcel c := h.matched _ here
  obtain ⟨s, past, latest, fit, -, journeyed⟩ := h.journey here
  have latest : t.history c = s :: past := latest
  have placed := h.placed
  have matched := h.matched
  have sorted := h.sorted
  have dues := h.due
  rw [first] at sorted dues
  rw [first, ← List.nil_append ((d, c) :: rest), spots_delayed, List.nil_append] at placed matched
  have taken : t.bus.takes d.parcel.subscription = t.bus.takes c.subscription := by rw [known.1]
  unfold Tracked.requeue
  split
  · rename_i opened
    have opened : t.bus.takes d.parcel.subscription = true := opened
    rw [show t.queued = t.queued ++ [] from (List.append_nil _).symm] at placed matched
    exact {
      waiting := by
        show (if t.bus.takes d.parcel.subscription then _ else _) = _
        rw [if_pos opened, h.waiting, List.map_append]
        rfl
      held := h.held
      delayed := rfl
      numbered := h.numbered
      sorted := sorted.tail
      due := fun x hx => dues x (List.mem_cons_of_mem _ hx)
      placed := by
        have moved := placed.move (.queued (p := d.parcel) d.due rfl)
        rwa [← spots_queued t.queued [] (d.parcel, c)] at moved
      matched := fun x hx => by
        rw [spots_queued, Multiset.mem_cons] at hx
        rcases hx with rfl | hx
        · exact ext.matches known
        · exact ext.matches (matched x (Multiset.mem_cons_of_mem hx))
      opened := fun x hx => by
        rcases List.mem_append.1 hx with hx | hx
        · exact h.opened x hx
        · rw [List.mem_singleton.1 hx]
          exact taken ▸ opened
      chronicle := by
        refine (h.chronicle.mono ext).note (fun c' hc => ?_) due (fun _ _ _ he => nomatch he)
          (fun he => nomatch he)
        rw [List.mem_singleton.1 hc, latest]
        cases fit with
        | delayed attempt due =>
          rw [attempt, due]
          exact ⟨.returned journeyed, ext.knows known.knows⟩
      inOrder := by
        refine h.inOrder.note (List.pairwise_append.2 ⟨h.inOrder.waiting,
          List.pairwise_singleton _ _, fun x hx y hy _ _ again => ?_⟩)
          (fun _ _ he => nomatch he) (by simp [latest])
        rw [List.mem_singleton.1 hy] at again
        cases fit with
        | delayed attempt due =>
          have attempts := journeyed.one_le_of_refused
          exact absurd (attempt.symm.trans again) (by omega) }
  · rename_i closed
    have closed : t.bus.takes d.parcel.subscription = false := eq_false_of_ne_true closed
    exact {
      waiting := by
        show (if t.bus.takes d.parcel.subscription then _ else _) = _
        rw [closed]
        exact h.waiting
      held := h.held
      delayed := rfl
      numbered := h.numbered
      sorted := sorted.tail
      due := fun x hx => dues x (List.mem_cons_of_mem _ hx)
      placed := placed.leave_one rfl
      matched := fun x hx => ext.matches (matched x (Multiset.mem_cons_of_mem hx))
      opened := h.opened
      chronicle := by
        refine (h.chronicle.mono ext).note (fun c' hc => ?_) (Nat.zero_le _)
          (fun _ _ _ he => nomatch he) (fun _ c' hc => ?_)
        · rw [List.mem_singleton.1 hc, latest]
          cases fit with
          | delayed attempt due => exact ⟨.forgotten journeyed, ext.knows known.knows⟩
        · rw [List.mem_singleton.1 hc]
          exact taken ▸ closed
      inOrder := h.inOrder.note h.inOrder.waiting (fun _ _ he => nomatch he) (by simp [latest]) }

/-- Copies queue again in the order in which they are due, as they do on the bus. -/
theorem Inv.requeueUntil (time : Nat) : ∀ (count : Nat) {t : Tracked}, t.Inv → time ≤ t.bus.now →
    (t.requeueUntil time count).Inv ∧
      (t.requeueUntil time count).bus = t.bus.requeueUntil time count
  | 0, _, h, _ => ⟨h, rfl⟩
  | count + 1, t, h, now => by
    unfold Tracked.requeueUntil Bus.requeueUntil
    rw [h.delayed]
    cases first : t.delayed with
    | nil => exact ⟨h, rfl⟩
    | cons x rest =>
      obtain ⟨d, c⟩ := x
      have sorted := h.sorted
      rw [first, List.pairwise_cons] at sorted
      have earliest : Bus.takeEarliest (((d, c) :: rest).map Prod.fst) =
          some (d, rest.map Prod.fst) := by
        refine Bus.takeEarliest_cons fun e he => ?_
        obtain ⟨x, hx, rfl⟩ := List.mem_map.1 he
        exact sorted.1 x hx
      rw [earliest]
      dsimp only
      split
      · rename_i due
        have next := h.requeue first (Nat.le_trans due now)
        have same : (t.requeue d c rest).bus = t.bus.requeue d (rest.map Prod.fst) := by
          unfold Tracked.requeue
          split <;> rfl
        rw [← same]
        refine Inv.requeueUntil time count next ?_
        rw [same]
        exact now
      · exact ⟨h, rfl⟩

theorem Inv.pass (h : t.Inv) (duration : Nat) :
    (t.pass duration).Inv ∧ (t.pass duration).bus = t.bus.pass duration := by
  have later : Inv { t with bus := { t.bus with now := t.bus.now + duration } } :=
    h.onBus (.of_eq rfl (Nat.le_add_right _ _) (Nat.le_refl _) rfl rfl) rfl rfl rfl h.numbered
      fun _ => id
  obtain ⟨inv, same⟩ := Inv.requeueUntil (t.bus.now + duration) t.delayed.length later (Nat.le_refl _)
  refine ⟨inv, same.trans ?_⟩
  have count : t.delayed.length = t.bus.delayed.length := by rw [h.delayed, List.length_map]
  rw [count]
  exact Bus.requeueUntil_now _ _ _ _

/-- **Every call keeps the tracked bus in order, and the labels do not disturb the bus.** -/
theorem Inv.after (h : t.Inv) (call : Bus.Call) :
    (t.after call).Inv ∧ (t.after call).bus = t.bus.after call := by
  cases call with
  | subscribe subject consumer =>
    refine ⟨h.onBus (Bus.extends_subscribe subject consumer t.bus) ?_ ?_ ?_
      (h.numbered.subscribe subject consumer) (Bus.takes_subscribe subject consumer t.bus), rfl⟩
    all_goals
      unfold Bus.after Bus.subscribe
      dsimp only
      split <;> rfl
  | publish subject octets =>
    refine ⟨h.publish subject octets, ?_⟩
    show (t.publish subject octets).bus = _
    unfold Tracked.publish
    rcases Bus.publish_eq subject octets t.bus with ⟨err, attempts, eq⟩ | ⟨attempts, eq⟩
    · rw [eq]
      exact (congrArg Prod.snd eq).symm
    · rw [eq]
      exact (congrArg Prod.snd eq).symm
  | next id =>
    refine ⟨h.next id, ?_⟩
    show (t.next id).bus = _
    unfold Tracked.next
    split <;> rfl
  | ack receipt =>
    refine ⟨h.ack receipt, ?_⟩
    show (t.ack receipt).bus = _
    unfold Tracked.ack
    split <;> rfl
  | nak receipt =>
    refine ⟨h.nak receipt, ?_⟩
    show (t.nak receipt).bus = _
    unfold Tracked.nak
    split
    · split
      · rfl
      · split <;> rfl
    · rfl
  | unsubscribe id => exact ⟨h.unsubscribe id, rfl⟩
  | pass duration => exact h.pass duration
  | failOn attempt =>
    exact ⟨h.onBus (.of_eq rfl (Nat.le_refl _) (Nat.le_refl _) rfl rfl) rfl rfl rfl h.numbered
      fun _ => id, rfl⟩
  | close =>
    exact ⟨h.onBus (Bus.extends_close t.bus) rfl rfl rfl h.numbered.close
      fun id opened => (t.bus.takes_close id).trans opened, rfl⟩

end Tracked

end Marketplace
