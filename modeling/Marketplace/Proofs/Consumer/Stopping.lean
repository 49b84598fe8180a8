import Marketplace.Proofs.Consumer.Settlement

/-!
# Subscriptions that are given up

A subscription that was given up is over: its receiver is gone, its queue is empty, and neither what
is published later nor what is to come back can change that. The handler of a consumer is called
with what its subscriptions hand out, so it makes no difference any more when all of them are over.

## Results

* `Bus.live_without`, `Bus.share_without`: giving up subscriptions leaves all others as they are.
* `Bus.IsOver.after`: whatever is done with a bus, what is over stays over.
* `Staff.through_without`: the staff works as if the handlers of what is over were not there.
-/

namespace Marketplace

open Connected

/-- A subscription when the receivers of some are gone. -/
def Subscriber.leaving (ids : List Nat) (s : Subscriber) : Subscriber :=
  if s.id ∈ ids then { s with isOpen := false } else s

namespace Subscriber

variable {ids : List Nat} {s : Subscriber}

theorem leaving_of_mem (h : s.id ∈ ids) : s.leaving ids = { s with isOpen := false } := if_pos h

theorem leaving_of_not_mem (h : s.id ∉ ids) : s.leaving ids = s := if_neg h

theorem leaving_id (ids : List Nat) (s : Subscriber) : (s.leaving ids).id = s.id := by
  unfold leaving
  split <;> rfl

theorem leaving_listed (ids : List Nat) (s : Subscriber) : (s.leaving ids).listed = s.listed := by
  unfold leaving
  split <;> rfl

theorem isOpen_of_leaving (opened : (s.leaving ids).isOpen = true) : s.isOpen = true := by
  unfold leaving at opened
  split at opened
  · cases opened
  · exact opened

theorem leaving_leaving (id : Nat) (ids : List Nat) (s : Subscriber) :
    (s.leaving [id]).leaving ids = s.leaving (id :: ids) := by
  by_cases first : s.id = id
  · have own : s.id ∈ [id] := List.mem_singleton.2 first
    have both : s.id ∈ id :: ids := first ▸ List.mem_cons_self
    rw [leaving_of_mem own, leaving_of_mem both]
    unfold leaving
    split <;> rfl
  · have other : s.id ∉ [id] := fun own => first (List.mem_singleton.1 own)
    rw [leaving_of_not_mem other]
    unfold leaving
    simp [first]

end Subscriber

namespace Bus

variable {b b' : Bus} {id : Nat} {ids : List Nat}

/-! ## Giving up subscriptions -/

/-- The subscriptions that get what is published. -/
def live (b : Bus) : List Subscriber := b.subscribers.filter Subscriber.isLive

theorem consumers_eq (b : Bus) (subject : String) : b.consumers subject =
    (b.live.filter fun s => s.subject == subject).map Subscriber.consumer := by
  unfold consumers live
  rw [List.filter_filter]
  simp only [Bool.and_comm]

/-- The bus when some subscriptions were given up. -/
def without (b : Bus) (ids : List Nat) : Bus :=
  { b with
    subscribers := b.subscribers.map (Subscriber.leaving ids)
    waiting := b.waiting.filter fun p => p.subscription ∉ ids }

theorem without_nil (b : Bus) : b.without [] = b := by
  have same : Subscriber.leaving [] = id := funext fun s => Subscriber.leaving_of_not_mem (by simp)
  unfold without
  rw [same, List.map_id]
  simp

theorem unsubscribe_eq (id : Nat) (b : Bus) : b.unsubscribe id = b.without [id] := by
  unfold unsubscribe without Subscriber.leaving
  congr 1
  · simp
  · refine List.filter_congr fun p _ => ?_
    rw [Bool.eq_iff_iff]
    simp

theorem without_without (id : Nat) (ids : List Nat) (b : Bus) :
    (b.without [id]).without ids = b.without (id :: ids) := by
  unfold without
  congr 1
  · rw [List.map_map]
    exact List.map_congr_left fun s _ => Subscriber.leaving_leaving id ids s
  · rw [List.filter_filter]
    refine List.filter_congr fun p _ => ?_
    rw [Bool.eq_iff_iff]
    simp [and_comm]

/-- **The other subscriptions are live as before.** -/
theorem live_without (b : Bus) (ids : List Nat) :
    (b.without ids).live = b.live.filter fun s => s.id ∉ ids := by
  have kept (s : Subscriber) : (Subscriber.isLive ∘ Subscriber.leaving ids) s =
      (decide (s.id ∉ ids) && s.isLive) := by
    by_cases own : s.id ∈ ids
    · simp [Subscriber.leaving_of_mem own, Subscriber.isLive, own]
    · simp [Subscriber.leaving_of_not_mem own, own]
  calc (b.subscribers.map (Subscriber.leaving ids)).filter Subscriber.isLive
      = (b.subscribers.filter (Subscriber.isLive ∘ Subscriber.leaving ids)).map
          (Subscriber.leaving ids) := List.filter_map
    _ = (b.subscribers.filter fun s => decide (s.id ∉ ids) && s.isLive).map
          (Subscriber.leaving ids) := by rw [List.filter_congr fun s _ => kept s]
    _ = (b.subscribers.filter fun s => decide (s.id ∉ ids) && s.isLive).map id := by
        refine List.map_congr_left fun s hs => Subscriber.leaving_of_not_mem ?_
        simpa using (Bool.and_eq_true_iff.1 (List.mem_filter.1 hs).2).1
    _ = b.live.filter fun s => s.id ∉ ids := by
        rw [List.map_id, live, List.filter_filter]

/-- **The other subscriptions have what they had.** -/
theorem share_without (b : Bus) (other : id ∉ ids) : (b.without ids).share id = b.share id := by
  ext1
  case waiting =>
    show (b.waiting.filter fun p => p.subscription ∉ ids).filter _ = b.waiting.filter _
    rw [List.filter_filter]
    refine List.filter_congr fun p _ => ?_
    by_cases own : p.subscription = id
    · simp [own, other]
    · simp [own]
  case delayed => rfl
  case held => rfl
  case subscriber =>
    show (b.without ids).subscriber? id = b.subscriber? id
    rw [subscriber?_map (b := b) (Subscriber.leaving_id ids) id rfl]
    cases found : b.subscriber? id with
    | none => rfl
    | some s => exact congrArg some (Subscriber.leaving_of_not_mem (subscriber?_id found ▸ other))
  case hasSender =>
    show (((b.subscribers.map (Subscriber.leaving ids)).any _) || _) = b.hasSender id
    rw [List.any_map]
    unfold hasSender Function.comp
    simp only [Subscriber.leaving_id, Subscriber.leaving_listed]
    rfl

/-! ## What is over -/

/-- A subscription was given up, and nothing waits there. -/
structure IsOver (b : Bus) (id : Nat) : Prop where
  known : id < b.subscribers.length
  gone : ∀ s ∈ b.subscribers, s.id = id → s.isOpen = false
  empty : ∀ p ∈ b.waiting, p.subscription ≠ id

/-- What is given up is over. -/
theorem isOver_without (b : Bus) (own : id ∈ ids) (known : id < b.subscribers.length) :
    (b.without ids).IsOver id where
  known := by
    show id < (b.subscribers.map (Subscriber.leaving ids)).length
    rwa [List.length_map]
  gone s' hs' named := by
    obtain ⟨s, -, rfl⟩ := List.mem_map.1 hs'
    have mem : s.id ∈ ids := (Subscriber.leaving_id ids s ▸ named) ▸ own
    rw [Subscriber.leaving_of_mem mem]
  empty p hp named := by
    have kept := List.of_mem_filter hp
    simp [named, own] at kept

namespace IsOver

/-- Subscriptions may change their flags, but a receiver that is gone does not come back. -/
theorem of_map (h : b.IsOver id) {f : Subscriber → Subscriber} (own : ∀ s, (f s).id = s.id)
    (kept : ∀ s, (f s).isOpen = true → s.isOpen = true)
    (subscribers : b'.subscribers = b.subscribers.map f)
    (empty : ∀ p ∈ b'.waiting, p.subscription ≠ id) : b'.IsOver id where
  known := by
    rw [subscribers, List.length_map]
    exact h.known
  gone s' hs' named := by
    rw [subscribers] at hs'
    obtain ⟨s, hs, rfl⟩ := List.mem_map.1 hs'
    have gone := h.gone s hs ((own s).symm.trans named)
    exact Bool.eq_false_iff.2 fun opened => Bool.eq_false_iff.1 gone (kept s opened)
  empty := empty

/-- Less may wait. -/
theorem of_subset (h : b.IsOver id) (subscribers : b'.subscribers = b.subscribers)
    (waiting : b'.waiting ⊆ b.waiting) : b'.IsOver id where
  known := subscribers ▸ h.known
  gone := subscribers ▸ h.gone
  empty p hp := h.empty p (waiting hp)

theorem without (h : b.IsOver id) (ids : List Nat) : (b.without ids).IsOver id :=
  h.of_map (Subscriber.leaving_id ids) (fun _ => Subscriber.isOpen_of_leaving) rfl
    fun p hp => h.empty p (List.mem_of_mem_filter hp)

/-- A new subscription has a new number. -/
theorem subscribe (h : b.IsOver id) (subject consumer : String) :
    (b.subscribe subject consumer).2.IsOver id := by
  unfold Bus.subscribe
  split
  · exact h
  · constructor
    case known =>
      rw [List.length_append]
      exact Nat.lt_add_right _ h.known
    case gone =>
      intro s hs named
      rcases List.mem_append.1 hs with old | new
      · exact h.gone s old named
      · obtain rfl := List.mem_singleton.1 new
        exact (Nat.ne_of_gt h.known named).elim
    case empty => exact h.empty

/-- What is published is copied for live subscriptions only. -/
theorem carrying (h : b.IsOver id) (subject : String) (octets : ByteArray) (attempts : Nat) :
    (b.carrying subject octets attempts).IsOver id := by
  refine h.of_map (unlistGone_id subject) (fun s => (unlistGone_kept subject s).2.2) rfl ?_
  intro p hp
  rcases List.mem_append.1 hp with old | new
  · exact h.empty p old
  · obtain ⟨s, hs, rfl⟩ := List.mem_map.1 new
    obtain ⟨listed, sent⟩ := List.mem_filter.1 hs
    intro named
    have gone := h.gone s listed named
    simp [Subscriber.isLive, gone] at sent

/-- What was to come back is lost. -/
theorem requeue (h : b.IsOver id) (d : Delayed) (rest : List Delayed) :
    (b.requeue d rest).IsOver id where
  known := h.known
  gone := h.gone
  empty := by
    unfold Bus.requeue
    dsimp only
    split
    · rename_i taken
      intro p hp
      rcases List.mem_append.1 hp with old | back
      · exact h.empty p old
      · obtain rfl := List.mem_singleton.1 back
        intro named
        obtain ⟨s, found, opened⟩ := (Option.any_eq_true _ _).1 taken
        have gone := h.gone s (List.mem_of_find?_eq_some found) ((subscriber?_id found).trans named)
        rw [opened] at gone
        cases gone
    · exact h.empty

theorem requeueUntil (time : Nat) : ∀ (count : Nat) {b : Bus}, b.IsOver id →
    (b.requeueUntil time count).IsOver id
  | 0, _, h => h
  | count + 1, _, h => by
    unfold Bus.requeueUntil
    split
    · split
      · exact requeueUntil time count (h.requeue _ _)
      · exact h
    · exact h

theorem passTo (h : b.IsOver id) (time : Nat) : (b.passTo time).IsOver id :=
  (requeueUntil time _ h).of_subset rfl (List.Subset.refl _)

/-- **What is over stays over**, whatever is done with the bus. -/
theorem after (h : b.IsOver id) (call : Call) : (b.after call).IsOver id := by
  cases call with
  | subscribe subject consumer => exact h.subscribe subject consumer
  | publish subject octets =>
    show (b.publish subject octets).2.IsOver id
    rcases publish_eq subject octets b with ⟨err, attempts, eq⟩ | ⟨attempts, eq⟩
    · rw [eq]
      exact h.of_subset rfl (List.Subset.refl _)
    · rw [eq]
      exact h.carrying subject octets attempts
  | next id' =>
    show (b.next id').2.IsOver id
    unfold Bus.next
    split
    · exact h.of_subset rfl List.eraseP_subset
    · exact h
  | ack receipt =>
    show (b.ack receipt).IsOver id
    unfold Bus.ack
    split
    · exact h.of_subset rfl (List.Subset.refl _)
    · exact h
  | nak receipt =>
    exact h.of_subset (subscribers_nak receipt b) fun _ hp => (waiting_nak b receipt).1 ▸ hp
  | unsubscribe id' =>
    show (b.unsubscribe id').IsOver id
    rw [unsubscribe_eq]
    exact h.without [id']
  | pass duration => exact h.passTo _
  | failOn attempt => exact h.of_subset rfl (List.Subset.refl _)
  | close =>
    exact h.of_map (f := fun s => { s with listed := false }) (fun _ => rfl) (fun _ opened => opened)
      rfl h.empty

theorem foldl : ∀ (calls : List Call) {b : Bus}, b.IsOver id → (calls.foldl Bus.after b).IsOver id
  | [], _, h => h
  | call :: calls, _, h => foldl calls (h.after call)

/-- **Nothing is handed out any more.** -/
theorem next_eq (h : b.IsOver id) :
    b.next id = (if b.hasSender id then .pending else .ended, b) := by
  have none : b.waiting.find? (fun p => p.subscription == id) = none :=
    List.find?_eq_none.2 fun p hp => by simpa using h.empty p hp
  unfold Bus.next
  rw [none]

end IsOver

/-! ## Subscriptions of a run -/

theorem run_append (settings : BusSettings) (calls more : List Call) :
    run settings (calls ++ more) = more.foldl after (run settings calls) :=
  List.foldl_append

theorem extends_foldl : ∀ (calls : List Call) (b : Bus), b.Extends (calls.foldl after b)
  | [], b => .refl b
  | call :: calls, b => (extends_after call b).trans (extends_foldl calls _)

/-- What waits, waits for a subscription of the bus. -/
theorem waiting_lt_run (settings : BusSettings) (calls : List Call) {p : Parcel}
    (hp : p ∈ (run settings calls).waiting) :
    p.subscription < (run settings calls).subscribers.length := by
  obtain ⟨tracked, same⟩ := Tracked.inv_run settings calls
  rw [← same] at hp ⊢
  rw [tracked.waiting] at hp
  obtain ⟨x, queued, rfl⟩ := List.mem_map.1 hp
  obtain ⟨s, found, -⟩ := (Option.any_eq_true _ _).1 (tracked.opened x queued)
  have addressed := (tracked.matched _ (Tracked.mem_spots_of_queued queued)).1
  exact addressed ▸ tracked.numbered.lt_length found

variable {settings : BusSettings} {before : List Call} {s : Subscriber}

/-- A subscription stays known. -/
theorem lt_length_foldl (known : (run settings before).subscriber? id = some s)
    (more : List Call) : id < (more.foldl after (run settings before)).subscribers.length := by
  obtain ⟨s', found, -⟩ := (extends_foldl more _).subscriber known
  have numbered := isNumbered_run settings (before ++ more)
  rw [run_append] at numbered
  exact numbered.lt_length found

/-- **A subscription that is given up is over**, whatever else is done with the bus before and
after. -/
theorem isOver_of_mem (known : (run settings before).subscriber? id = some s) {calls : List Call}
    (left : .unsubscribe id ∈ calls) : (calls.foldl after (run settings before)).IsOver id := by
  obtain ⟨sooner, later, rfl⟩ := List.append_of_mem left
  rw [List.foldl_append, List.foldl_cons]
  refine IsOver.foldl later ?_
  show (Bus.unsubscribe id _).IsOver id
  rw [unsubscribe_eq]
  exact isOver_without _ List.mem_cons_self (lt_length_foldl known sooner)

end Bus

/-! ## The staff without some handlers -/

variable {σ ε : Type} [Connected σ] [Retryable ε]

/-- Handling a message changes the bus by calls to it, of whatever kind. -/
def Handler.UsesCalls (h : Handler σ ε) : Prop :=
  ∀ octets s, ∃ calls : List Bus.Call,
    bus (h.dispatch octets s).state = calls.foldl Bus.after (bus s)

namespace Staff

/-- The staff without the handlers of some subscriptions. -/
def without (staff : Staff σ ε) (ids : List Nat) : Staff σ ε :=
  fun id => if id ∈ ids then none else staff id

/-- What happens while a staff is there: somebody calls the bus, or the staff works for a while. -/
inductive Moment where
  | call (call : Bus.Call)
  | work (duration : Nat)

/-- The state after a moment. -/
def spend (staff : Staff σ ε) (s : σ) : Moment → σ
  | .call call => onBus (fun b => b.after call) s
  | .work duration => staff.run duration s

/-- The state after some moments. -/
def through (staff : Staff σ ε) (moments : List Moment) (s : σ) : σ := moments.foldl staff.spend s

variable {staff : Staff σ ε} {ids : List Nat} {h : Handler σ ε} {id : Nat} {s : σ} {b : Bus}

theorem through_nil (staff : Staff σ ε) (s : σ) : staff.through [] s = s := rfl

theorem through_cons (staff : Staff σ ε) (moment : Moment) (moments : List Moment) (s : σ) :
    staff.through (moment :: moments) s = staff.through moments (staff.spend s moment) :=
  rfl

/-- The subscriptions of a state are over. -/
abbrev AreOver (ids : List Nat) (s : σ) : Prop := ∀ id ∈ ids, (bus s).IsOver id

/-- **Serving what is over does nothing.** -/
theorem serve_of_isOver (ended : (bus s).IsOver id) (h : Handler σ ε) : serve h id s = s := by
  unfold serve
  rw [ended.next_eq]
  split
  · rename_i found
    split at found <;> cases found
  · rfl

omit [Connected σ] [Retryable ε] in
theorem of_without (employed : staff.without ids id = some h) : id ∉ ids ∧ staff id = some h := by
  unfold without at employed
  split at employed
  · cases employed
  · rename_i other
    exact ⟨other, employed⟩

omit [Connected σ] [Retryable ε] in
/-- Nobody is picked who has nothing to do any more. -/
theorem pick_without (ended : ∀ id ∈ ids, b.IsOver id) (last : Option Nat) :
    pick (staff.without ids) last b = pick staff last b := by
  have served : (b.waiting.filterMap fun p =>
      (staff.without ids p.subscription).map fun h => (p.subscription, h)) =
      b.waiting.filterMap fun p => (staff p.subscription).map fun h => (p.subscription, h) := by
    refine List.filterMap_congr fun p hp => ?_
    have other : p.subscription ∉ ids := fun own => (ended _ own).empty p hp rfl
    unfold without
    rw [if_neg other]
  unfold pick
  rw [served]

variable [Lawful σ]

/-- Serving a subscription changes the bus by calls to it. -/
theorem exists_calls_serve (uses : h.UsesCalls) (id : Nat) (s : σ) :
    ∃ calls : List Bus.Call, bus (serve h id s) = calls.foldl Bus.after (bus s) := by
  unfold serve
  split
  · rename_i receipt p b next
    obtain ⟨calls, effect⟩ := uses p.octets (onBus (fun _ => b) s)
    have after : b = (bus s).after (.next id) := (congrArg Prod.snd next).symm
    refine ⟨.next id :: calls ++
      [(h.verdict p.octets (onBus (fun _ => b) s)).answer receipt], ?_⟩
    dsimp only
    rw [bus_onBus, bus_count, Handler.settle_dispatch, effect, bus_onBus, after]
    simp
  · exact ⟨[], rfl⟩

/-- **The staff works as if the handlers of what is over were not there**, and it stays over. -/
theorem work_without (others : ∀ id h, staff id = some h → id ∉ ids → h.UsesCalls) :
    ∀ (budget : Nat) (last : Option Nat) {s : σ}, AreOver ids s →
    (staff.without ids).work budget last s = staff.work budget last s ∧
      AreOver ids (staff.work budget last s)
  | 0, _, _, ended => ⟨rfl, ended⟩
  | budget + 1, last, s, ended => by
    unfold work
    rw [pick_without ended]
    split
    · exact ⟨rfl, ended⟩
    · rename_i id h picked
      rw [← pick_without ended] at picked
      obtain ⟨other, employed⟩ := of_without (pick_mem picked)
      obtain ⟨calls, effect⟩ := exists_calls_serve (others id h employed other) id s
      have ended' : AreOver ids (serve h id s) := fun id own => by
        rw [effect]
        exact (ended id own).foldl calls
      exact work_without others budget (some id) ended'

theorem AreOver.passTo (ended : AreOver ids s) (time : Nat) :
    AreOver ids (onBus (Bus.passTo time) s) := fun id own => by
  rw [bus_onBus]
  exact (ended id own).passTo time

theorem elapse_without (others : ∀ id h, staff id = some h → id ∉ ids → h.UsesCalls)
    (budget moment : Nat) : ∀ (count : Nat) {s : σ}, AreOver ids s →
    (staff.without ids).elapse budget moment count s = staff.elapse budget moment count s ∧
      AreOver ids (staff.elapse budget moment count s)
  | 0, _, ended => ⟨rfl, ended.passTo moment⟩
  | count + 1, s, ended => by
    unfold elapse
    split
    · exact ⟨rfl, ended.passTo moment⟩
    · rename_i due _
      split
      · obtain ⟨same, ended'⟩ := work_without others budget none (ended.passTo due)
        rw [same]
        exact elapse_without others budget moment count ended'
      · exact ⟨rfl, ended.passTo moment⟩

theorem run_without (others : ∀ id h, staff id = some h → id ∉ ids → h.UsesCalls) (duration : Nat)
    (ended : AreOver ids s) : (staff.without ids).run duration s = staff.run duration s ∧
      AreOver ids (staff.run duration s) := by
  unfold run
  generalize patience = budget
  obtain ⟨same, ended'⟩ := work_without others budget none ended
  dsimp only
  rw [same]
  exact elapse_without others budget _ budget ended'

theorem spend_without (others : ∀ id h, staff id = some h → id ∉ ids → h.UsesCalls)
    (ended : AreOver ids s) : ∀ moment : Moment,
    (staff.without ids).spend s moment = staff.spend s moment ∧
      AreOver ids (staff.spend s moment)
  | .call call => by
    refine ⟨rfl, fun id own => ?_⟩
    unfold spend
    rw [bus_onBus]
    exact (ended id own).after call
  | .work duration => run_without others duration ended

/-- **The handlers of what is over make no difference any more**, whatever happens. -/
theorem through_without (others : ∀ id h, staff id = some h → id ∉ ids → h.UsesCalls)
    (moments : List Moment) (ended : AreOver ids s) :
    (staff.without ids).through moments s = staff.through moments s := by
  induction moments generalizing s with
  | nil => rw [through_nil, through_nil]
  | cons moment moments ih =>
    obtain ⟨same, ended'⟩ := spend_without others ended moment
    rw [through_cons, through_cons, same]
    exact ih ended'

end Staff

end Marketplace
