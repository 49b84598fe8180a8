import Mathlib.Data.List.Induction
import Mathlib.Logic.ExistsUnique
import Marketplace.Proofs.Bus.Entries
import Marketplace.Proofs.Bus.Live

/-!
# The law of delivery

What a receiver can rely on, over every run of a bus. The copies of a run are read off its calls: a
message that is published gets one for each subscription that is live then, and a subscription is
live from the call that opens it to the one that gives it up or closes the bus. `Lawful` says what
becomes of the copies, and that nothing else is ever handed out.

## Results

* `Bus.serves_run_iff`: which subscriptions are live after some calls.
* `Bus.mem_made_publish`: the copies of a message go to the live subscriptions to its subject.
* `Tracked.Inv.handed_after`: the only call that hands out is `next`.
* `Bus.lawful_run`: every run is lawful.
-/

namespace Marketplace

namespace Bus

/-- The bus after some calls, from one on which nothing has happened. -/
def run (settings : BusSettings) (calls : List Call) : Bus := calls.foldl after (new settings)

/-- The copies that a call makes: those of a message that is published, one for each live
subscription to its subject. -/
def made (b : Bus) : Call → List Copy
  | .publish subject octets =>
    match (b.publish subject octets).1 with
    | .ok () => (b.subscribers.filter fun s => s.isLive && s.subject == subject).map fun s =>
        ⟨b.log.length, s.id⟩
    | .error _ => []
  | _ => []

/-- A parcel that is handed out against a receipt. -/
structure Handout where
  receipt : Nat
  parcel : Parcel
  time : Nat

/-- What a call hands out. -/
def handed (b : Bus) : Call → List Handout
  | .next id =>
    match (b.next id).1 with
    | .message receipt p => [⟨receipt, p, b.now⟩]
    | _ => []
  | _ => []

/-- What is collected along some calls. -/
def collect {α : Type} (f : Bus → Call → List α) : Bus → List Call → List α
  | _, [] => []
  | b, call :: calls => f b call ++ collect f (b.after call) calls

theorem collect_concat {α : Type} (f : Bus → Call → List α) (call : Call) :
    ∀ (calls : List Call) (b : Bus),
    collect f b (calls ++ [call]) = collect f b calls ++ f (calls.foldl after b) call
  | [], b => List.append_nil _
  | c :: calls, b => by
    rw [List.cons_append, collect, collect_concat f call calls, collect, List.append_assoc]
    rfl

/-- The copies that are made along some calls. -/
def copiesOf (settings : BusSettings) (calls : List Call) : List Copy :=
  collect made (new settings) calls

/-- What is handed out along some calls. -/
def handouts (settings : BusSettings) (calls : List Call) : List Handout :=
  collect handed (new settings) calls

/-- What there is of one subscription. -/
@[ext]
structure Share where
  waiting : List Parcel
  delayed : List Delayed
  held : List Held
  subscriber : Option Subscriber
  hasSender : Bool

def share (b : Bus) (id : Nat) : Share where
  waiting := b.waiting.filter fun p => p.subscription == id
  delayed := b.delayed.filter fun d => d.parcel.subscription == id
  held := b.held.filter fun x => x.parcel.subscription == id
  subscriber := b.subscriber? id
  hasSender := b.hasSender id

end Bus

namespace Tracked

/-- The tracked bus after some calls. -/
def run (settings : BusSettings) (calls : List Bus.Call) : Tracked :=
  calls.foldl after (new settings)

/-- The places where a copy can be. -/
inductive Place where
  | queued
  | held
  | delayed
  | acked
  | exhausted
  | lost
  | discarded
  deriving DecidableEq

/-- The place of a copy by its latest stage. -/
def placeOf : Stage → Place
  | .queued .. => .queued
  | .handed .. => .held
  | .refused .. => .delayed
  | .acked => .acked
  | .exhausted => .exhausted
  | .lost => .lost
  | .discarded => .discarded

/-- A copy is in a place: its parcel is in that part of the bus, or that is how it ended. -/
def IsAt (t : Tracked) (c : Copy) : Place → Prop
  | .queued => c ∈ t.queued.map Prod.snd
  | .held => c ∈ t.held.map Prod.snd
  | .delayed => c ∈ t.delayed.map Prod.snd
  | .acked => .acked ∈ t.history c
  | .exhausted => .exhausted ∈ t.history c
  | .lost => .lost ∈ t.history c
  | .discarded => .discarded ∈ t.history c

end Tracked

/-- The stage that a refusal leads to, by what it is answered. -/
def Tracked.nakStage (settings : BusSettings) (attempt time : Nat) : Except BusError Unit → Stage
  | .ok () => if settings.isLast attempt then .exhausted else .refused attempt time
  | .error _ => .lost

/-- What is to hold after some calls to a bus. -/
structure Bus.Lawful (settings : BusSettings) (calls : List Bus.Call) (t : Tracked) : Prop where
  /-- The tracked bus is the bus, and its labels stand on all of its parcels. -/
  bus : t.bus = Bus.run settings calls
  waiting : t.queued.map Prod.fst = t.bus.waiting
  held : t.held.map Prod.fst = t.bus.held
  delayed : t.delayed.map Prod.fst = t.bus.delayed
  /-- What has a history is a copy of a message that was published when its subscription was live,
  and on its subject (`mem_made_publish`). The subscription is live once `subscribe` has answered
  its number (`subscribe_eq`), and until it is given up or the bus is closed: `serves_after_iff` for
  one call, `serves_run_iff` for a run. -/
  copies : ∀ c, t.history c ≠ [] ↔ c ∈ Bus.copiesOf settings calls
  known : ∀ c ∈ Bus.copiesOf settings calls, t.bus.Knows c
  /-- Everything handed out is such a copy, and what the histories say was handed out. -/
  handouts : ∀ r p u, ⟨r, p, u⟩ ∈ Bus.handouts settings calls ↔
    ∃ c ∈ Bus.copiesOf settings calls, t.bus.Matches p c ∧ .handed p.attempt r u ∈ t.history c
  unique : ∀ {c c' k k' r u u'}, .handed k r u ∈ t.history c → .handed k' r u' ∈ t.history c' →
    c = c' ∧ k = k' ∧ u = u'
  journeys : ∀ c ∈ Bus.copiesOf settings calls, Journey settings (t.history c)
  /-- The deliveries of a copy carry the attempts 1, 2, 3 and so on. -/
  attempts : ∀ c ∈ Bus.copiesOf settings calls, ∃ n,
    ((t.history c).filterMap Stage.delivery?).reverse = List.range' 1 n
  /-- A further attempt follows a refusal, after the delay and below the limit. -/
  again : ∀ c k r u, 0 < k → .handed (k + 1) r u ∈ t.history c →
    ∃ r' u' v, .handed k r' u' ∈ t.history c ∧ .refused k v ∈ t.history c ∧ u' ≤ v ∧
      v + settings.delay ≤ u ∧ ∀ limit ∈ settings.limit, k < limit
  /-- Nothing happens to a copy after it is acknowledged. -/
  acked : ∀ c, .acked ∈ t.history c → ∃ past, t.history c = .acked :: past ∧ .acked ∉ past
  /-- What is handed out for the first time has nothing before it that was not. -/
  inOrder : ∀ c d, c ∈ Bus.copiesOf settings calls → c.subscription = d.subscription →
    c.message < d.message → ∀ r u, .handed 1 r u ∈ t.history d →
      ∃ r' u', .handed 1 r' u' ∈ t.history c ∧ r' < r
  /-- A copy is in one place, and only once. -/
  place : ∀ c ∈ Bus.copiesOf settings calls, ∃! place, t.IsAt c place
  nodup : (t.queued.map Prod.snd ++ (t.held.map Prod.snd ++ t.delayed.map Prod.snd)).Nodup
  /-- A receipt that is not settled is that of the latest delivery of a copy, and settling it goes
  into the history of that copy. -/
  settled : ∀ r p, t.bus.held? r = some p → ∃ c u past, t.bus.Matches p c ∧
    t.history c = .handed p.attempt r u :: past ∧
    (t.ack r).history c = .acked :: t.history c ∧
    (t.nak r).history c = Tracked.nakStage settings p.attempt t.bus.now (t.bus.nak r).1 :: t.history c
  /-- Settling a delivery of one subscription leaves every other with what it has and will get. -/
  apart : ∀ r p, t.bus.held? r = some p → ∀ id ≠ p.subscription,
    (t.bus.ack r).share id = t.bus.share id ∧ (t.bus.nak r).2.share id = t.bus.share id ∧
    ((t.bus.ack r).next id).1 = (t.bus.next id).1 ∧ ((t.bus.nak r).2.next id).1 = (t.bus.next id).1 ∧
    ∀ c, c.subscription = id → (t.ack r).history c = t.history c ∧ (t.nak r).history c = t.history c

/-! ## Runs -/

theorem Bus.run_concat (settings : BusSettings) (calls : List Bus.Call) (call : Bus.Call) :
    Bus.run settings (calls ++ [call]) = (Bus.run settings calls).after call :=
  List.foldl_concat ..

theorem Bus.settings_run (settings : BusSettings) (calls : List Bus.Call) :
    (Bus.run settings calls).settings = settings := by
  induction calls using List.reverseRecOn with
  | nil => rfl
  | append_singleton calls call ih =>
    rw [Bus.run_concat]
    exact (Bus.extends_after call _).settings.trans ih

namespace Tracked

variable {settings : BusSettings} {calls : List Bus.Call} {t : Tracked}

theorem run_concat (settings : BusSettings) (calls : List Bus.Call) (call : Bus.Call) :
    run settings (calls ++ [call]) = (run settings calls).after call :=
  List.foldl_concat ..

theorem inv_run (settings : BusSettings) (calls : List Bus.Call) :
    (run settings calls).Inv ∧ (run settings calls).bus = Bus.run settings calls := by
  induction calls using List.reverseRecOn with
  | nil => exact ⟨.new settings, rfl⟩
  | append_singleton calls call ih =>
    rw [run_concat, Bus.run_concat]
    refine ⟨(ih.1.after call).1, ?_⟩
    rw [(ih.1.after call).2, ih.2]

end Tracked

/-! ## Live subscriptions -/

namespace Bus

theorem isNumbered_run (settings : BusSettings) (calls : List Call) :
    (run settings calls).IsNumbered := by
  obtain ⟨tracked, same⟩ := Tracked.inv_run settings calls
  exact same ▸ tracked.numbered

/-- **A subscription is live after some calls** when one of them opened it and none since then gave
it up or closed the bus. -/
theorem serves_run_iff (settings : BusSettings) (calls : List Call) (id : Nat) :
    (run settings calls).serves id = true ↔ ∃ before call later, calls = before ++ call :: later ∧
      (run settings before).Opens id call ∧ ∀ c ∈ later, c ≠ .unsubscribe id ∧ c ≠ .close := by
  induction calls using List.reverseRecOn with
  | nil => exact iff_of_false nofun fun ⟨before, _, _, split, _⟩ => by cases before <;> cases split
  | append_singleton calls last ih =>
    rw [run_concat, serves_after_iff (isNumbered_run settings calls), ih]
    constructor
    · rintro (opens | ⟨⟨before, call, later, rfl, opens, kept⟩, left⟩)
      · exact ⟨calls, last, [], rfl, opens, fun _ hc => nomatch hc⟩
      · refine ⟨before, call, later ++ [last], by simp, opens, fun c hc => ?_⟩
        rcases List.mem_append.1 hc with hc | hc
        · exact kept c hc
        · rwa [List.mem_singleton.1 hc]
    · rintro ⟨before, call, later, split, opens, kept⟩
      -- The call that opened it is the last one or among those before.
      rcases List.eq_nil_or_concat later with rfl | ⟨later, c, rfl⟩
      · obtain ⟨rfl, same⟩ := List.append_inj' split rfl
        cases same
        exact .inl opens
      · rw [List.concat_eq_append] at split kept
        rw [← List.cons_append, ← List.append_assoc] at split
        obtain ⟨rfl, same⟩ := List.append_inj' split rfl
        cases same
        exact .inr ⟨⟨before, call, later, rfl, opens, fun c hc =>
          kept c (List.mem_append_left _ hc)⟩, kept _ List.mem_concat_self⟩

/-- **The copies of a message** go to the subscriptions to its subject that are live. -/
theorem mem_made_publish {b : Bus} (h : b.IsNumbered) {subject : String} {octets : ByteArray}
    {c : Copy} : c ∈ b.made (.publish subject octets) ↔
      (b.publish subject octets).1 = .ok () ∧ c.message = b.log.length ∧
        b.serves c.subscription = true ∧
        (b.subscriber? c.subscription).map Subscriber.subject = some subject := by
  unfold made
  dsimp only
  split
  · rename_i published
    constructor
    · intro hc
      obtain ⟨s, hs, rfl⟩ := List.mem_map.1 hc
      obtain ⟨hs, live⟩ := List.mem_filter.1 hs
      obtain ⟨live, own⟩ := Bool.and_eq_true_iff.1 live
      refine ⟨published, rfl, (h.serves_eq hs).trans live, ?_⟩
      show (b.subscriber? s.id).map Subscriber.subject = some subject
      rw [h.subscriber?_of_mem hs, Option.map_some, eq_of_beq own]
    · rintro ⟨-, message, live, own⟩
      obtain ⟨s, found, rfl⟩ := Option.map_eq_some_iff.1 own
      have hs := List.mem_of_find?_eq_some found
      have named := subscriber?_id found
      rw [← named, h.serves_eq hs] at live
      refine List.mem_map.2 ⟨s, List.mem_filter.2 ⟨hs, ?_⟩, ?_⟩
      · rw [live, beq_self_eq_true]
        rfl
      · rw [named, ← message]
  · rename_i err failed
    refine iff_of_false List.not_mem_nil fun published => ?_
    cases failed.symm.trans published.1

end Bus

namespace Tracked

variable {settings : BusSettings} {calls : List Bus.Call} {t : Tracked}

/-! ## What a call enters -/

/-- A call that neither publishes nor asks for the next message sends nothing and hands out
nothing. -/
theorem Inv.quiet_after (h : t.Inv) {call : Bus.Call} (publishes : ∀ subject octets,
    call ≠ .publish subject octets) (asks : ∀ id, call ≠ .next id) (c : Copy) :
    ((t.after call).history c ≠ [] ↔ t.history c ≠ []) ∧
      ∀ k r u, .handed k r u ∈ (t.after call).history c ↔ .handed k r u ∈ t.history c := by
  have entered := h.entered_after call
  have old : ∀ c s, t.Enters call c s → t.history c ≠ [] ∧ s.delivery? = none := by
    intro c s new
    cases call with
    | publish subject octets => exact (publishes subject octets rfl).elim
    | next id => exact (asks id rfl).elim
    | subscribe | failOn | close => exact new.elim
    | ack | unsubscribe =>
      obtain ⟨sent, -, rfl⟩ := new
      exact ⟨sent, rfl⟩
    | nak => exact ⟨new.1, by cases s <;> simp_all [Enters, Stage.isRefusal, Stage.delivery?]⟩
    | pass => exact ⟨new.1, by cases s <;> simp_all [Enters, Stage.isReturn, Stage.delivery?]⟩
  refine ⟨entered.ne_nil_iff (fun c s new => (old c s new).1) c, fun k r u => ⟨fun hm => ?_, ?_⟩⟩
  · exact (entered.mem hm).resolve_left fun new => nomatch (old c _ new).2
  · exact fun hm => (entered.suffix c).subset hm

theorem made_publish (t : Tracked) {subject : String} {octets : ByteArray} {b : Bus}
    (h : t.bus.publish subject octets = (.ok (), b)) :
    t.bus.made (.publish subject octets) = (t.sent subject octets).map Prod.snd := by
  unfold Bus.made
  dsimp only
  rw [h]
  simp only [sent, Bus.copies, List.map_map, Function.comp_def]

/-- **What a call sends are the copies that it makes.** -/
theorem Inv.sent_after (h : t.Inv) (call : Bus.Call) (c : Copy) :
    (t.after call).history c ≠ [] ↔ t.history c ≠ [] ∨ c ∈ t.bus.made call := by
  by_cases publishes : ∃ subject octets, call = .publish subject octets
  · obtain ⟨subject, octets, rfl⟩ := publishes
    show (t.publish subject octets).history c ≠ [] ↔ _
    unfold Tracked.publish
    rcases Bus.publish_eq subject octets t.bus with ⟨err, attempts, eq⟩ | ⟨attempts, eq⟩
    · have none : t.bus.made (.publish subject octets) = [] := by
        unfold Bus.made
        dsimp only
        rw [eq]
      rw [eq, none]
      exact (or_iff_left List.not_mem_nil).symm
    · rw [eq, made_publish t eq]
      exact note_ne_nil
  · have none : t.bus.made call = [] := by
      cases call with
      | publish subject octets => exact (publishes ⟨subject, octets, rfl⟩).elim
      | _ => rfl
    rw [none, or_iff_left List.not_mem_nil]
    by_cases asks : ∃ id, call = .next id
    · obtain ⟨id, rfl⟩ := asks
      show (t.next id).history c ≠ [] ↔ _
      unfold Tracked.next
      dsimp only
      split
      · rename_i p d found
        refine note_ne_nil.trans (or_iff_left_of_imp fun hc => ?_)
        rw [List.mem_singleton.1 hc]
        exact h.sent_of_mem_spots (mem_spots_of_queued (List.mem_of_find?_eq_some found))
      · exact Iff.rfl
    · exact (h.quiet_after (fun s o he => publishes ⟨s, o, he⟩) (fun id he => asks ⟨id, he⟩) c).1

/-- **The only call that hands out is `next`**: the parcel that it answers is the copy of the first
one in the queue of the subscription. -/
theorem Inv.handed_after (h : t.Inv) (call : Bus.Call) (c : Copy) (k r u : Nat) :
    .handed k r u ∈ (t.after call).history c ↔ .handed k r u ∈ t.history c ∨
      ∃ id p, call = .next id ∧
        t.queued.find? (fun x => x.1.subscription == id) = some (p, c) ∧
        k = p.attempt ∧ r = t.bus.receipts ∧ u = t.bus.now := by
  by_cases asks : ∃ id, call = .next id
  · obtain ⟨id, rfl⟩ := asks
    show .handed k r u ∈ (t.next id).history c ↔ _
    unfold Tracked.next
    dsimp only
    cases found : t.queued.find? fun x => x.1.subscription == id with
    | none =>
      refine (or_iff_left ?_).symm
      rintro ⟨id', p, he, found', -⟩
      cases he
      rw [found] at found'
      cases found'
    | some x =>
      obtain ⟨p, d⟩ := x
      dsimp only
      rw [mem_note, or_comm, List.mem_singleton]
      refine or_congr_right ⟨?_, ?_⟩
      · rintro ⟨rfl, he⟩
        obtain ⟨rfl, rfl, rfl⟩ := Stage.handed.inj he
        exact ⟨id, p, rfl, found, rfl, rfl, rfl⟩
      · rintro ⟨id', p', he, found', rfl, rfl, rfl⟩
        cases he
        cases found.symm.trans found'
        exact ⟨rfl, rfl⟩
  · refine Iff.trans ?_ (or_iff_left fun ⟨id, _, he, _⟩ => asks ⟨id, he⟩).symm
    by_cases publishes : ∃ subject octets, call = .publish subject octets
    · obtain ⟨subject, octets, rfl⟩ := publishes
      show .handed k r u ∈ (t.publish subject octets).history c ↔ _
      unfold Tracked.publish
      split
      · rw [mem_note]
        exact or_iff_right fun ⟨_, he⟩ => nomatch he
      · exact Iff.rfl
    · exact (h.quiet_after (fun s o he => publishes ⟨s, o, he⟩) (fun id he => asks ⟨id, he⟩) c).2 k r u

/-! ## Copies and handouts of a run -/

/-- What has a history are the copies that the calls made. -/
theorem sent_run (settings : BusSettings) (calls : List Bus.Call) (c : Copy) :
    (run settings calls).history c ≠ [] ↔ c ∈ Bus.copiesOf settings calls := by
  induction calls using List.reverseRecOn with
  | nil => exact iff_of_false (fun h => h rfl) List.not_mem_nil
  | append_singleton calls call ih =>
    obtain ⟨inv, same⟩ := inv_run settings calls
    rw [run_concat, inv.sent_after, ih, same]
    unfold Bus.copiesOf
    rw [Bus.collect_concat, List.mem_append]
    rfl

theorem mem_handed {b : Bus} {call : Bus.Call} {x : Bus.Handout} : x ∈ b.handed call ↔
    ∃ id, call = .next id ∧ (b.next id).1 = .message x.receipt x.parcel ∧ x.time = b.now := by
  cases call with
  | next id =>
    unfold Bus.handed
    dsimp only
    split
    · rename_i r p answer
      rw [List.mem_singleton]
      constructor
      · rintro rfl
        exact ⟨id, rfl, answer, rfl⟩
      · rintro ⟨id', he, answer', time⟩
        cases he
        rw [answer] at answer'
        cases x
        cases answer'
        cases time
        rfl
    · rename_i other
      refine iff_of_false List.not_mem_nil ?_
      rintro ⟨id', he, answer, -⟩
      cases he
      exact other _ _ answer
  | _ => exact iff_of_false List.not_mem_nil fun ⟨_, he, _⟩ => nomatch he

/-- What a call hands out is the first parcel in the queue of a subscription. -/
theorem Inv.mem_handed (h : t.Inv) {call : Bus.Call} {x : Bus.Handout} :
    x ∈ t.bus.handed call ↔ ∃ id c, call = .next id ∧
      t.queued.find? (fun y => y.1.subscription == id) = some (x.parcel, c) ∧
      x.receipt = t.bus.receipts ∧ x.time = t.bus.now := by
  rw [Tracked.mem_handed]
  refine exists_congr fun id => ?_
  rw [Bus.next_eq_message, h.find?_waiting, Option.map_eq_some_iff]
  constructor
  · rintro ⟨he, ⟨⟨⟨p, c⟩, found, rfl⟩, receipt⟩, time⟩
    exact ⟨c, he, found, receipt, time⟩
  · rintro ⟨c, he, found, receipt, time⟩
    exact ⟨he, ⟨⟨_, found, rfl⟩, receipt⟩, time⟩

/-- **Everything that is handed out is a copy that was sent, and what its history says.** -/
theorem handouts_run (settings : BusSettings) (calls : List Bus.Call) (x : Bus.Handout) :
    x ∈ Bus.handouts settings calls ↔ ∃ c, (run settings calls).bus.Matches x.parcel c ∧
      .handed x.parcel.attempt x.receipt x.time ∈ (run settings calls).history c := by
  induction calls using List.reverseRecOn with
  | nil => exact iff_of_false List.not_mem_nil fun ⟨_, _, h⟩ => nomatch h
  | append_singleton calls call ih =>
    obtain ⟨inv, same⟩ := inv_run settings calls
    have ext := Bus.extends_after call (run settings calls).bus
    rw [← (inv.after call).2] at ext
    have split : x ∈ Bus.handouts settings (calls ++ [call]) ↔
        x ∈ Bus.handouts settings calls ∨ x ∈ (run settings calls).bus.handed call := by
      unfold Bus.handouts
      rw [Bus.collect_concat, List.mem_append, same]
      rfl
    rw [split, ih, inv.mem_handed, run_concat]
    constructor
    · rintro (⟨c, matched, told⟩ | ⟨id, c, rfl, found, receipt, time⟩)
      · exact ⟨c, ext.matches matched, (inv.handed_after call ..).2 (.inl told)⟩
      · have matched := inv.matched _ (mem_spots_of_queued (List.mem_of_find?_eq_some found))
        exact ⟨c, ext.matches matched, (inv.handed_after _ ..).2
          (.inr ⟨id, x.parcel, rfl, found, rfl, receipt, time⟩)⟩
    · rintro ⟨c, matched, told⟩
      rcases (inv.handed_after call ..).1 told with told | ⟨id, p, rfl, found, attempt, receipt, time⟩
      · have known := inv.chronicle.known c (List.ne_nil_of_mem told)
        exact .inl ⟨c, ext.matches_of_knows known matched, told⟩
      · have own := inv.matched _ (mem_spots_of_queued (List.mem_of_find?_eq_some found))
        obtain rfl := (ext.matches own).eq matched attempt.symm
        exact .inr ⟨id, c, rfl, found, receipt, time⟩

/-- A receipt is that of one delivery of one copy. -/
theorem unique_run (settings : BusSettings) (calls : List Bus.Call) {c c' : Copy}
    {k k' r u u' : Nat} (h : .handed k r u ∈ (run settings calls).history c)
    (h' : .handed k' r u' ∈ (run settings calls).history c') : c = c' ∧ k = k' ∧ u = u' := by
  induction calls using List.reverseRecOn with
  | nil => cases h
  | append_singleton calls call ih =>
    obtain ⟨inv, -⟩ := inv_run settings calls
    rw [run_concat, inv.handed_after] at h h'
    rcases h with h | ⟨id, p, rfl, found, rfl, rfl, rfl⟩
    · rcases h' with h' | ⟨id, p, rfl, found, rfl, rfl, rfl⟩
      · exact ih h h'
      · exact (Nat.lt_irrefl _ (inv.chronicle.receipts _ _ _ _ h)).elim
    · rcases h' with h' | ⟨id', p', he, found', rfl, -, rfl⟩
      · exact (Nat.lt_irrefl _ (inv.chronicle.receipts _ _ _ _ h')).elim
      · cases he
        cases found.symm.trans found'
        exact ⟨rfl, rfl, rfl⟩

/-! ## Places -/

/-- A stage that is an end is in a history when it is the latest. -/
theorem Inv.mem_history_iff (h : t.Inv) {c : Copy} {s u : Stage} {past : List Stage}
    (latest : t.history c = s :: past) (ended : u.isMoving = false) :
    u ∈ t.history c ↔ s = u := by
  have journey := h.chronicle.journeys c (latest ▸ List.cons_ne_nil _ _)
  rw [latest] at journey ⊢
  constructor
  · intro hu
    rcases List.mem_cons.1 hu with he | hu
    · exact he.symm
    · rw [journey.isMoving_of_mem_tail u hu] at ended
      cases ended
  · rintro rfl
    exact List.mem_cons_self

/-- **A copy is in the place of its latest stage.** -/
theorem Inv.isAt_iff (h : t.Inv) {c : Copy} {s : Stage} {past : List Stage}
    (latest : t.history c = s :: past) (place : Place) : t.IsAt c place ↔ placeOf s = place := by
  have fits {a : Spot} (ha : (c, a) ∈ spots t.queued t.held t.delayed) :
      a.Fits t.bus.settings s := by
    obtain ⟨s', past', latest', fit, -⟩ := h.journey ha
    cases latest.symm.trans latest'
    exact fit
  have spot (moving : s.isMoving = true) : ∃ a, (c, a) ∈ spots t.queued t.held t.delayed := by
    obtain ⟨x, hx, rfl⟩ := Multiset.mem_map.1 (h.placed.covers c s (by simp [latest]) moving)
    exact ⟨x.2, hx⟩
  cases place with
  | queued =>
    refine ⟨fun hc => ?_, fun hs => ?_⟩
    · obtain ⟨x, hx, rfl⟩ := List.mem_map.1 hc
      cases fits (mem_spots_of_queued hx) with
      | queued => rfl
    · cases s <;> cases hs
      obtain ⟨a, ha⟩ := spot rfl
      cases fits ha with
      | queued => exact List.mem_map_of_mem (f := Prod.snd) (mem_spots.1 ha)
  | held =>
    refine ⟨fun hc => ?_, fun hs => ?_⟩
    · obtain ⟨x, hx, rfl⟩ := List.mem_map.1 hc
      cases fits (mem_spots_of_held hx) with
      | held => rfl
    · cases s <;> cases hs
      obtain ⟨a, ha⟩ := spot rfl
      cases fits ha with
      | held => exact List.mem_map_of_mem (f := Prod.snd) (mem_spots.1 ha)
  | delayed =>
    refine ⟨fun hc => ?_, fun hs => ?_⟩
    · obtain ⟨x, hx, rfl⟩ := List.mem_map.1 hc
      cases fits (mem_spots_of_delayed hx) with
      | delayed => rfl
    · cases s <;> cases hs
      obtain ⟨a, ha⟩ := spot rfl
      cases fits ha with
      | delayed => exact List.mem_map_of_mem (f := Prod.snd) (mem_spots.1 ha)
  | acked | exhausted | lost | discarded =>
    refine (h.mem_history_iff latest rfl).trans ?_
    cases s <;> simp [placeOf]

/-- **What was handed out last is in the hands of the receiver**, against that receipt. -/
theorem held_of_latest {c : Copy} {k r u : Nat} {past : List Stage}
    (latest : (run settings calls).history c = .handed k r u :: past) : ∃ p,
    (run settings calls).held.find? (fun x => x.1.receipt == r) = some (⟨r, p⟩, c) ∧
      p.attempt = k := by
  obtain ⟨inv, -⟩ := inv_run settings calls
  have spot {x : Held × Copy} (hx : x ∈ (run settings calls).held) : ∃ u past,
      (run settings calls).history x.2 = .handed x.1.parcel.attempt x.1.receipt u :: past := by
    obtain ⟨s, past, latest, fit, -⟩ := inv.journey (mem_spots_of_held hx)
    cases fit with
    | held u attempt receipt =>
      subst attempt receipt
      exact ⟨u, past, latest⟩
  obtain ⟨x, hx, rfl⟩ := List.mem_map.1 ((inv.isAt_iff latest .held).2 rfl)
  obtain ⟨u', past', own⟩ := spot hx
  obtain ⟨rfl, rfl⟩ : x.1.parcel.attempt = k ∧ x.1.receipt = r := by
    cases own.symm.trans latest
    exact ⟨rfl, rfl⟩
  cases found : (run settings calls).held.find? fun y => y.1.receipt == x.1.receipt with
  | none => exact absurd (List.find?_eq_none.1 found x hx) (by simp)
  | some y =>
    have hy := List.mem_of_find?_eq_some found
    have receipt : y.1.receipt = x.1.receipt := by simpa using List.find?_some found
    obtain ⟨v, past'', other⟩ := spot hy
    -- A receipt is given once, so the first one found is this one.
    obtain ⟨same, attempt, -⟩ := unique_run settings calls
      (receipt ▸ other ▸ List.mem_cons_self) (latest ▸ List.mem_cons_self)
    refine ⟨y.1.parcel, ?_, attempt⟩
    rw [← receipt, ← same]

/-! ## Other subscriptions -/

/-- What is handed out against a receipt is the latest delivery of a copy, and settling it goes into
the history of that copy. -/
theorem Inv.settled (h : t.Inv) {r : Nat} {p : Parcel} (held : t.bus.held? r = some p) :
    ∃ c u past, t.bus.Matches p c ∧ t.history c = .handed p.attempt r u :: past ∧
      (t.ack r).history c = .acked :: t.history c ∧
      (t.nak r).history c =
        nakStage t.bus.settings p.attempt t.bus.now (t.bus.nak r).1 :: t.history c := by
  unfold Tracked.ack Tracked.nak
  cases found : t.held.find? fun x => x.1.receipt == r with
  | none =>
    unfold Bus.held? at held
    rw [h.find?_held_eq_none found] at held
    cases held
  | some x =>
    obtain ⟨⟨r', q⟩, c⟩ := x
    have labels := (h.held_split found).1
    have same : q = p := by
      unfold Bus.held? at held
      rw [labels] at held
      exact Option.some.inj held
    obtain rfl : r' = r := by simpa using List.find?_some found
    subst same
    have here := mem_spots_of_held (List.mem_of_find?_eq_some found)
    obtain ⟨s, past, latest, fit, -⟩ := h.journey here
    refine ⟨c, s.time, past, h.matched _ here, ?_, note_one_self, ?_⟩
    · cases fit with
      | held u attempt receipt =>
        subst attempt receipt
        exact latest
    · rw [Bus.nak_of_find labels]
      dsimp only
      split
      · rename_i last
        simp only [nakStage, last, if_true]
        exact note_one_self
      · rename_i more
        split
        · simp only [nakStage, more]
          exact note_one_self
        · exact note_one_self

/-- Settling a delivery says nothing of copies for other subscriptions. -/
theorem Inv.history_settled (h : t.Inv) {r : Nat} {p : Parcel} (held : t.bus.held? r = some p)
    {c : Copy} (other : c.subscription ≠ p.subscription) :
    (t.ack r).history c = t.history c ∧ (t.nak r).history c = t.history c := by
  unfold Tracked.ack Tracked.nak
  cases found : t.held.find? fun x => x.1.receipt == r with
  | none => exact ⟨rfl, rfl⟩
  | some x =>
    obtain ⟨⟨r', q⟩, d⟩ := x
    have same : q = p := by
      unfold Bus.held? at held
      rw [(h.held_split found).1] at held
      exact Option.some.inj held
    have own := (h.matched _ (mem_spots_of_held (List.mem_of_find?_eq_some found))).1
    have apart : c ≠ d := by
      rintro rfl
      exact other (own.symm.trans (congrArg Parcel.subscription same))
    refine ⟨note_one_of_ne apart, ?_⟩
    dsimp only
    split
    · exact note_one_of_ne apart
    · split
      · exact note_one_of_ne apart
      · exact note_one_of_ne apart

end Tracked

namespace Bus

variable {b : Bus} {r id : Nat} {p : Parcel}

/-- What is handed out to others stays with them when a delivery is settled. -/
theorem filter_released {x : Held} (found : b.held.find? (fun x => x.receipt == r) = some x)
    (other : id ≠ x.parcel.subscription) :
    (b.held.eraseP fun x => x.receipt == r).filter (fun x => x.parcel.subscription == id) =
      b.held.filter fun x => x.parcel.subscription == id := by
  obtain ⟨before, rest, split, erased, -⟩ := find?_split found
  rw [erased, split, List.filter_append, List.filter_append, List.filter_cons]
  simp [other.symm]

theorem share_ack (held : b.held? r = some p) (other : id ≠ p.subscription) :
    (b.ack r).share id = b.share id := by
  obtain ⟨x, found, rfl⟩ := Option.map_eq_some_iff.1 held
  rw [ack_of_find found]
  exact Share.ext rfl rfl (filter_released found other) rfl rfl

theorem share_nak (held : b.held? r = some p) (other : id ≠ p.subscription) :
    (b.nak r).2.share id = b.share id := by
  obtain ⟨x, found, rfl⟩ := Option.map_eq_some_iff.1 held
  have kept := filter_released found other
  have foreign : (x.parcel.subscription == id) = false := beq_false_of_ne other.symm
  rw [nak_of_find found]
  split
  · exact Share.ext rfl rfl kept rfl rfl
  · split
    · refine Share.ext rfl ?_ kept rfl ?_
      · simp [share, List.filter_append, foreign]
      · simp [share, hasSender, List.any_append, foreign]
    · exact Share.ext rfl rfl kept rfl rfl

theorem waiting_ack (b : Bus) (r : Nat) :
    (b.ack r).waiting = b.waiting ∧ (b.ack r).receipts = b.receipts := by
  unfold ack
  split <;> exact ⟨rfl, rfl⟩

theorem waiting_nak (b : Bus) (r : Nat) :
    (b.nak r).2.waiting = b.waiting ∧ (b.nak r).2.receipts = b.receipts := by
  unfold nak
  split
  · exact ⟨rfl, rfl⟩
  · dsimp only
    split
    · exact ⟨rfl, rfl⟩
    · split <;> exact ⟨rfl, rfl⟩

/-- **The law of delivery**: every run is lawful, whatever is called in whatever order. -/
theorem lawful_run (settings : BusSettings) (calls : List Call) :
    Lawful settings calls (Tracked.run settings calls) := by
  obtain ⟨inv, bus⟩ := Tracked.inv_run settings calls
  have kept : (Tracked.run settings calls).bus.settings = settings := by
    rw [bus, settings_run]
  have sent := Tracked.sent_run settings calls
  have journeys (c : Copy) (h : (Tracked.run settings calls).history c ≠ []) :
      Journey settings ((Tracked.run settings calls).history c) := by
    have journey := inv.chronicle.journeys c h
    rwa [kept] at journey
  exact {
    bus := bus
    waiting := inv.waiting.symm
    held := inv.held.symm
    delayed := inv.delayed.symm
    copies := sent
    known := fun c hc => inv.chronicle.known c ((sent c).2 hc)
    handouts := fun r p u => by
      refine (Tracked.handouts_run settings calls ⟨r, p, u⟩).trans (exists_congr fun c => ?_)
      refine ⟨fun h => ⟨(sent c).1 (List.ne_nil_of_mem h.2), h⟩, fun h => h.2⟩
    unique := Tracked.unique_run settings calls
    journeys := fun c hc => journeys c ((sent c).2 hc)
    attempts := fun c hc => by
      obtain ⟨n, attempts, -⟩ := (journeys c ((sent c).2 hc)).deliveries_eq
      exact ⟨n, by rw [attempts, List.reverse_reverse]⟩
    again := fun c k r u hk later => (journeys c (List.ne_nil_of_mem later)).again later hk
    acked := fun c hc => by
      have journey := journeys c (List.ne_nil_of_mem hc)
      cases latest : (Tracked.run settings calls).history c with
      | nil => rw [latest] at hc; cases hc
      | cons s past =>
        obtain rfl := (inv.mem_history_iff latest rfl).1 hc
        refine ⟨past, rfl, fun hm => ?_⟩
        rw [latest] at journey
        cases journey.isMoving_of_mem_tail _ hm
    inOrder := fun c d hc same lt r u hd => inv.inOrder.before c d same lt ((sent c).2 hc) r u hd
    place := fun c hc => by
      cases latest : (Tracked.run settings calls).history c with
      | nil => exact ((sent c).2 hc latest).elim
      | cons s past =>
        exact ⟨Tracked.placeOf s, (inv.isAt_iff latest _).2 rfl,
          fun place h => ((inv.isAt_iff latest place).1 h).symm⟩
    nodup := by
      have nodup := inv.placed.nodup
      rwa [Tracked.map_fst_spots, Multiset.coe_nodup] at nodup
    settled := fun r p held => by
      have settled := inv.settled held
      rwa [kept] at settled
    apart := fun r p held id other => by
      have acked := waiting_ack (Tracked.run settings calls).bus r
      have naked := waiting_nak (Tracked.run settings calls).bus r
      have byAck := share_ack held other
      have byNak := share_nak held other
      exact ⟨byAck, byNak, next_congr acked.1 acked.2 (congrArg Share.hasSender byAck),
        next_congr naked.1 naked.2 (congrArg Share.hasSender byNak),
        fun c hc => inv.history_settled held (hc ▸ other)⟩ }

/-- A copy that is refused once, delivered again after the delay and then acknowledged. -/
example : (Tracked.run standardSettings [.subscribe "a" "b", .publish "a" ⟨#[]⟩, .next 0, .nak 0,
    .pass 10, .next 0, .ack 1]).history ⟨0, 0⟩ = [.acked, .handed 2 1 10, .queued 2 10, .refused 1 0,
      .handed 1 0 0, .queued 1 0] := by decide +kernel

end Bus

end Marketplace
