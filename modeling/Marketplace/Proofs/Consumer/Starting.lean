import Mathlib.Data.List.Forall2
import Marketplace.Proofs.Consumer.Stopping

/-!
# Starting is all or nothing

A consumer subscribes to its names in order. Either each of them gives it one new subscription, or
there is a first name that cannot be subscribed to, and then those that it has opened are given up
again, so that nobody else notices. A consumer that has started can be stopped at any time: its
subscriptions are over then, and those of others are as they were.

## Results

* `Consumer.ending_subscribeAll`: how far subscribing gets, and what it leaves.
* `Consumer.opened_of_subscribed`, `Consumer.refused_of_subscribed`: on a bus that has come about,
  that is all or nothing.
* `Consumer.stopped`: a consumer that is stopped after anything has happened.
* `Consumer.start_all_or_nothing`: all of it together.
-/

namespace Marketplace

open Connected

namespace Registry

/-- Where events of a name are addressed, if they are. -/
def subject? (r : Registry) (name : String) : Option String :=
  (r.entries.get? name).bind Registration.subject

/-- What keeps a consumer from subscribing to a name: nobody knows it, its events cannot be sent, or
the bus is closed. -/
inductive Refuses (r : Registry) (isClosed : Bool) (name : String) : EventError → Prop
  | unregistered (unknown : r.entries.get? name = none) :
      Refuses r isClosed name (.unregistered name)
  | noSubject {e : Registration} (known : r.entries.get? name = some e)
      (unaddressed : e.subject = none) : Refuses r isClosed name (.noSubject name)
  | closed {s : String} (addressed : r.subject? name = some s) (closed : isClosed = true) :
      Refuses r isClosed name (.bus .closed)

/-- A live subscription to a name, on behalf of a consumer. -/
structure IsFor (r : Registry) (consumer name : String) (s : Subscriber) : Prop where
  subject : r.subject? name = some s.subject
  consumer : s.consumer = consumer
  live : s.isLive = true

variable {r : Registry} {name consumer : String} {names : List String} {new : List Subscriber}

/-- A name has an address, or subscribing to it is refused on any bus. -/
theorem subject_cases (r : Registry) (name : String) :
    (∃ s, r.subject? name = some s ∧ r.subject name = .ok s) ∨
    ∃ e, r.subject name = .error e ∧ ∀ isClosed, r.Refuses isClosed name e := by
  unfold subject? subject entry
  cases known : r.entries.get? name with
  | none => exact .inr ⟨_, rfl, fun _ => .unregistered known⟩
  | some e =>
    cases addressed : e.subject with
    | none => exact .inr ⟨_, by simp [addressed], fun _ => .noSubject known addressed⟩
    | some s => exact .inl ⟨s, addressed, by simp [addressed]⟩

/-- Nothing keeps a consumer from subscribing to a name with an address, on an open bus. -/
theorem not_refuses {s : String} (addressed : r.subject? name = some s) (e : EventError) :
    ¬r.Refuses false name e := by
  unfold subject? at addressed
  rintro (unknown | ⟨known, unaddressed⟩ | ⟨_, closed⟩)
  · rw [unknown] at addressed
    cases addressed
  · rw [known, Option.bind_some, unaddressed] at addressed
    cases addressed
  · cases closed

/-- Live subscriptions are live. -/
theorem live_of_forall₂ (each : List.Forall₂ (r.IsFor consumer) names new) :
    new.filter Subscriber.isLive = new := by
  refine List.filter_eq_self.2 ?_
  induction each with
  | nil => nofun
  | cons first _ ih => exact List.forall_mem_cons.2 ⟨first.live, ih⟩

/-- The subscriptions to a subject are those for the names that have it. -/
theorem consumers_of_forall₂ (each : List.Forall₂ (r.IsFor consumer) names new) (subject : String) :
    (new.filter fun s => s.subject == subject).map Subscriber.consumer =
      (names.filter fun name => r.subject? name = some subject).map fun _ => consumer := by
  induction each with
  | nil => rfl
  | @cons name s names new first _ ih =>
    rw [List.filter_cons, List.filter_cons, first.subject]
    by_cases own : s.subject = subject
    · simpa [own, first.consumer] using ih
    · simpa [own] using ih

end Registry

theorem Bus.live_joinedBy (b : Bus) (new : List Subscriber) :
    (b.joinedBy new).live = b.live ++ new.filter Subscriber.isLive :=
  List.filter_append ..

namespace Consumer

variable {r : Registry} {consumer name : String} {names taken others : List String}
  {prior : List Nat} {new : List Subscriber} {b : Bus} {e : EventError} {s : Subscriber}

theorem dropAll_eq : ∀ (ids : List Nat) (b : Bus), dropAll ids b = b.without ids
  | [], b => b.without_nil.symm
  | id :: ids, b => by
    show dropAll ids (b.unsubscribe id) = b.without (id :: ids)
    rw [dropAll_eq ids, Bus.unsubscribe_eq, Bus.without_without]

/-! ## How subscribing ends -/

/-- A consumer has taken names: it has a new subscription for each, and nothing has kept it from
that. -/
structure Subscribed (r : Registry) (consumer : String) (b : Bus) (names : List String)
    (new : List Subscriber) : Prop where
  each : List.Forall₂ (r.IsFor consumer) names new
  numbers : new.map Subscriber.id = List.range' b.subscribers.length new.length
  unrefused : ∀ name ∈ names, ∀ e, ¬r.Refuses b.isClosed name e

theorem Subscribed.nil (r : Registry) (consumer : String) (b : Bus) :
    Subscribed r consumer b [] [] :=
  ⟨.nil, rfl, nofun⟩

theorem Subscribed.cons (first : r.IsFor consumer name s) (number : s.id = b.subscribers.length)
    (running : b.isClosed = false) (rest : Subscribed r consumer (b.joinedBy [s]) names new) :
    Subscribed r consumer b (name :: names) (s :: new) where
  each := .cons first rest.each
  numbers := by
    rw [List.map_cons, number, rest.numbers, List.length_cons, List.range'_succ,
      Bus.subscribers_joinedBy, List.length_append, List.length_singleton]
  unrefused := by
    refine List.forall_mem_cons.2 ⟨fun e => ?_, rest.unrefused⟩
    rw [running]
    exact Registry.not_refuses first.subject e

/-- How subscribing to names can end, when some subscriptions are open already: with a subscription
for each name, or at a name that is refused, and then all subscriptions so far are given up. -/
inductive Ending (r : Registry) (consumer : String) (prior : List Nat) (b : Bus)
    (names : List String) : Except EventError Consumer × Bus → Prop
  | all {new : List Subscriber} (subscribed : Subscribed r consumer b names new) :
      Ending r consumer prior b names (.ok ⟨prior ++ new.map Subscriber.id⟩, b.joinedBy new)
  | upTo {taken others : List String} {name : String} {new : List Subscriber} {e : EventError}
      (subscribed : Subscribed r consumer b taken new) (split : names = taken ++ name :: others)
      (refuses : r.Refuses b.isClosed name e) :
      Ending r consumer prior b names
        (.error e, (b.joinedBy new).without (prior ++ new.map Subscriber.id))

/-- The first name is refused. -/
theorem Ending.first (refuses : r.Refuses b.isClosed name e) :
    Ending r consumer prior b (name :: names) (.error e, dropAll prior b) := by
  have ending : Ending r consumer prior b (name :: names) _ :=
    .upTo (Subscribed.nil r consumer b) rfl refuses
  rwa [List.map_nil, List.append_nil, Bus.joinedBy_nil, ← dropAll_eq] at ending

/-- The first name is taken. -/
theorem Ending.cons (first : r.IsFor consumer name s) (number : s.id = b.subscribers.length)
    (running : b.isClosed = false) {result : Except EventError Consumer × Bus}
    (rest : Ending r consumer (prior ++ [s.id]) (b.joinedBy [s]) names result) :
    Ending r consumer prior b (name :: names) result := by
  cases rest with
  | all subscribed =>
    rw [Bus.joinedBy_joinedBy, List.append_assoc]
    exact .all (subscribed.cons first number running)
  | upTo subscribed split refuses =>
    rw [Bus.joinedBy_joinedBy, List.append_assoc]
    exact .upTo (subscribed.cons first number running) (congrArg (name :: ·) split) refuses

/-- **How far subscribing gets, and what it leaves.** -/
theorem ending_subscribeAll (r : Registry) (consumer : String) : ∀ (names : List String)
    (prior : List Nat) (b : Bus),
    Ending r consumer prior b names (subscribeAll r consumer names prior b)
  | [], prior, b => by
    have ending : Ending r consumer prior b [] _ := .all (Subscribed.nil r consumer b)
    rwa [List.map_nil, List.append_nil, Bus.joinedBy_nil] at ending
  | name :: names, prior, b => by
    unfold subscribeAll
    rcases r.subject_cases name with ⟨subject, addressed, found⟩ | ⟨e, found, refuses⟩
    · rw [found]
      dsimp only
      rcases Bus.subscribe_eq subject consumer b with ⟨closed, refused⟩ | ⟨running, subscribed⟩
      · rw [refused]
        exact .first (.closed addressed closed)
      · rw [subscribed]
        have first : r.IsFor consumer name ⟨b.subscribers.length, subject, consumer, true, true⟩ :=
          ⟨addressed, rfl, rfl⟩
        exact .cons first rfl running (ending_subscribeAll r consumer names _ _)
    · rw [found]
      exact .first (refuses _)

/-! ## All or nothing -/

/-- A consumer has started: it has one new live subscription for each of its names, in their order,
and that is all that is new. -/
structure Opened (r : Registry) (names : List String) (consumer : String) (b : Bus) (c : Consumer)
    (b' : Bus) : Prop where
  each : ∃ new, List.Forall₂ (r.IsFor consumer) names new ∧
    c.subscriptions = new.map Subscriber.id ∧ b'.live = b.live ++ new ∧ b' = b.joinedBy new
  nodup : c.subscriptions.Nodup
  fresh : ∀ s ∈ b.subscribers, s.id ∉ c.subscriptions
  /-- It gets what is published for its names, once for each of them. -/
  consumers : ∀ subject, b'.consumers subject = b.consumers subject ++
    (names.filter fun name => r.subject? name = some subject).map fun _ => consumer
  unrefused : ∀ name ∈ names, ∀ e, ¬r.Refuses b.isClosed name e

/-- A consumer has not started: a name was refused, the first that is, and the bus is as it was but
for subscriptions that are over. -/
structure Refused (r : Registry) (names : List String) (b : Bus) (e : EventError) (b' : Bus) :
    Prop where
  first : ∃ taken name others, names = taken ++ name :: others ∧
    (∀ name ∈ taken, ∀ e, ¬r.Refuses b.isClosed name e) ∧ r.Refuses b.isClosed name e
  live : b'.live = b.live
  consumers : ∀ subject, b'.consumers subject = b.consumers subject
  rest : ∃ gone, (∀ s ∈ gone, b'.IsOver s.id) ∧ b' = b.joinedBy gone

/-- What is new has a new number. -/
theorem Subscribed.mem_numbers (subscribed : Subscribed r consumer b names new) {id : Nat}
    (hid : id ∈ new.map Subscriber.id) :
    b.subscribers.length ≤ id ∧ id < (b.joinedBy new).subscribers.length := by
  rw [subscribed.numbers, List.mem_range'_1] at hid
  rwa [Bus.subscribers_joinedBy, List.length_append]

theorem Subscribed.not_mem_numbers (subscribed : Subscribed r consumer b names new) {id : Nat}
    (known : id < b.subscribers.length) : id ∉ new.map Subscriber.id :=
  fun own => Nat.not_lt.2 (subscribed.mem_numbers own).1 known

/-- What is live when all that is new was given up. -/
theorem Subscribed.live_without (subscribed : Subscribed r consumer b names new)
    (numbered : b.IsNumbered) :
    ((b.joinedBy new).without (new.map Subscriber.id)).live = b.live := by
  have kept : (b.live.filter fun s => s.id ∉ new.map Subscriber.id) = b.live :=
    List.filter_eq_self.2 fun s hs => decide_eq_true
      (subscribed.not_mem_numbers (numbered.id_lt (List.mem_of_mem_filter hs)))
  have gone : (new.filter fun s => s.id ∉ new.map Subscriber.id) = [] :=
    List.filter_eq_nil_iff.2 fun s hs => by simpa using ⟨s, hs, rfl⟩
  rw [Bus.live_without, Bus.live_joinedBy, Registry.live_of_forall₂ subscribed.each,
    List.filter_append, kept, gone, List.append_nil]

/-- What is left then: the bus as it was, and dead subscriptions at the end of its list. -/
theorem Subscribed.without_eq (subscribed : Subscribed r consumer b names new)
    (numbered : b.IsNumbered)
    (addressed : ∀ p ∈ b.waiting, p.subscription < b.subscribers.length) :
    (b.joinedBy new).without (new.map Subscriber.id) =
      b.joinedBy (new.map (Subscriber.leaving (new.map Subscriber.id))) := by
  have subscribers : b.subscribers.map (Subscriber.leaving (new.map Subscriber.id)) =
      b.subscribers.map id :=
    List.map_congr_left fun s hs =>
      Subscriber.leaving_of_not_mem (subscribed.not_mem_numbers (numbered.id_lt hs))
  have waiting : (b.waiting.filter fun p => p.subscription ∉ new.map Subscriber.id) = b.waiting :=
    List.filter_eq_self.2 fun p hp => decide_eq_true (subscribed.not_mem_numbers (addressed p hp))
  unfold Bus.without Bus.joinedBy
  dsimp only
  rw [List.map_append, subscribers, waiting, List.map_id]

variable {settings : BusSettings} {before : List Bus.Call} {c : Consumer}

/-- **All.** -/
theorem opened_of_subscribed (subscribed : Subscribed r consumer (Bus.run settings before) names new) :
    Opened r names consumer (Bus.run settings before) ⟨new.map Subscriber.id⟩
      ((Bus.run settings before).joinedBy new) where
  each := by
    refine ⟨new, subscribed.each, rfl, ?_, rfl⟩
    rw [Bus.live_joinedBy, Registry.live_of_forall₂ subscribed.each]
  nodup := by
    rw [subscribed.numbers]
    exact List.nodup_range'
  fresh s hs own := by
    have old := (Bus.isNumbered_run settings before).id_lt hs
    have new := (subscribed.mem_numbers own).1
    omega
  consumers subject := by
    rw [Bus.consumers_eq, Bus.consumers_eq, Bus.live_joinedBy,
      Registry.live_of_forall₂ subscribed.each, List.filter_append, List.map_append,
      Registry.consumers_of_forall₂ subscribed.each]
  unrefused := subscribed.unrefused

/-- **Or nothing.** -/
theorem refused_of_subscribed (subscribed : Subscribed r consumer (Bus.run settings before) taken new)
    (split : names = taken ++ name :: others)
    (refuses : r.Refuses (Bus.run settings before).isClosed name e) :
    Refused r names (Bus.run settings before) e
      (((Bus.run settings before).joinedBy new).without (new.map Subscriber.id)) := by
  have live := subscribed.live_without (Bus.isNumbered_run settings before)
  constructor
  case first => exact ⟨taken, name, others, split, subscribed.unrefused, refuses⟩
  case live => exact live
  case consumers =>
    intro subject
    rw [Bus.consumers_eq, Bus.consumers_eq, live]
  case rest =>
    refine ⟨new.map (Subscriber.leaving (new.map Subscriber.id)), fun s' hs' => ?_,
      subscribed.without_eq (Bus.isNumbered_run settings before) fun p hp =>
        Bus.waiting_lt_run settings before hp⟩
    obtain ⟨s, hs, rfl⟩ := List.mem_map.1 hs'
    rw [Subscriber.leaving_id]
    have own := List.mem_map_of_mem (f := Subscriber.id) hs
    exact Bus.isOver_without _ own (subscribed.mem_numbers own).2

/-! ## Stopping -/

/-- What holds when a consumer stops: its subscriptions are over, and all else is as it was. -/
structure Stopped (σ ε : Type) [Connected σ] [Retryable ε] (c : Consumer) (b : Bus) : Prop where
  dropped : c.stop b = b.without c.subscriptions
  /-- None of its subscriptions is live, and the other ones are as before. -/
  live : (c.stop b).live = b.live.filter fun s => s.id ∉ c.subscriptions
  others : ∀ id ∉ c.subscriptions, (c.stop b).share id = b.share id
  /-- That does not depend on when it gives up which subscription, and what others do meanwhile. -/
  leaving : ∀ calls : List Bus.Call, (∀ id ∈ c.subscriptions, .unsubscribe id ∈ calls) →
    ∀ id ∈ c.subscriptions, (calls.foldl Bus.after b).IsOver id
  /-- Whatever is done with the bus later, nothing is handed out to it any more. -/
  ended : ∀ later : List Bus.Call, ∀ id ∈ c.subscriptions,
    (later.foldl Bus.after (c.stop b)).IsOver id
  silent : ∀ later : List Bus.Call, ∀ id ∈ c.subscriptions, ∀ receipt parcel,
    ((later.foldl Bus.after (c.stop b)).next id).1 ≠ .message receipt parcel
  /-- Its handler is not called with anything, and what happens later is what happens without it. -/
  unserved : ∀ later : List Bus.Call, ∀ id ∈ c.subscriptions, ∀ (h : Handler σ ε) (s : σ),
    bus s = later.foldl Bus.after (c.stop b) → Staff.serve h id s = s
  unheard : ∀ (staff : Staff σ ε) (moments : List Staff.Moment) (s : σ), bus s = c.stop b →
    (∀ id h, staff id = some h → id ∉ c.subscriptions → h.UsesCalls) →
    (staff.without c.subscriptions).through moments s = staff.through moments s

/-- **A consumer can be stopped at any time.** -/
theorem stopped (σ ε : Type) [Connected σ] [Lawful σ] [Retryable ε]
    (known : ∀ id ∈ c.subscriptions, ∃ s, (Bus.run settings before).subscriber? id = some s)
    (during : List Bus.Call) : Stopped σ ε c (during.foldl Bus.after (Bus.run settings before)) := by
  have same := dropAll_eq c.subscriptions (during.foldl Bus.after (Bus.run settings before))
  have ended (later : List Bus.Call) {id : Nat} (own : id ∈ c.subscriptions) :
      (later.foldl Bus.after
        (c.stop (during.foldl Bus.after (Bus.run settings before)))).IsOver id := by
    obtain ⟨s, found⟩ := known id own
    rw [stop, same]
    exact (Bus.isOver_without _ own (Bus.lt_length_foldl found during)).foldl later
  constructor
  case dropped => exact same
  case live =>
    rw [stop, same]
    exact Bus.live_without _ _
  case others =>
    intro id other
    rw [stop, same]
    exact Bus.share_without _ other
  case leaving =>
    intro calls left id own
    obtain ⟨s, found⟩ := known id own
    rw [← List.foldl_append]
    exact Bus.isOver_of_mem found (List.mem_append_right during (left id own))
  case ended => exact fun later id own => ended later own
  case silent =>
    intro later id own receipt parcel
    rw [(ended later own).next_eq]
    dsimp only
    split <;> nofun
  case unserved =>
    intro later id own h s connected
    refine Staff.serve_of_isOver ?_ h
    rw [connected]
    exact ended later own
  case unheard =>
    intro staff moments s connected others
    refine Staff.through_without others moments fun id own => ?_
    rw [connected]
    exact ended [] own

/-- **Starting a consumer is all or nothing**, on any bus that has come about. If it succeeds, the
consumer can be stopped after anything has happened. -/
theorem start_all_or_nothing (σ ε : Type) [Connected σ] [Lawful σ] [Retryable ε]
    (settings : BusSettings) (before : List Bus.Call) (r : Registry) (names : List String)
    (consumer : String) :
    (∃ c b', start r names consumer (Bus.run settings before) = (.ok c, b') ∧
      Opened r names consumer (Bus.run settings before) c b' ∧
      ∀ during : List Bus.Call, Stopped σ ε c (during.foldl Bus.after b')) ∨
    ∃ e b', start r names consumer (Bus.run settings before) = (.error e, b') ∧
      Refused r names (Bus.run settings before) e b' := by
  have ending := ending_subscribeAll r consumer names [] (Bus.run settings before)
  generalize started : subscribeAll r consumer names [] (Bus.run settings before) = result at ending
  cases ending with
  | @all new subscribed =>
    refine .inl ⟨_, _, started, opened_of_subscribed subscribed, fun during => ?_⟩
    obtain ⟨called, -, served⟩ := start_eq (Bus.isNumbered_run settings before) started
    rw [called, ← Bus.run_append] at served ⊢
    refine stopped σ ε (fun id own => ?_) during
    obtain ⟨s, found, -⟩ := (Option.any_eq_true _ _).1 (served id own)
    exact ⟨s, found⟩
  | upTo subscribed split refuses =>
    exact .inr ⟨_, _, started, refused_of_subscribed subscribed split refuses⟩

/-- Somebody else is there for deleted accounts. -/
def sampleNeighbour : List Bus.Call := [.subscribe "identitysvc.EventAccountDeleted" "paymentsvc"]

/-- A consumer that starts then. -/
def sampleStart (names : List String) : Except EventError Consumer × Bus :=
  start .standard names "ordersvc" (Bus.run Bus.standardSettings sampleNeighbour)

/-- One of deleted accounts starts, and one that also wants what nobody knows does not. -/
theorem start_all_or_nothing_of_sampleNeighbour :
    (∃ c b', sampleStart ["EventAccountDeleted"] = (.ok c, b') ∧
      b'.consumers "identitysvc.EventAccountDeleted" = ["paymentsvc", "ordersvc"] ∧
      ∀ during : List Bus.Call, Stopped Flaky EventError c (during.foldl Bus.after b')) ∧
    ∃ e b', sampleStart ["EventAccountDeleted", "EventUnheardOf"] = (.error e, b') ∧
      b'.consumers "identitysvc.EventAccountDeleted" = ["paymentsvc"] ∧
      b'.subscribers.length = 2 := by
  constructor
  · have succeeds : (sampleStart ["EventAccountDeleted"]).1.toOption.isSome = true := by
      decide +kernel
    have listed : (sampleStart ["EventAccountDeleted"]).2.consumers
        "identitysvc.EventAccountDeleted" = ["paymentsvc", "ordersvc"] := by decide +kernel
    rcases start_all_or_nothing Flaky EventError Bus.standardSettings sampleNeighbour .standard
        ["EventAccountDeleted"] "ordersvc" with ⟨c, b', started, -, stopped⟩ | ⟨e, b', started, -⟩
    · rw [sampleStart, started] at listed
      exact ⟨c, b', started, listed, stopped⟩
    · rw [sampleStart, started] at succeeds
      cases succeeds
  · have fails : (sampleStart ["EventAccountDeleted", "EventUnheardOf"]).1.toOption.isNone = true := by
      decide +kernel
    have known : (sampleStart ["EventAccountDeleted", "EventUnheardOf"]).2.subscribers.length = 2 := by
      decide +kernel
    rcases start_all_or_nothing Flaky EventError Bus.standardSettings sampleNeighbour .standard
        ["EventAccountDeleted", "EventUnheardOf"] "ordersvc" with
      ⟨c, b', started, -⟩ | ⟨e, b', started, refused⟩
    · rw [sampleStart, started] at fails
      cases fails
    · rw [sampleStart, started] at known
      exact ⟨e, b', started, refused.consumers _, known⟩

end Consumer

end Marketplace
