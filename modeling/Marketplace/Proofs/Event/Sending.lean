import Marketplace.Event.Batch
import Marketplace.Proofs.Event.Wire

/-!
# Sending a batch

A batch is filled by additions, each of which may be refused and is then left out. It is sent event
by event, up to the first that cannot be sent. What stands in the way of an event can be told from
the bus before the sending: there is no connection, the event has no address, the bus is closed, or
the bus is to fail at the attempt whose turn it is then. An attempt counts once the bus is reached
and open, whether it fails or not. The batch stays as it is, so sending it again sends its first
event again.

## Results

* `Batch.addAll_eq`: what a sequence of additions answers and what it leaves in the batch.
* `Registry.send_spec`: an event goes out if nothing stands in its way.
* `Registry.sendAll_cases_obstacle`: all events go out, or sending stops at one of them.
* `Batch.publish_again`: what sending a batch again does when the bus has failed.
* `batch_fails_fast`: additions and sending together, and sending again.
-/

namespace Marketplace

/-! ## Filling a batch -/

/-- One addition to a batch: what an event is made of. -/
structure Addition where
  stamp : Stamp
  name : String
  payload : Payload

namespace Addition

/-- The event of an addition, if it can be made. -/
def made (a : Addition) (b : Batch) : Except EventError Event :=
  b.registry.create a.stamp b.source b.correlation a.name a.payload

end Addition

namespace Batch

/-- Adds events in order, and answers how each addition went. -/
def addAll : List Addition → Batch → List (Except EventError Unit) × Batch
  | [], b => ([], b)
  | a :: as, b =>
    match b.add a.stamp a.name a.payload with
    | (answer, b) =>
      match addAll as b with
      | (answers, b) => (answer :: answers, b)

variable {b : Batch}

theorem add_of_made {a : Addition} {e : Event} (made : a.made b = .ok e) :
    b.add a.stamp a.name a.payload = (.ok (), { b with events := b.events ++ [e] }) := by
  unfold add
  rw [show b.registry.create _ _ _ _ _ = _ from made]

theorem add_of_refused {a : Addition} {err : EventError} (refused : a.made b = .error err) :
    b.add a.stamp a.name a.payload = (.error err, b) := by
  unfold add
  rw [show b.registry.create _ _ _ _ _ = _ from refused]

/-- **The batch holds the events whose addition succeeded**, in order, and every other addition is
answered with what went wrong. -/
theorem addAll_eq : ∀ (as : List Addition) (b : Batch), b.addAll as =
    (as.map fun a => (a.made b).map fun _ => (),
      { b with events := b.events ++ as.filterMap fun a => (a.made b).toOption })
  | [], b => by
    unfold addAll
    rw [List.filterMap_nil, List.append_nil]
    rfl
  | a :: as, b => by
    unfold addAll
    cases made : a.made b with
    | error err =>
      rw [add_of_refused made]
      dsimp only
      rw [addAll_eq as b, List.map_cons, List.filterMap_cons, made]
      rfl
    | ok e =>
      rw [add_of_made made]
      dsimp only
      rw [addAll_eq as, List.map_cons, List.filterMap_cons, made, List.append_assoc]
      rfl

end Batch

/-! ## What stands in the way -/

/-- Something is found at a first place of a list, or nowhere. -/
theorem none_or_first {α β : Type} (f : Nat → α → Option β) : ∀ as : List α,
    (∀ j a, as[j]? = some a → f j a = none) ∨
    ∃ k a b, as[k]? = some a ∧ f k a = some b ∧ ∀ j a, j < k → as[j]? = some a → f j a = none
  | [] => .inl fun _ _ listed => nomatch listed
  | a :: as => by
    cases here : f 0 a with
    | some b => exact .inr ⟨0, a, b, rfl, here, fun _ _ none => nomatch none⟩
    | none =>
      rcases none_or_first (fun j => f (j + 1)) as with clear | ⟨k, a', b, listed, found, clear⟩
      · left
        intro j a' listed
        cases j with
        | zero =>
          cases listed
          exact here
        | succ j => exact clear j a' listed
      · refine .inr ⟨k + 1, a', b, listed, found, fun j a' earlier listed => ?_⟩
        cases j with
        | zero =>
          cases listed
          exact here
        | succ j => exact clear j a' (Nat.lt_of_succ_lt_succ earlier) listed

/-- The failure is one of carrying a message. -/
def EventError.isTransport : EventError → Bool
  | bus (.transport _) => true
  | _ => false

/-- A bus after some attempts to publish, in which it has taken some messages. -/
structure Bus.Took (b b' : Bus) (attempts : Nat) (posts : List (String × ByteArray)) : Prop where
  log : b'.log = b.log ++ posts
  attempts : b'.attempts = b.attempts + attempts
  isClosed : b'.isClosed = b.isClosed
  failOn : b'.failOn = b.failOn

namespace Bus.Took

variable {b b' b'' : Bus} {m n : Nat} {posts more : List (String × ByteArray)}

theorem refl (b : Bus) : b.Took b 0 [] := ⟨(List.append_nil _).symm, rfl, rfl, rfl⟩

theorem trans (first : b.Took b' m posts) (rest : b'.Took b'' n more) :
    b.Took b'' (m + n) (posts ++ more) where
  log := by rw [rest.log, first.log, List.append_assoc]
  attempts := by rw [rest.attempts, first.attempts, Nat.add_assoc]
  isClosed := rest.isClosed.trans first.isClosed
  failOn := rest.failOn.trans first.failOn

end Bus.Took

namespace Registry

variable {r : Registry} {c : Bool} {e : Event} {es : List Event} {o : Outlet} {k : Nat}
  {err : EventError}

/-- What stands in the way of an event that comes after some number of others. -/
def obstacle? (r : Registry) (connected : Bool) (b : Bus) (before : Nat) (e : Event) :
    Option EventError :=
  if !connected then some .noConnection
  else
    match r.subject e.name with
    | .error err => some err
    | .ok subject =>
      if b.isClosed then some (.bus .closed)
      else if b.failOn = some (b.attempts + before + 1) then
        some (.bus (.transport ("injected failure publishing to " ++ subject)))
      else none

/-- What stands in the way stays the same as the turn of an event comes. -/
theorem obstacle?_of_took {b b' : Bus} {n : Nat} {posts : List (String × ByteArray)}
    (took : b.Took b' n posts) : r.obstacle? c b' k e = r.obstacle? c b (n + k) e := by
  unfold obstacle?
  rw [took.isClosed, took.failOn, took.attempts, Nat.add_assoc b.attempts]

/-- A name without an address is no failure of the bus. -/
theorem isTransport_of_subject {name : String} (unaddressed : r.subject name = .error err) :
    err.isTransport = false := by
  unfold subject at unaddressed
  split at unaddressed
  case h_1 err unknown =>
    cases unaddressed
    unfold entry at unknown
    split at unknown
    case h_1 => cases unknown
    case h_2 =>
      cases unknown
      rfl
  case h_2 =>
    split at unaddressed
    case h_1 => cases unaddressed
    case h_2 =>
      cases unaddressed
      rfl

theorem obstacle?_of_no_subject {b : Bus} (unaddressed : r.subject e.name = .error err) :
    r.obstacle? true b k e = some err := by
  unfold obstacle?
  rw [unaddressed]
  rfl

theorem send_of_no_subject (unaddressed : r.subject e.name = .error err) :
    r.send true e o = (.error err, o) := by
  unfold send
  rw [unaddressed]
  rfl

theorem obstacle?_of_subject {b : Bus} {subject : String}
    (addressed : r.subject e.name = .ok subject) : r.obstacle? true b k e =
      if b.isClosed then some (.bus .closed)
      else if b.failOn = some (b.attempts + k + 1) then
        some (.bus (.transport ("injected failure publishing to " ++ subject)))
      else none := by
  unfold obstacle?
  rw [addressed]
  rfl

theorem send_of_subject {subject : String} (addressed : r.subject e.name = .ok subject) :
    r.send true e o = match o.bus.publish subject e.octets with
      | (.ok (), bus) => (.ok (), ⟨bus, o.tally.add (.eventPublished e.name) 1⟩)
      | (.error err, bus) =>
        (.error (.bus err), ⟨bus, o.tally.add (.eventNotPublished e.name) 1⟩) := by
  unfold send
  rw [addressed]
  rfl

/-- The bus fails to carry an event when it is open and made to fail at this attempt. -/
theorem of_transport_obstacle {b : Bus} (obstacle : r.obstacle? true b k e = some err)
    (transport : err.isTransport = true) :
    b.isClosed = false ∧ b.failOn = some (b.attempts + k + 1) := by
  cases addressed : r.subject e.name with
  | error err' =>
    cases (obstacle?_of_no_subject addressed).symm.trans obstacle
    cases (isTransport_of_subject addressed).symm.trans transport
  | ok subject =>
    rw [obstacle?_of_subject addressed] at obstacle
    split at obstacle
    case isTrue =>
      cases obstacle
      cases transport
    rename_i opened
    split at obstacle
    case isFalse => cases obstacle
    rename_i failing
    exact ⟨Bool.eq_false_iff.2 opened, failing⟩

/-- Nothing stands in the way of an event with an address when the failure of the bus is over. -/
theorem clear_of_past {b : Bus} {n : Nat} (opened : b.isClosed = false) (failed : b.failOn = some n)
    (past : n ≤ b.attempts) (addressed : ∃ s, r.subject e.name = .ok s) :
    r.obstacle? true b k e = none := by
  obtain ⟨s, addressed⟩ := addressed
  have spared : b.failOn ≠ some (b.attempts + k + 1) := by
    rw [failed]
    intro turn
    have := Option.some.inj turn
    omega
  rw [obstacle?_of_subject addressed, if_neg (by rw [opened]; nofun), if_neg spared]

/-- **An event goes out if nothing stands in its way.** If something does, the bus takes nothing,
and counts an attempt only if it failed to carry the message. -/
theorem send_spec (r : Registry) (c : Bool) (e : Event) (o : Outlet) :
    (r.obstacle? c o.bus 0 e = none ∧ (r.send c e o).1 = .ok () ∧
      ∃ post, r.post? e = some post ∧ o.bus.Took (r.send c e o).2.bus 1 [post]) ∨
    ∃ err, r.obstacle? c o.bus 0 e = some err ∧ (r.send c e o).1 = .error err ∧
      o.bus.Took (r.send c e o).2.bus (if err.isTransport then 1 else 0) [] := by
  cases c with
  | false => exact .inr ⟨.noConnection, rfl, rfl, .refl o.bus⟩
  | true =>
    cases addressed : r.subject e.name with
    | error err =>
      rw [obstacle?_of_no_subject addressed, send_of_no_subject addressed]
      refine .inr ⟨err, rfl, rfl, ?_⟩
      rw [isTransport_of_subject addressed]
      exact .refl o.bus
    | ok subject =>
      rw [obstacle?_of_subject addressed, send_of_subject addressed]
      unfold Bus.publish
      by_cases closed : o.bus.isClosed = true
      case pos =>
        rw [if_pos closed, if_pos closed]
        exact .inr ⟨_, rfl, rfl, .refl o.bus⟩
      rw [if_neg closed, if_neg closed]
      dsimp only
      by_cases failing : o.bus.failOn = some (o.bus.attempts + 1)
      case pos =>
        rw [if_pos failing, if_pos failing]
        exact .inr ⟨_, rfl, rfl, (List.append_nil _).symm, rfl, rfl, rfl⟩
      case neg =>
        rw [if_neg failing, if_neg failing]
        have post : r.post? e = some (subject, e.octets) := by
          unfold post?
          rw [addressed]
        exact .inl ⟨rfl, rfl, _, post, rfl, rfl, rfl, rfl⟩

/-! ## Sending in order -/

theorem sendAll_cons_of_ok {o' : Outlet} (sent : r.send c e o = (.ok (), o')) :
    r.sendAll c (e :: es) o = r.sendAll c es o' := by
  rw [sendAll, sent]

theorem sendAll_cons_of_error {o' : Outlet} (failed : r.send c e o = (.error err, o')) :
    r.sendAll c (e :: es) o = (.error err, o') := by
  rw [sendAll, failed]

/-- Events after others are sent when those are out. -/
theorem sendAll_append {fs : List Event} {o' : Outlet} : ∀ {es : List Event} {o : Outlet},
    r.sendAll c es o = (.ok (), o') → r.sendAll c (es ++ fs) o = r.sendAll c fs o'
  | [], _, out => by
    cases out
    rfl
  | e :: es, o, out => by
    rw [List.cons_append]
    cases hs : r.send c e o with
    | mk x o₁ =>
      cases x with
      | error err =>
        rw [sendAll_cons_of_error hs] at out
        cases out
      | ok u =>
        rw [sendAll_cons_of_ok hs] at out ⊢
        exact sendAll_append out

/-- Events that nothing stands in the way of all go out. -/
theorem sendAll_of_clear : ∀ (es : List Event) (o : Outlet),
    (∀ j e, es[j]? = some e → r.obstacle? c o.bus j e = none) →
    (r.sendAll c es o).1 = .ok () ∧ ∃ posts, es.map r.post? = posts.map some ∧
      o.bus.Took (r.sendAll c es o).2.bus es.length posts
  | [], o, _ => ⟨rfl, [], rfl, .refl o.bus⟩
  | e :: es, o, clear => by
    rcases send_spec r c e o with ⟨_, sent, post, own, took⟩ | ⟨err, obstacle, _⟩
    case inr => cases obstacle.symm.trans (clear 0 e rfl)
    cases hs : r.send c e o with
    | mk x o' =>
      rw [hs] at sent took
      cases sent
      rw [sendAll_cons_of_ok hs]
      have clear' : ∀ j e', es[j]? = some e' → r.obstacle? c o'.bus j e' = none := by
        intro j e' listed
        rw [obstacle?_of_took took, Nat.add_comm]
        exact clear (j + 1) e' listed
      obtain ⟨rest, posts, all, took'⟩ := sendAll_of_clear es o' clear'
      refine ⟨rest, post :: posts, by rw [List.map_cons, own, all, List.map_cons], ?_⟩
      rw [List.length_cons, Nat.add_comm]
      exact took.trans took'

/-- Sending stops at the first event that something stands in the way of. -/
structure StopsAt (r : Registry) (c : Bool) (es : List Event) (o : Outlet) (k : Nat)
    (err : EventError) : Prop where
  /-- It answers with the failure of this event. -/
  answer : (r.sendAll c es o).1 = .error err
  /-- It is in the way of this event, -/
  obstacle : ∃ e, es[k]? = some e ∧ r.obstacle? c o.bus k e = some err
  /-- and nothing is in the way of those before. -/
  clear : ∀ j e, j < k → es[j]? = some e → r.obstacle? c o.bus j e = none
  /-- The events before are logged, with their addresses, and nothing else. The attempts before
  count, and that of this event if the bus failed to carry it. -/
  taken : ∃ posts, (es.take k).map r.post? = posts.map some ∧
    o.bus.Took (r.sendAll c es o).2.bus (k + if err.isTransport then 1 else 0) posts
  /-- The events after it make no difference. -/
  ended : r.sendAll c es o = r.sendAll c (es.take (k + 1)) o

/-- The log grows by as many messages as there are events before the one that fails. -/
theorem StopsAt.length_log (stop : r.StopsAt c es o k err) :
    k < es.length ∧ (r.sendAll c es o).2.bus.log.length = o.bus.log.length + k := by
  obtain ⟨e, listed, -⟩ := stop.obstacle
  obtain ⟨posts, before, took⟩ := stop.taken
  have inBounds := (List.getElem?_eq_some_iff.1 listed).1
  have length := congrArg List.length before
  rw [List.length_map, List.length_map, List.length_take_of_le (Nat.le_of_lt inBounds)] at length
  exact ⟨inBounds, by rw [took.log, List.length_append, length]⟩

/-- **Sending stops at an event that something stands in the way of**, if nothing stands in the way
of those before. -/
theorem stopsAt (listed : es[k]? = some e) (obstacle : r.obstacle? c o.bus k e = some err)
    (clear : ∀ j e, j < k → es[j]? = some e → r.obstacle? c o.bus j e = none) :
    r.StopsAt c es o k err := by
  have first : ∀ j e', (es.take k)[j]? = some e' → r.obstacle? c o.bus j e' = none := by
    intro j e' before
    rw [List.getElem?_take] at before
    split at before
    case isTrue earlier => exact clear j e' earlier before
    case isFalse => cases before
  obtain ⟨out, posts, all, took⟩ := sendAll_of_clear (es.take k) o first
  obtain ⟨inBounds, own⟩ := List.getElem?_eq_some_iff.1 listed
  rw [List.length_take, Nat.min_eq_left (Nat.le_of_lt inBounds)] at took
  cases ho : r.sendAll c (es.take k) o with
  | mk x o' =>
    rw [ho] at out took
    cases out
    -- what is in the way of the event is still in its way when its turn comes
    have turn : r.obstacle? c o'.bus 0 e = some err := by
      rw [obstacle?_of_took took]
      exact obstacle
    rcases send_spec r c e o' with ⟨none, _⟩ | ⟨err', obstacle', failed, took'⟩
    case inl => cases none.symm.trans turn
    cases turn.symm.trans obstacle'
    cases hs : r.send c e o' with
    | mk y o'' =>
      rw [hs] at failed took'
      cases failed
      have whole : r.sendAll c es o = (.error err, o'') := by
        rw [← List.take_append_drop k es, sendAll_append ho, List.drop_eq_getElem_cons inBounds,
          own]
        exact sendAll_cons_of_error hs
      have part : r.sendAll c (es.take (k + 1)) o = (.error err, o'') := by
        rw [List.take_add_one, listed, sendAll_append ho]
        exact sendAll_cons_of_error hs
      constructor
      case answer => rw [whole]
      case obstacle => exact ⟨e, listed, obstacle⟩
      case clear => exact clear
      case taken =>
        rw [whole]
        refine ⟨posts, all, ?_⟩
        have both := took.trans took'
        rwa [List.append_nil] at both
      case ended => rw [whole, part]

/-- **All events go out, or sending stops at one of them.** -/
theorem sendAll_cases_obstacle (r : Registry) (c : Bool) (es : List Event) (o : Outlet) :
    ((r.sendAll c es o).1 = .ok () ∧ ∃ posts, es.map r.post? = posts.map some ∧
      o.bus.Took (r.sendAll c es o).2.bus es.length posts) ∨
    ∃ k err, r.StopsAt c es o k err := by
  rcases none_or_first (r.obstacle? c o.bus) es with clear | ⟨k, e, err, listed, found, clear⟩
  · exact .inl (sendAll_of_clear es o clear)
  · exact .inr ⟨k, err, stopsAt listed found clear⟩

end Registry

/-! ## Sending a batch -/

namespace Batch

/-- A batch is sent up to the first event that cannot be sent. -/
structure SendsUpToFailure (b : Batch) (connected : Bool) (o : Outlet) : Prop where
  /-- It succeeds if all events are logged, with their addresses. -/
  ok_iff : (b.publish connected o).1 = .ok () ↔ ∃ posts,
    b.events.map b.registry.post? = posts.map some ∧
      (b.publish connected o).2.bus.log = o.bus.log ++ posts
  /-- When it succeeds, there was one attempt for each event. -/
  attempts : (b.publish connected o).1 = .ok () →
    (b.publish connected o).2.bus.attempts = o.bus.attempts + b.size
  /-- When it fails, it stopped at an event, and answers with the failure of this event. -/
  stops : ∀ err, (b.publish connected o).1 = .error err →
    ∃ k, b.registry.StopsAt connected b.events o k err

/-- **A batch is sent up to the first event that cannot be sent.** -/
theorem sendsUpToFailure (b : Batch) (connected : Bool) (o : Outlet) :
    b.SendsUpToFailure connected o := by
  rcases b.registry.sendAll_cases_obstacle connected b.events o with
    ⟨out, posts, all, took⟩ | ⟨k, err, stop⟩
  · constructor
    case ok_iff => exact iff_of_true out ⟨posts, all, took.log⟩
    case attempts => exact fun _ => took.attempts
    case stops => exact fun err failed => nomatch out.symm.trans failed
  · constructor
    case ok_iff =>
      refine iff_of_false (fun out => nomatch stop.answer.symm.trans out) ?_
      rintro ⟨posts, all, log⟩
      -- The log has grown by fewer messages than there are events.
      obtain ⟨fewer, grown⟩ := stop.length_log
      have long := congrArg List.length all
      have growth := congrArg List.length log
      rw [List.length_map, List.length_map] at long
      rw [List.length_append] at growth
      have same : o.bus.log.length + posts.length = o.bus.log.length + k := growth.symm.trans grown
      omega
    case attempts => exact fun out => nomatch stop.answer.symm.trans out
    case stops =>
      intro err' failed
      cases stop.answer.symm.trans failed
      exact ⟨k, stop⟩

/-- **A batch that is sent again starts anew.** When the bus failed to carry one of its events, all
of it goes out the next time, and the events before that one go out twice. -/
theorem publish_again {b : Batch} {o : Outlet} {k : Nat} {err : EventError}
    (stop : b.registry.StopsAt true b.events o k err) (transport : err.isTransport = true)
    (addressed : ∀ e ∈ b.events, ∃ s, b.registry.subject e.name = .ok s) :
    let o' := (b.publish true o).2
    (b.publish true o').1 = .ok () ∧ ∃ posts, b.events.map b.registry.post? = posts.map some ∧
      (b.publish true o').2.bus.log = o.bus.log ++ posts.take k ++ posts := by
  intro o'
  obtain ⟨e, _, obstacle⟩ := stop.obstacle
  obtain ⟨part, first, took⟩ := stop.taken
  obtain ⟨opened, failing⟩ := Registry.of_transport_obstacle obstacle transport
  have past : o.bus.attempts + k + 1 ≤ o'.bus.attempts := by
    have count := took.attempts
    rw [transport, if_pos rfl] at count
    exact Nat.le_of_eq count.symm
  obtain ⟨out, posts, all, took'⟩ := Registry.sendAll_of_clear (c := true) b.events o'
    fun j e' listed => Registry.clear_of_past (took.isClosed.trans opened)
      (took.failOn.trans failing) past (addressed e' (List.mem_of_getElem? listed))
  have same : part = posts.take k := by
    rw [← List.map_inj_right fun _ _ => Option.some.inj, ← first, List.map_take, all, List.map_take]
  exact ⟨out, posts, all, by rw [← same, ← took.log]; exact took'.log⟩

end Batch

/-- **A batch fails fast.** It holds the events whose addition succeeded, in order. It is sent up to
the first event that cannot be sent, and as it stays as it is, sending it again does the same from
its first event on. -/
theorem batch_fails_fast (r : Registry) (source correlation : String) (additions : List Addition)
    (connected : Bool) (o : Outlet) :
    let new := Batch.new r source correlation
    let b := (new.addAll additions).2
    (new.addAll additions).1 = additions.map (fun a => (a.made new).map fun _ => ()) ∧
      b = { new with events := additions.filterMap fun a => (a.made new).toOption } ∧
      b.SendsUpToFailure connected o ∧
      ∀ again, b.SendsUpToFailure again (b.publish connected o).2 := by
  intro new b
  have filled := new.addAll_eq additions
  exact ⟨congrArg Prod.fst filled, congrArg Prod.snd filled, b.sendsUpToFailure connected o,
    fun again => b.sendsUpToFailure again _⟩

/-! ## A batch in which an event has no address -/

/-- What may be sent, and a note that has no address. -/
def sampleRegistry : Registry := .register .standard "note" ⟨none, fun _ => true⟩

/-- An account was deleted, a note is taken of it, something is no payment, and another account was
deleted. -/
def sampleAdditions : List Addition :=
  let stamp : Stamp := ⟨.ofNat 1, ⟨0⟩⟩
  [⟨stamp, "EventAccountDeleted", .accountDeleted ⟨1⟩⟩, ⟨stamp, "note", .accountDeleted ⟨1⟩⟩,
    ⟨stamp, "EventPayment", .accountDeleted ⟨1⟩⟩,
    ⟨stamp, "EventAccountDeleted", .accountDeleted ⟨2⟩⟩]

def sampleBatch : Batch := ((Batch.new sampleRegistry "a" "r").addAll sampleAdditions).2

/-- The events of the batch. -/
def sampleFirst : Event :=
  ⟨⟨envelopeVersion, "a", (⟨0⟩ : Instant).timestamp, "EventAccountDeleted", .ofNat 1, "r"⟩,
    .accountDeleted ⟨1⟩⟩

def sampleNote : Event := ⟨{ sampleFirst.header with name := "note" }, .accountDeleted ⟨1⟩⟩

def sampleLast : Event := ⟨sampleFirst.header, .accountDeleted ⟨2⟩⟩

/-- Where the batch was sent. -/
def sampleSent : Outlet := (sampleBatch.publish true default).2

/-- What is no payment is left out. The batch is sent up to the note, after one attempt, and the
same once again. What the bus has logged then reads back as the first event, twice. -/
theorem batch_fails_fast_of_sampleBatch :
    sampleBatch.events = [sampleFirst, sampleNote, sampleLast] ∧
    (∃ err, sampleRegistry.StopsAt true sampleBatch.events default 1 err) ∧
    sampleSent.bus.attempts = 1 ∧
    (∃ err, sampleRegistry.StopsAt true sampleBatch.events sampleSent 1 err) ∧
    (sampleBatch.publish true sampleSent).2.bus.log =
      List.replicate 2 ("identitysvc.EventAccountDeleted", sampleFirst.octets) ∧
    ∃ s, Sealed.ofOctets sampleFirst.octets = .ok s ∧ s.decode = .ok sampleFirst := by
  obtain ⟨-, -, sends, again⟩ :=
    batch_fails_fast sampleRegistry "a" "r" sampleAdditions true default
  have registry : sampleBatch.registry = sampleRegistry := rfl
  have events : sampleBatch.events = [sampleFirst, sampleNote, sampleLast] := by decide +kernel
  have first : sampleRegistry.post? sampleFirst =
      some ("identitysvc.EventAccountDeleted", sampleFirst.octets) := rfl
  have note : sampleRegistry.post? sampleNote = none := rfl
  have stops {o : Outlet} (sends : sampleBatch.SendsUpToFailure true o)
      (grown : (sampleBatch.publish true o).2.bus.log.length = o.bus.log.length + 1) :
      (∃ err, sampleRegistry.StopsAt true sampleBatch.events o 1 err) ∧
        (sampleBatch.publish true o).2.bus.log =
          o.bus.log ++ [("identitysvc.EventAccountDeleted", sampleFirst.octets)] := by
    cases answer : (sampleBatch.publish true o).1 with
    | ok u =>
      obtain ⟨posts, all, -⟩ := sends.ok_iff.1 answer
      have none : none ∈ posts.map some := by
        rw [← all, events, registry, ← note]
        exact List.mem_map_of_mem (List.mem_cons_of_mem _ List.mem_cons_self)
      obtain ⟨_, -, impossible⟩ := List.mem_map.1 none
      cases impossible
    | error err =>
      obtain ⟨k, stop⟩ := sends.stops err answer
      -- The log has grown by one message, so it is the second event that is in the way.
      obtain rfl : k = 1 := Nat.add_left_cancel (stop.length_log.2.symm.trans grown)
      obtain ⟨posts, before, took⟩ := stop.taken
      rw [events, registry, List.take_succ_cons, List.take_zero, List.map_singleton,
        first] at before
      obtain ⟨post, rfl, same⟩ := List.map_eq_singleton_iff.1 before.symm
      cases same
      exact ⟨⟨err, registry ▸ stop⟩, took.log⟩
  obtain ⟨stop, log⟩ := stops sends (by decide +kernel)
  obtain ⟨stop', log'⟩ := stops (again true) (by decide +kernel)
  refine ⟨events, stop, by decide +kernel, stop', ?_, ?_⟩
  · exact log'.trans (congrArg (· ++ _) log)
  · exact Event.arrives rfl (by decide +kernel)

end Marketplace
