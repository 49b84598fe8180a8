import Marketplace.Proofs.Announcement

/-!
# The batch of an operation

What an operation announces is a batch of events that is fixed when the operation commits: by its
news, by who asks, and by the identifiers and moments that are drawn for the envelopes. The bus then
takes all of it or its first part. A bus that is open and has no failure in store takes all of it,
and such an undisturbed attempt is what others are compared with.

## Results

* `Participant.map_payload_batch`: the events of a batch and the news of its operation.
* `Participant.performed_isPrefix`, `Participant.performed_eq_batch`: how much of the batch goes
  out.
* `Participant.perform_of_calm`: an undisturbed operation succeeds if it commits.
* `Participant.map_restamp_batch`: what a batch says depends on the news only.
-/

namespace Marketplace

/-! ## A bus that takes everything -/

/-- The bus is open, and no failure is in store. -/
structure Bus.IsCalm (b : Bus) : Prop where
  isOpen : b.isClosed = false
  failOn : b.failOn = none

namespace Bus

variable {b : Bus}

/-- A calm bus takes a message and stays calm. -/
theorem IsCalm.publish (h : b.IsCalm) (subject : String) (octets : ByteArray) :
    (b.publish subject octets).1 = .ok () ∧ (b.publish subject octets).2.IsCalm := by
  have taken : b.failOn ≠ some (b.attempts + 1) := by
    rw [h.failOn]
    nofun
  unfold Bus.publish
  rw [if_neg (by rw [h.isOpen]; nofun), if_neg taken]
  exact ⟨rfl, h.isOpen, h.failOn⟩

/-- The bus without a failure in store. -/
def calmed (b : Bus) : Bus := { b with isClosed := false, failOn := none }

theorem isCalm_calmed (b : Bus) : b.calmed.IsCalm := ⟨rfl, rfl⟩

end Bus

namespace Registry

variable {r : Registry} {o : Outlet}

/-- What has an address goes out on a calm bus, which stays calm. -/
theorem send_of_calm (calm : o.bus.IsCalm) {e : Event} (named : ∃ s, r.subject e.name = .ok s) :
    (r.send true e o).1 = .ok () ∧ (r.send true e o).2.bus.IsCalm := by
  obtain ⟨s, hs⟩ := named
  obtain ⟨taken, still⟩ := calm.publish s e.octets
  unfold send
  rw [hs]
  dsimp only
  cases hb : o.bus.publish s e.octets with
  | mk x bus =>
    rw [hb] at taken still
    cases taken
    exact ⟨rfl, still⟩

/-- A calm bus takes all of a batch. -/
theorem sent_of_calm : ∀ (es : List Event) {o : Outlet}, o.bus.IsCalm →
    (∀ e ∈ es, ∃ s, r.subject e.name = .ok s) → r.sent true es o = es
  | [], _, _, _ => rfl
  | e :: es, o, calm, named => by
    obtain ⟨taken, still⟩ := send_of_calm calm (named e List.mem_cons_self)
    unfold sent
    cases hs : r.send true e o with
    | mk x o' =>
      rw [hs] at taken still
      cases taken
      have rest := sent_of_calm es still fun e he => named e (List.mem_cons_of_mem _ he)
      exact congrArg (e :: ·) rest

end Registry

/-! ## Events -/

namespace Event

/-- What the bus is given for an event of a standard kind. -/
def post (e : Event) : String × ByteArray := (e.payload.topic.subject, e.octets)

/-- The event with another identifier and moment. -/
def restamp (stamp : Stamp) (e : Event) : Event :=
  ⟨{ e.header with id := stamp.id, time := stamp.time.timestamp }, e.payload⟩

theorem IsStandard.post? {e : Event} (h : e.IsStandard) :
    Registry.standard.post? e = some e.post := by
  unfold Registry.post?
  rw [show e.name = e.payload.topic.name from h, Registry.subject_standard]
  rfl

theorem filterMap_post? : ∀ {es : List Event}, (∀ e ∈ es, e.IsStandard) →
    es.filterMap Registry.standard.post? = es.map post
  | [], _ => rfl
  | e :: es, h => by
    rw [List.filterMap_cons_some (h e List.mem_cons_self).post?, List.map_cons,
      filterMap_post? fun e he => h e (List.mem_cons_of_mem _ he)]

end Event

namespace Participant

variable {σ α : Type}

/-- The events that some news is made into. -/
def eventsOf (v : Service) (correlation : String) (news : List Payload) (supply : Supply) :
    List Event :=
  match (events v correlation news supply).1 with
  | .ok batch => batch
  | .error _ => []

theorem events_fst (v : Service) (correlation : String) (news : List Payload) (supply : Supply) :
    (events v correlation news supply).1 = .ok (eventsOf v correlation news supply) := by
  obtain ⟨batch, hb, _⟩ := events_eq v correlation news supply
  unfold eventsOf
  rw [hb]

theorem map_payload_eventsOf (v : Service) (correlation : String) (news : List Payload)
    (supply : Supply) : (eventsOf v correlation news supply).map Event.payload = news := by
  obtain ⟨batch, hb, payloads, _⟩ := events_eq v correlation news supply
  rw [events_fst] at hb
  cases hb
  exact payloads

theorem standard_of_mem_eventsOf {v : Service} {correlation : String} {news : List Payload}
    {supply : Supply} : ∀ e ∈ eventsOf v correlation news supply, e.IsStandard := by
  obtain ⟨batch, hb, _, standard⟩ := events_eq v correlation news supply
  rw [events_fst] at hb
  cases hb
  exact standard

theorem eventsOf_cons (v : Service) (correlation : String) (payload : Payload)
    (news : List Payload) (supply : Supply) :
    eventsOf v correlation (payload :: news) supply =
      ⟨⟨envelopeVersion, v.name, supply.stamp.1.time.timestamp, payload.topic.name,
        supply.stamp.1.id, correlation⟩, payload⟩ ::
        eventsOf v correlation news supply.stamp.2 := by
  have rest := events_fst v correlation news supply.stamp.2
  rw [eventsOf, events]
  simp only [Registry.create_standard]
  cases he : events v correlation news supply.stamp.2 with
  | mk x supply' =>
    rw [he] at rest
    cases rest
    rfl

/-- **Events say the same whenever they are made**, but for their identifiers and moments. -/
theorem map_restamp_eventsOf (v : Service) (correlation : String) (stamp : Stamp) :
    ∀ (news : List Payload) (supply : Supply),
    (eventsOf v correlation news supply).map (Event.restamp stamp) = news.map fun payload =>
      ⟨⟨envelopeVersion, v.name, stamp.time.timestamp, payload.topic.name, stamp.id, correlation⟩,
        payload⟩
  | [], _ => rfl
  | payload :: news, supply => by
    rw [eventsOf_cons, List.map_cons, map_restamp_eventsOf v correlation stamp news]
    rfl

/-! ## Performing -/

/-- The events that an operation announces if it commits. -/
def batch (p : Participant σ) (correlation : String) (operation : Operation σ α) (d : Desk σ) :
    List Event :=
  match operation d.supply.stamp.1 d.store with
  | .ok c => eventsOf p.service correlation c.news d.supply.stamp.2
  | .error _ => []

variable {p : Participant σ} {correlation : String} {operation : Operation σ α} {d : Desk σ}
  {c : Commit σ α}

theorem batch_of_ok (hc : operation d.supply.stamp.1 d.store = .ok c) :
    p.batch correlation operation d =
      eventsOf p.service correlation c.news d.supply.stamp.2 := by
  unfold batch
  rw [hc]

/-- **The events of a batch carry the news of its operation**, in order. -/
theorem map_payload_batch (hc : operation d.supply.stamp.1 d.store = .ok c) :
    (p.batch correlation operation d).map Event.payload = c.news := by
  rw [batch_of_ok hc]
  exact map_payload_eventsOf p.service correlation c.news d.supply.stamp.2

theorem length_batch (hc : operation d.supply.stamp.1 d.store = .ok c) :
    (p.batch correlation operation d).length = c.news.length := by
  rw [← map_payload_batch hc, List.length_map]

/-- What goes out is what the bus takes of the batch. -/
theorem performed_of_ok (hc : operation d.supply.stamp.1 d.store = .ok c) :
    p.performed correlation operation d = Registry.standard.sent true
      (p.batch correlation operation d) (d.outlet.count c.counts) := by
  have made := events_fst p.service correlation c.news d.supply.stamp.2
  rw [batch_of_ok hc]
  unfold performed announced
  dsimp only
  rw [hc]
  dsimp only
  cases he : events p.service correlation c.news d.supply.stamp.2 with
  | mk x supply =>
    rw [he] at made
    cases made
    rfl

/-- **The first part of the batch goes out.** -/
theorem performed_isPrefix (p : Participant σ) (correlation : String)
    (operation : Operation σ α) (d : Desk σ) :
    p.performed correlation operation d <+: p.batch correlation operation d := by
  cases hc : operation d.supply.stamp.1 d.store with
  | error e =>
    have none : p.performed correlation operation d = [] := by
      unfold performed
      dsimp only
      rw [hc]
    rw [none]
    exact List.nil_prefix
  | ok c =>
    rw [performed_of_ok hc]
    exact Registry.sent_isPrefix _ _

theorem standard_of_mem_batch : ∀ e ∈ p.batch correlation operation d, e.IsStandard := by
  unfold batch
  split
  · exact standard_of_mem_eventsOf
  · exact fun _ he => nomatch he

/-- The log of the bus grows by what went out. -/
theorem log_perform (p : Participant σ) (correlation : String) (operation : Operation σ α)
    (d : Desk σ) :
    (p.perform correlation operation d).2.outlet.bus.log = d.outlet.bus.log ++
      (p.performed correlation operation d).map Event.post := by
  rw [perform_log, Event.filterMap_post? (performed_standard p correlation operation d)]

theorem log_handle (p : Participant σ) (g : Grants) (correlation : String) (payload : Payload)
    (d : Desk σ) :
    (p.handle g correlation payload d).2.outlet.bus.log = d.outlet.bus.log ++
      (p.handled correlation payload d).map Event.post := by
  rw [handle_log, Event.filterMap_post? (handled_standard p correlation payload d)]

/-- **All of the batch goes out** when the operation succeeds. -/
theorem performed_eq_batch {a : α} (h : (p.perform correlation operation d).1 = .ok a) :
    ∃ c, operation d.supply.stamp.1 d.store = .ok c ∧ a = c.answer ∧
      (p.perform correlation operation d).2.store = c.store ∧
      p.performed correlation operation d = p.batch correlation operation d := by
  have outcome := perform_outcome p correlation operation d
  rw [h] at outcome
  generalize hs : (p.perform correlation operation d).2.store = s at outcome ⊢
  generalize hn : (p.performed correlation operation d).map Event.payload = said at outcome
  cases outcome with
  | done c hc =>
    refine ⟨c, hc, rfl, rfl, (performed_isPrefix p correlation operation d).eq_of_length ?_⟩
    rw [length_batch hc, ← hn, List.length_map]

/-- Some of the batch does not go out when an operation that is committed fails. -/
theorem performed_ne_batch {e : ServiceError} (hc : operation d.supply.stamp.1 d.store = .ok c)
    (he : (p.perform correlation operation d).1 = .error e) :
    p.performed correlation operation d ≠ p.batch correlation operation d := by
  intro same
  have less := length_performed_lt p correlation operation d hc he
  rw [same, length_batch hc] at less
  exact Nat.lt_irrefl _ less

/-- An operation that is committed fails only if the bus does. -/
theorem error_of_committed {e : ServiceError}
    (hc : operation d.supply.stamp.1 d.store = .ok c)
    (he : (p.perform correlation operation d).1 = .error e) : ∃ b, e = .event (.bus b) := by
  have outcome := perform_outcome p correlation operation d
  rw [he] at outcome
  generalize (p.perform correlation operation d).2.store = s at outcome
  generalize (p.performed correlation operation d).map Event.payload = said at outcome
  cases outcome with
  | refused e h => cases hc.symm.trans h
  | cut c' h b said part => exact ⟨b, rfl⟩

/-- **An undisturbed operation succeeds if it commits.** -/
theorem perform_of_calm (p : Participant σ) (correlation : String) (calm : d.outlet.bus.IsCalm)
    (hc : operation d.supply.stamp.1 d.store = .ok c) :
    (p.perform correlation operation d).1 = .ok c.answer ∧
      (p.perform correlation operation d).2.store = c.store ∧
      p.performed correlation operation d = p.batch correlation operation d := by
  have all : p.performed correlation operation d = p.batch correlation operation d := by
    rw [performed_of_ok hc]
    have counted : (d.outlet.count c.counts).bus.IsCalm := calm
    apply Registry.sent_of_calm _ counted
    intro e he
    rw [show e.name = e.payload.topic.name from standard_of_mem_batch e he]
    exact ⟨_, Registry.subject_standard _⟩
  cases hx : (p.perform correlation operation d).1 with
  | error e => exact (performed_ne_batch hc hx all).elim
  | ok a =>
    obtain ⟨c', hc', rfl, store, _⟩ := performed_eq_batch hx
    rw [hc] at hc'
    cases hc'
    exact ⟨rfl, store, all⟩

/-- An operation that does not commit fails and leaves everything as it was. -/
theorem perform_of_error (p : Participant σ) (correlation : String) {e : ServiceError}
    (he : operation d.supply.stamp.1 d.store = .error e) :
    (p.perform correlation operation d).1 = .error e ∧
      (p.perform correlation operation d).2.store = d.store ∧
      p.performed correlation operation d = [] := by
  rw [perform_of_refused p correlation he]
  refine ⟨rfl, rfl, ?_⟩
  unfold performed
  dsimp only
  rw [he]

/-- What a batch says depends on the news only. -/
theorem map_restamp_batch (stamp : Stamp) {d' : Desk σ} {c' : Commit σ α}
    (hc : operation d.supply.stamp.1 d.store = .ok c)
    (hc' : operation d'.supply.stamp.1 d'.store = .ok c') (same : c'.news = c.news) :
    (p.batch correlation operation d').map (Event.restamp stamp) =
      (p.batch correlation operation d).map (Event.restamp stamp) := by
  rw [batch_of_ok hc, batch_of_ok hc', map_restamp_eventsOf, map_restamp_eventsOf, same]

end Participant

end Marketplace
