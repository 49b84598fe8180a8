import Marketplace.Market.Operation

/-!
# What comes of an operation

An operation commits first and announces afterwards, so it comes out in one of three ways: it is
refused and nothing happened; it commits and all of its news goes out; or it commits and the bus
takes only the first part of the news. Which events went out is read off the sending, and the log
of the bus grows by exactly those.

## Results

* `Registry.log_sendAll`: the log of the bus grows by the events that went out.
* `Participant.perform_outcome`: the three ways, with the store and the news of each.
* `Participant.handle_outcome`: the same for the reaction to an event.
-/

namespace Marketplace

/-! ## The standard registry -/

theorem Topic.name_injective {a b : Topic} (h : a.name = b.name) : a = b := by
  have : some a = some b := by rw [← Topic.ofName?_name a, h, Topic.ofName?_name b]
  cases this
  rfl

/-- The bus takes a message and logs it, or fails and logs nothing. -/
theorem Bus.publish_cases {b b' : Bus} {subject : String} {octets : ByteArray}
    {x : Except BusError Unit} (h : b.publish subject octets = (x, b')) :
    (x = .ok () ∧ b'.log = b.log ++ [(subject, octets)]) ∨
    ∃ err, x = .error err ∧ b'.log = b.log := by
  unfold publish at h
  split at h
  · cases h
    exact .inr ⟨_, rfl, rfl⟩
  · dsimp only at h
    split at h
    · cases h
      exact .inr ⟨_, rfl, rfl⟩
    · cases h
      exact .inl ⟨rfl, rfl⟩

namespace Registry

variable {r : Registry} {c : Bool} {e : Event} {o : Outlet}

/-- A kind of event is registered by a list that names it, or was before. -/
theorem get?_foldl_register (t : Topic) : ∀ (ts : List Topic) (r : Registry),
    t ∈ ts ∨ r.entries.get? t.name = some (ofTopic t) →
    (ts.foldl (fun r t => r.register t.name (ofTopic t)) r).entries.get? t.name =
      some (ofTopic t)
  | [], _, h => by
    rcases h with h | h
    · cases h
    · exact h
  | u :: ts, r, h => by
    apply get?_foldl_register t ts
    have own : t = u → ((r.register u.name (ofTopic u)).entries.get? t.name) =
        some (ofTopic t) := by
      rintro rfl
      exact (Table.get?_put _ _ _ _).trans (if_pos rfl)
    rcases h with h | h
    · rcases List.mem_cons.1 h with h | h
      · exact .inr (own h)
      · exact .inl h
    · by_cases he : t = u
      · exact .inr (own he)
      · right
        have hn : t.name ≠ u.name := fun hn => he (Topic.name_injective hn)
        exact (Table.get?_put _ _ _ _).trans ((if_neg hn).trans h)

theorem entry_standard (t : Topic) : standard.entry t.name = .ok (ofTopic t) := by
  have listed : t ∈ Topic.all := by cases t <;> decide
  have : standard.entries.get? t.name = some (ofTopic t) :=
    get?_foldl_register t Topic.all empty (.inl listed)
  unfold entry
  rw [this]

theorem subject_standard (t : Topic) : standard.subject t.name = .ok t.subject := by
  unfold subject
  rw [entry_standard]
  rfl

/-- An event under the name of its own payload can always be made. -/
theorem create_standard (stamp : Stamp) (source correlation : String) (payload : Payload) :
    standard.create stamp source correlation payload.topic.name payload =
      .ok ⟨⟨envelopeVersion, source, stamp.time.timestamp, payload.topic.name, stamp.id,
        correlation⟩, payload⟩ := by
  have own : (ofTopic payload.topic).accepts payload = true := decide_eq_true rfl
  unfold create
  rw [entry_standard]
  simp only [own, if_true]

/-! ## What goes out -/

/-- What the bus is given for an event, if its name has an address. -/
def post? (r : Registry) (e : Event) : Option (String × ByteArray) :=
  match r.subject e.name with
  | .ok subject => some (subject, e.octets)
  | .error _ => none

/-- The events that go out when some are sent in order. -/
def sent (r : Registry) (connected : Bool) : List Event → Outlet → List Event
  | [], _ => []
  | e :: es, o =>
    match r.send connected e o with
    | (.ok (), o) => e :: r.sent connected es o
    | (.error _, _) => []

/-- An event goes out to the address of its name, or the bus keeps its log. -/
theorem send_cases {x : Except EventError Unit} {o' : Outlet} (h : r.send c e o = (x, o')) :
    (x = .ok () ∧ ∃ a, r.post? e = some a ∧ o'.bus.log = o.bus.log ++ [a]) ∨
    ∃ err, x = .error err ∧ o'.bus.log = o.bus.log ∧
      (c = true → (∃ s, r.subject e.name = .ok s) → ∃ b, err = .bus b) := by
  unfold send at h
  split at h
  · rename_i hc
    cases h
    refine .inr ⟨_, rfl, rfl, fun h => ?_⟩
    rw [h] at hc
    cases hc
  · split at h
    · rename_i err hs
      cases h
      refine .inr ⟨_, rfl, rfl, ?_⟩
      rintro - ⟨s, hs'⟩
      rw [hs] at hs'
      cases hs'
    · rename_i s hs
      have post : r.post? e = some (s, e.octets) := by
        unfold post?
        rw [hs]
      split at h
      · rename_i bus hb
        cases h
        rcases Bus.publish_cases hb with ⟨_, log⟩ | ⟨_, hx, _⟩
        · exact .inl ⟨rfl, _, post, log⟩
        · cases hx
      · rename_i err bus hb
        cases h
        rcases Bus.publish_cases hb with ⟨hx, _⟩ | ⟨_, _, log⟩
        · cases hx
        · exact .inr ⟨_, rfl, log, fun _ _ => ⟨err, rfl⟩⟩

/-- What goes out is the first part of what is to be sent. -/
theorem sent_isPrefix : ∀ (es : List Event) (o : Outlet), r.sent c es o <+: es
  | [], _ => List.prefix_rfl
  | e :: es, o => by
    unfold sent
    split
    · rename_i o' _
      exact (List.prefix_cons_inj e).2 (sent_isPrefix es o')
    · exact List.nil_prefix

/-- **The log of the bus grows by the events that went out.** -/
theorem log_sendAll : ∀ (es : List Event) (o : Outlet),
    (r.sendAll c es o).2.bus.log = o.bus.log ++ (r.sent c es o).filterMap r.post?
  | [], o => (List.append_nil _).symm
  | e :: es, o => by
    unfold sendAll sent
    cases hs : r.send c e o with
    | mk x o' =>
      rcases send_cases hs with ⟨rfl, a, ha, log⟩ | ⟨_, rfl, log, _⟩
      · show (r.sendAll c es o').2.bus.log = o.bus.log ++ (e :: r.sent c es o').filterMap r.post?
        rw [log_sendAll es o', log, List.filterMap_cons_some ha, List.append_assoc]
        rfl
      · exact log.trans (List.append_nil _).symm

/-- All goes out, or the bus did not take one of the events. -/
theorem sendAll_cases : ∀ (es : List Event) (o : Outlet),
    (∀ e ∈ es, ∃ s, r.subject e.name = .ok s) →
    ((r.sendAll true es o).1 = .ok () ∧ r.sent true es o = es) ∨
    ∃ b, (r.sendAll true es o).1 = .error (.bus b)
  | [], _, _ => .inl ⟨rfl, rfl⟩
  | e :: es, o, h => by
    unfold sendAll sent
    cases hs : r.send true e o with
    | mk x o' =>
      rcases send_cases hs with ⟨rfl, _⟩ | ⟨_, rfl, _, bus⟩
      · have rest := sendAll_cases es o' fun e he => h e (List.mem_cons_of_mem _ he)
        rcases rest with ⟨hr, hes⟩ | hb
        · exact .inl ⟨hr, congrArg (e :: ·) hes⟩
        · exact .inr hb
      · obtain ⟨b, rfl⟩ := bus rfl (h e List.mem_cons_self)
        exact .inr ⟨b, rfl⟩

/-- When an event cannot be sent, it does not go out. -/
theorem length_sent_lt {err : EventError} : ∀ (es : List Event) (o : Outlet),
    (r.sendAll c es o).1 = .error err → (r.sent c es o).length < es.length
  | [], _, h => nomatch h
  | e :: es, o, h => by
    unfold sendAll at h
    unfold sent
    cases hs : r.send c e o with
    | mk x o' =>
      rw [hs] at h
      cases x with
      | ok u => exact Nat.succ_lt_succ (length_sent_lt es o' h)
      | error err => exact Nat.zero_lt_succ es.length

end Registry

/-! ## Announcing -/

/-- The event carries a payload of the kind that its name says. -/
def Event.IsStandard (e : Event) : Prop := e.name = e.payload.topic.name

/-- How an operation on a store can come out: what is answered, the store afterwards, and the news
that went out. -/
inductive Outcome {σ α : Type} (result : Except ServiceError (Commit σ α)) (store : σ) :
    Except ServiceError α → σ → List Payload → Prop
  /-- It was refused, and nothing happened. -/
  | refused (e : ServiceError) (h : result = .error e) : Outcome result store (.error e) store []
  /-- It was committed and announced. -/
  | done (c : Commit σ α) (h : result = .ok c) : Outcome result store (.ok c.answer) c.store c.news
  /-- It was committed, and only the first part of its news went out. -/
  | cut (c : Commit σ α) (h : result = .ok c) (b : BusError) (said : List Payload)
      (part : said <+: c.news) : Outcome result store (.error (.event (.bus b))) c.store said

/-- The store is as it was, or as the committed operation left it. -/
theorem Outcome.store_cases {σ α : Type} {result : Except ServiceError (Commit σ α)}
    {store s : σ} {x : Except ServiceError α} {said : List Payload}
    (h : Outcome result store x s said) : s = store ∨ ∃ c, result = .ok c ∧ s = c.store := by
  cases h with
  | refused e h => exact .inl rfl
  | done c h => exact .inr ⟨c, h, rfl⟩
  | cut c h b said part => exact .inr ⟨c, h, rfl⟩

/-- What holds of the store before, and of every commit with its news, holds of the outcome. -/
theorem Outcome.elim {σ α : Type} {result : Except ServiceError (Commit σ α)} {store s : σ}
    {x : Except ServiceError α} {said : List Payload} {P : σ → Prop} {Q : σ → Payload → Prop}
    (h : Outcome result store x s said) (same : P store)
    (commit : ∀ c, result = .ok c → P c.store ∧ ∀ q ∈ c.news, Q c.store q) :
    P s ∧ ∀ q ∈ said, Q s q := by
  cases h with
  | refused e h => exact ⟨same, fun _ hq => nomatch hq⟩
  | done c h => exact commit c h
  | cut c h b said part =>
    exact ⟨(commit c h).1, fun q hq => (commit c h).2 q (part.subset hq)⟩

/-- An operation that succeeds is committed, announced or not. -/
theorem Outcome.eq_commit {σ α : Type} {result : Except ServiceError (Commit σ α)} {store s : σ}
    {x : Except ServiceError α} {said : List Payload} (h : Outcome result store x s said)
    {c : Commit σ α} (hc : result = .ok c) : s = c.store := by
  cases h with
  | refused e h => cases h.symm.trans hc
  | done c' h =>
    cases h.symm.trans hc
    rfl
  | cut c' h b said part =>
    cases h.symm.trans hc
    rfl

/-- An operation that cannot succeed fails, and the store is as it was. -/
theorem Outcome.eq_error {σ α : Type} {result : Except ServiceError (Commit σ α)} {store s : σ}
    {x : Except ServiceError α} {said : List Payload} (h : Outcome result store x s said)
    (never : ∀ c, result ≠ .ok c) : (∃ e, x = .error e) ∧ s = store := by
  cases h with
  | refused e h => exact ⟨⟨e, rfl⟩, rfl⟩
  | done c h => exact (never c h).elim
  | cut c h b said part => exact (never c h).elim

namespace Participant

variable {σ α : Type}

/-- The events that go out when some news is announced. -/
def announced (p : Participant σ) (correlation : String) (news : List Payload) (d : Desk σ) :
    List Event :=
  match events p.service correlation news d.supply with
  | (.error _, _) => []
  | (.ok batch, _) => Registry.standard.sent true batch d.outlet

/-- The events that go out when an operation is performed. -/
def performed (p : Participant σ) (correlation : String) (operation : Operation σ α)
    (d : Desk σ) : List Event :=
  let (stamp, supply) := d.supply.stamp
  match operation stamp d.store with
  | .error _ => []
  | .ok c =>
    p.announced correlation c.news
      { d with store := c.store, outlet := d.outlet.count c.counts, supply := supply }

/-- The events that go out when an operation is performed for a caller. -/
def performedFor (p : Participant σ) (g : Grants) (caller : Claims) (needed : List Permission)
    (correlation : String) (operation : Operation σ α) (d : Desk σ) : List Event :=
  match p.consult g (fun store s => store.authorizeAll caller needed s) d with
  | (.error _, _) => []
  | (.ok (), d) => p.performed correlation operation d

/-- The events that go out when an event is handled. -/
def handled (p : Participant σ) (correlation : String) (payload : Payload) (d : Desk σ) :
    List Event :=
  match p.react payload with
  | some (.perform operation) => p.performed correlation operation d
  | _ => []

/-- News can always be made into events, one for each piece, in order. -/
theorem events_eq (v : Service) (correlation : String) : ∀ (news : List Payload) (supply : Supply),
    ∃ batch, (events v correlation news supply).1 = .ok batch ∧
      batch.map Event.payload = news ∧ ∀ e ∈ batch, e.IsStandard
  | [], _ => ⟨[], rfl, rfl, fun _ he => nomatch he⟩
  | payload :: news, supply => by
    obtain ⟨batch, hb, hm, hn⟩ := events_eq v correlation news supply.stamp.2
    unfold events
    simp only [Registry.create_standard]
    cases he : events v correlation news supply.stamp.2 with
    | mk r rest =>
      rw [he] at hb
      cases hb
      refine ⟨_, rfl, ?_, ?_⟩
      · rw [List.map_cons, hm]
      · intro e hmem
        rcases List.mem_cons.1 hmem with rfl | hmem
        · rfl
        · exact hn e hmem

/-- What is announced goes out in order, all of it unless the bus fails. -/
theorem announce_cases (p : Participant σ) (correlation : String) (news : List Payload)
    (d : Desk σ) :
    (p.announce correlation news d).2.store = d.store ∧
    (p.announce correlation news d).2.outlet.bus.log = d.outlet.bus.log ++
      (p.announced correlation news d).filterMap Registry.standard.post? ∧
    (p.announced correlation news d).map Event.payload <+: news ∧
    (∀ e ∈ p.announced correlation news d, e.IsStandard) ∧
    (((p.announce correlation news d).1 = .ok () ∧
        (p.announced correlation news d).map Event.payload = news) ∨
      ∃ b, (p.announce correlation news d).1 = .error (.event (.bus b))) := by
  obtain ⟨batch, hb, hm, hn⟩ := events_eq p.service correlation news d.supply
  unfold announce announced
  cases he : events p.service correlation news d.supply with
  | mk r supply =>
    rw [he] at hb
    cases hb
    have named : ∀ e ∈ batch, ∃ s, Registry.standard.subject e.name = .ok s := by
      intro e hmem
      rw [hn e hmem]
      exact ⟨_, Registry.subject_standard _⟩
    have part := Registry.sent_isPrefix (r := .standard) (c := true) batch d.outlet
    have log := Registry.log_sendAll (r := .standard) (c := true) batch d.outlet
    have way := Registry.sendAll_cases batch d.outlet named
    simp only
    cases hs : Registry.standard.sendAll true batch d.outlet with
    | mk x outlet =>
      rw [hs] at log way
      refine ⟨?_, ?_, hm ▸ part.map _, fun e hmem => hn e (part.subset hmem), ?_⟩
      · cases x <;> rfl
      · cases x <;> exact log
      · rcases way with ⟨hx, hall⟩ | ⟨b, hx⟩
        · cases hx
          exact .inl ⟨rfl, by rw [hall, hm]⟩
        · cases hx
          exact .inr ⟨b, rfl⟩

/-! ## Performing and handling -/

/-- An operation that is refused leaves the desk as it was, but for a stamp that is used up. -/
theorem perform_of_refused (p : Participant σ) (correlation : String) {operation : Operation σ α}
    {d : Desk σ} {e : ServiceError} (he : operation d.supply.stamp.1 d.store = .error e) :
    p.perform correlation operation d = (.error e, { d with supply := d.supply.stamp.2 }) := by
  unfold perform
  dsimp only
  rw [he]

/-- **An operation is refused, or committed and announced, or committed and announced in part.** -/
theorem perform_outcome (p : Participant σ) (correlation : String) (operation : Operation σ α)
    (d : Desk σ) :
    Outcome (operation d.supply.stamp.1 d.store) d.store (p.perform correlation operation d).1
      (p.perform correlation operation d).2.store
      ((p.performed correlation operation d).map Event.payload) := by
  unfold perform performed
  dsimp only
  cases hc : operation d.supply.stamp.1 d.store with
  | error e => exact .refused e rfl
  | ok c =>
    obtain ⟨store, _, part, _, way⟩ := announce_cases p correlation c.news
      { d with store := c.store, outlet := d.outlet.count c.counts, supply := d.supply.stamp.2 }
    dsimp only
    split
    · rename_i d' ha
      rw [ha] at store way
      rcases way with ⟨_, all⟩ | ⟨_, hx⟩
      · rw [all, store]
        exact .done c rfl
      · cases hx
    · rename_i e d' ha
      rw [ha] at store way
      rcases way with ⟨hx, _⟩ | ⟨b, hx⟩
      · cases hx
      · cases hx
        rw [store]
        exact .cut c rfl b _ part

/-- When a committed operation fails, some of its news did not go out. -/
theorem length_performed_lt (p : Participant σ) (correlation : String)
    (operation : Operation σ α) (d : Desk σ) {c : Commit σ α} {e : ServiceError}
    (hc : operation d.supply.stamp.1 d.store = .ok c)
    (he : (p.perform correlation operation d).1 = .error e) :
    (p.performed correlation operation d).length < c.news.length := by
  unfold perform at he
  unfold performed
  dsimp only at he ⊢
  rw [hc] at he ⊢
  dsimp only at he ⊢
  unfold announce at he
  unfold announced
  obtain ⟨batch, hb, hm, _⟩ := events_eq p.service correlation c.news d.supply.stamp.2
  have length : batch.length = c.news.length := by rw [← hm, List.length_map]
  cases hs : events p.service correlation c.news d.supply.stamp.2 with
  | mk x supply =>
    rw [hs] at hb
    cases hb
    rw [hs] at he
    dsimp only at he ⊢
    rw [← length]
    cases ha : Registry.standard.sendAll true batch (d.outlet.count c.counts) with
    | mk y outlet =>
      rw [ha] at he
      cases y with
      | ok u => cases he
      | error err => exact Registry.length_sent_lt batch _ (congrArg Prod.fst ha)

theorem perform_log (p : Participant σ) (correlation : String) (operation : Operation σ α)
    (d : Desk σ) :
    (p.perform correlation operation d).2.outlet.bus.log = d.outlet.bus.log ++
      (p.performed correlation operation d).filterMap Registry.standard.post? := by
  unfold perform performed
  dsimp only
  cases hc : operation d.supply.stamp.1 d.store with
  | error e => exact (List.append_nil _).symm
  | ok c =>
    obtain ⟨_, log, _⟩ := announce_cases p correlation c.news
      { d with store := c.store, outlet := d.outlet.count c.counts, supply := d.supply.stamp.2 }
    dsimp only
    split
    · rename_i d' ha
      rw [ha] at log
      exact log
    · rename_i e d' ha
      rw [ha] at log
      exact log

theorem announce_cache (p : Participant σ) (correlation : String) (news : List Payload)
    (d : Desk σ) : (p.announce correlation news d).2.cache = d.cache := by
  unfold announce
  split
  · rfl
  · split <;> rfl

/-- An operation does not touch the cache. -/
theorem perform_cache (p : Participant σ) (correlation : String) (operation : Operation σ α)
    (d : Desk σ) : (p.perform correlation operation d).2.cache = d.cache := by
  unfold perform
  dsimp only
  split
  · rfl
  · rename_i c _
    have same := announce_cache p correlation c.news
      { d with store := c.store, outlet := d.outlet.count c.counts, supply := d.supply.stamp.2 }
    split
    · rename_i ha
      rw [ha] at same
      exact same
    · rename_i ha
      rw [ha] at same
      exact same

theorem performed_standard (p : Participant σ) (correlation : String)
    (operation : Operation σ α) (d : Desk σ) :
    ∀ e ∈ p.performed correlation operation d, e.IsStandard := by
  unfold performed
  dsimp only
  cases hc : operation d.supply.stamp.1 d.store with
  | error e => exact fun _ he => nomatch he
  | ok c => exact (announce_cases p correlation c.news _).2.2.2.1

/-- Asking the cache leaves the store, the supply and the log of the bus. -/
theorem consult_cases {β : Type} (p : Participant σ) (g : Grants)
    (ask : GrantStore CountedCache → CountedCache → β × CountedCache) (d : Desk σ) :
    (p.consult g ask d).2.store = d.store ∧ (p.consult g ask d).2.supply = d.supply ∧
      (p.consult g ask d).2.outlet.bus.log = d.outlet.bus.log :=
  ⟨rfl, rfl, rfl⟩

/-- A listing leaves the store as it is, and publishes nothing. -/
theorem filterFor_cases (p : Participant σ) (g : Grants) (caller : Claims) (resourceType : String)
    (d : Desk σ) : (p.filterFor g caller resourceType d).2.store = d.store ∧
      (p.filterFor g caller resourceType d).2.outlet.bus.log = d.outlet.bus.log := by
  obtain ⟨store, _, log⟩ :=
    consult_cases p g (fun store s => store.resourceFilter caller resourceType s) d
  unfold filterFor
  cases hc : p.consult g (fun store s => store.resourceFilter caller resourceType s) d with
  | mk x d' =>
    rw [hc] at store log
    cases x with
    | error e => exact ⟨store, log⟩
    | ok f => exact ⟨store, log⟩

/-- The caller lacks a grant and nothing happened, or the operation is performed at a desk with the
same store, supply and log. -/
theorem performFor_cases (p : Participant σ) (g : Grants) (caller : Claims)
    (needed : List Permission) (correlation : String) (operation : Operation σ α) (d : Desk σ) :
    ((∃ e, (p.performFor g caller needed correlation operation d).1 = .error (.policy e)) ∧
      (p.performFor g caller needed correlation operation d).2.store = d.store ∧
      (p.performFor g caller needed correlation operation d).2.outlet.bus.log =
        d.outlet.bus.log ∧
      p.performedFor g caller needed correlation operation d = []) ∨
    ∃ d' : Desk σ, d'.store = d.store ∧ d'.supply = d.supply ∧
      d'.outlet.bus.log = d.outlet.bus.log ∧
      p.performFor g caller needed correlation operation d = p.perform correlation operation d' ∧
      p.performedFor g caller needed correlation operation d =
        p.performed correlation operation d' := by
  obtain ⟨store, supply, log⟩ :=
    consult_cases p g (fun store s => store.authorizeAll caller needed s) d
  unfold performFor performedFor
  cases hc : p.consult g (fun store s => store.authorizeAll caller needed s) d with
  | mk x d' =>
    rw [hc] at store supply log
    cases x with
    | error e => exact .inl ⟨⟨e, rfl⟩, store, log, rfl⟩
    | ok u => exact .inr ⟨d', store, supply, log, rfl, rfl⟩

/-- A call that is not refused for lack of a grant comes out as its operation does. -/
theorem performFor_outcome (p : Participant σ) (g : Grants) (caller : Claims)
    (needed : List Permission) (correlation : String) (operation : Operation σ α) (d : Desk σ) :
    ((∃ e, (p.performFor g caller needed correlation operation d).1 = .error (.policy e)) ∧
      (p.performFor g caller needed correlation operation d).2.store = d.store ∧
      p.performedFor g caller needed correlation operation d = []) ∨
    Outcome (operation d.supply.stamp.1 d.store) d.store
      (p.performFor g caller needed correlation operation d).1
      (p.performFor g caller needed correlation operation d).2.store
      ((p.performedFor g caller needed correlation operation d).map Event.payload) := by
  rcases performFor_cases p g caller needed correlation operation d with
    ⟨he, hs, _, hn⟩ | ⟨d', store, supply, _, hp, hn⟩
  · exact .inl ⟨he, hs, hn⟩
  · right
    rw [hp, hn, ← store, ← supply]
    exact perform_outcome p correlation operation d'

/-- What holds of the store before, and of every commit with its news, holds after a call. -/
theorem performFor_elim {P : σ → Prop} {Q : σ → Payload → Prop} (p : Participant σ) (g : Grants)
    (caller : Claims) (needed : List Permission) (correlation : String)
    (operation : Operation σ α) (d : Desk σ) (same : P d.store)
    (commit : ∀ stamp c, operation stamp d.store = .ok c →
      P c.store ∧ ∀ q ∈ c.news, Q c.store q) :
    P (p.performFor g caller needed correlation operation d).2.store ∧
      ∀ q ∈ (p.performedFor g caller needed correlation operation d).map Event.payload,
        Q (p.performFor g caller needed correlation operation d).2.store q := by
  rcases performFor_outcome p g caller needed correlation operation d with ⟨_, hs, hn⟩ | out
  · rw [hs, hn]
    exact ⟨same, fun _ hq => nomatch hq⟩
  · exact out.elim same (commit _)

theorem performFor_log (p : Participant σ) (g : Grants) (caller : Claims)
    (needed : List Permission) (correlation : String) (operation : Operation σ α) (d : Desk σ) :
    (p.performFor g caller needed correlation operation d).2.outlet.bus.log =
      d.outlet.bus.log ++ (p.performedFor g caller needed correlation operation d).filterMap
        Registry.standard.post? := by
  rcases performFor_cases p g caller needed correlation operation d with
    ⟨_, _, log, hn⟩ | ⟨d', _, _, log, hp, hn⟩
  · rw [log, hn]
    exact (List.append_nil _).symm
  · rw [hp, hn, ← log]
    exact perform_log p correlation operation d'

theorem performedFor_standard (p : Participant σ) (g : Grants) (caller : Claims)
    (needed : List Permission) (correlation : String) (operation : Operation σ α) (d : Desk σ) :
    ∀ e ∈ p.performedFor g caller needed correlation operation d, e.IsStandard := by
  rcases performFor_cases p g caller needed correlation operation d with
    ⟨_, _, _, hn⟩ | ⟨d', _, _, _, _, hn⟩
  · rw [hn]
    exact fun _ he => nomatch he
  · rw [hn]
    exact performed_standard p correlation operation d'

/-- A change of a grant concerns the cache only. -/
theorem patch_cases (p : Participant σ) (g : Grants) (method : PolicyMethod) (target : Grant)
    (d : Desk σ) :
    (p.patch g method target d).2.store = d.store ∧
      (p.patch g method target d).2.outlet = d.outlet := by
  unfold patch
  split
  · exact ⟨rfl, rfl⟩
  · split <;> exact ⟨rfl, rfl⟩

/-- The cache takes the change up, or has no use for it. -/
theorem patch_cache (p : Participant σ) (g : Grants) (method : PolicyMethod) (target : Grant)
    (d : Desk σ) :
    (∃ c, d.cache.update (p.cacheSettings g) d.outlet.bus.now method target = .ok c ∧
      (p.patch g method target d).2.cache = c) ∨
    (∃ e, d.cache.update (p.cacheSettings g) d.outlet.bus.now method target = .error e ∧
      (p.patch g method target d).2.cache = d.cache) := by
  unfold patch
  cases d.cache.update (p.cacheSettings g) d.outlet.bus.now method target with
  | ok c => exact .inl ⟨c, rfl, rfl⟩
  | error e =>
    refine .inr ⟨e, rfl, ?_⟩
    dsimp only
    split <;> rfl

/-- **An event leaves the store alone, or comes out as the operation that it asks for.** -/
theorem handle_outcome (p : Participant σ) (g : Grants) (correlation : String)
    (payload : Payload) (d : Desk σ) :
    ((∀ operation, p.react payload ≠ some (.perform operation)) ∧
      (p.handle g correlation payload d).2.store = d.store ∧
      p.handled correlation payload d = []) ∨
    ∃ operation, p.react payload = some (.perform operation) ∧
      Outcome (operation d.supply.stamp.1 d.store) d.store (p.handle g correlation payload d).1
        (p.handle g correlation payload d).2.store
        ((p.handled correlation payload d).map Event.payload) := by
  unfold handle handled
  cases hr : p.react payload with
  | none => exact .inl ⟨fun _ h => (nomatch h), rfl, rfl⟩
  | some reaction =>
    cases reaction with
    | patch method target =>
      exact .inl ⟨fun _ h => (nomatch h), (patch_cases p g method target d).1, rfl⟩
    | perform operation => exact .inr ⟨operation, rfl, perform_outcome p correlation operation d⟩

/-- What holds of the store before, and of every commit with its news, holds after an event. -/
theorem handle_elim {P : σ → Prop} {Q : σ → Payload → Prop} (p : Participant σ) (g : Grants)
    (correlation : String) (payload : Payload) (d : Desk σ) (same : P d.store)
    (commit : ∀ operation stamp c, p.react payload = some (.perform operation) →
      operation stamp d.store = .ok c → P c.store ∧ ∀ q ∈ c.news, Q c.store q) :
    P (p.handle g correlation payload d).2.store ∧
      ∀ q ∈ (p.handled correlation payload d).map Event.payload,
        Q (p.handle g correlation payload d).2.store q := by
  rcases handle_outcome p g correlation payload d with ⟨_, hs, hn⟩ | ⟨operation, hr, out⟩
  · rw [hs, hn]
    exact ⟨same, fun _ hq => nomatch hq⟩
  · exact out.elim same fun c hc => commit operation _ c hr hc

/-- An event that asks for an operation that succeeds has it committed. -/
theorem handle_eq_commit (p : Participant σ) (g : Grants) (correlation : String)
    {payload : Payload} {d : Desk σ} {operation : Operation σ Unit} {c : Commit σ Unit}
    (hr : p.react payload = some (.perform operation))
    (hc : operation d.supply.stamp.1 d.store = .ok c) :
    (p.handle g correlation payload d).2.store = c.store := by
  rcases p.handle_outcome g correlation payload d with ⟨none, _⟩ | ⟨operation', hr', outcome⟩
  · exact (none _ hr).elim
  · cases hr.symm.trans hr'
    exact outcome.eq_commit hc

theorem handle_log (p : Participant σ) (g : Grants) (correlation : String) (payload : Payload)
    (d : Desk σ) :
    (p.handle g correlation payload d).2.outlet.bus.log = d.outlet.bus.log ++
      (p.handled correlation payload d).filterMap Registry.standard.post? := by
  unfold handle handled
  cases hr : p.react payload with
  | none => exact (List.append_nil _).symm
  | some reaction =>
    cases reaction with
    | patch method target =>
      dsimp only
      rw [(patch_cases p g method target d).2]
      exact (List.append_nil _).symm
    | perform operation => exact perform_log p correlation operation d

theorem handled_standard (p : Participant σ) (correlation : String) (payload : Payload)
    (d : Desk σ) : ∀ e ∈ p.handled correlation payload d, e.IsStandard := by
  unfold handled
  split
  · exact performed_standard p correlation _ d
  · exact fun _ he => nomatch he

end Participant

end Marketplace
