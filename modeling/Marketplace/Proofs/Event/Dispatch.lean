import Marketplace.Market.Basic
import Marketplace.Proofs.Batch
import Marketplace.Proofs.Event.Wire
import Marketplace.Proofs.Result

/-!
# Which messages reach a handler

A message passes four gates before it is handled: its octets read as an envelope, the handler takes
events of the name on the envelope, the payload reads under that name, and the handler takes the
payload. What passes them all is handled once, and what becomes of it is told by how the handler
fares; anything else is dropped. The gates of the five services are tables of their own, and they
line up: a service takes the payloads of those kinds of event that it subscribes to, and no others.
So an event that was made under a name that a service takes is handled there.

The calls of a handler are not part of what dispatching answers. They are noted in a list beside the
state of the handler, which changes nothing else.

## Results

* `Handler.calls_eq_singleton_iff`, `Handler.calls_eq_nil_iff`: which calls a message makes.
* `Handler.decides`: dispatching decides by the gates and by how the handler fares.
* `Market.accepts_handler_iff`: what the five services take.
* `dispatch_exact`: how any handler fares, and that events reach the services that take them.
-/

namespace Marketplace

variable {σ ε : Type}

namespace Handler

/-! ## Noting the calls -/

/-- One call of a handler, and how it ended. -/
structure Call (ε : Type) where
  correlation : String
  payload : Payload
  result : Except ε Unit

/-- The handler that notes how it is called beside its state. -/
def noting (h : Handler σ ε) : Handler (σ × List (Call ε)) ε where
  names := h.names
  accepts := h.accepts
  handle correlation payload s :=
    match h.handle correlation payload s.1 with
    | (result, state) => (result, state, s.2 ++ [⟨correlation, payload, result⟩])

variable {h : Handler σ ε} {octets : ByteArray} {s : σ}

/-! ## The gates -/

/-- A message passes the gates of a handler, with a payload and on behalf of a request. -/
def Admits (h : Handler σ ε) (octets : ByteArray) (correlation : String) (payload : Payload) :
    Prop :=
  ∃ letter, Sealed.ofOctets octets = .ok letter ∧ letter.header.name ∈ h.names ∧
    Payload.decode letter.header.name letter.payload = .ok payload ∧ h.accepts payload = true ∧
    letter.header.correlation = correlation

variable {e : Event} {correlation : String} {payload : Payload}

/-- What is read as an event for the handler passes the gates. -/
theorem admits_of_taken (taken : h.read octets = .taken e) :
    h.Admits octets e.header.correlation e.payload := by
  unfold read at taken
  split at taken
  case h_1 => cases taken
  rename_i letter opened
  split at taken
  case isFalse => cases taken
  rename_i named
  unfold Sealed.decode at taken
  cases decoded : Payload.decode letter.header.name letter.payload with
  | error err =>
    rw [decoded] at taken
    cases taken
  | ok payload =>
    rw [decoded] at taken
    dsimp only [Except.map] at taken
    split at taken
    case isFalse => cases taken
    rename_i accepted
    cases taken
    exact ⟨letter, opened, List.contains_iff_mem.1 named, decoded, accepted, rfl⟩

/-- What passes the gates is read as an event for the handler. -/
theorem Admits.taken (admitted : h.Admits octets correlation payload) :
    ∃ e, h.read octets = .taken e ∧ e.header.correlation = correlation ∧ e.payload = payload := by
  obtain ⟨letter, opened, named, decoded, accepted, asked⟩ := admitted
  refine ⟨⟨letter.header, payload⟩, ?_, asked, rfl⟩
  unfold read
  rw [opened]
  dsimp only
  rw [if_pos (List.contains_iff_mem.2 named)]
  unfold Sealed.decode
  rw [decoded]
  exact if_pos accepted

/-! ## What dispatching does -/

theorem read_noting : h.noting.read octets = h.read octets := rfl

variable [Retryable ε]

/-- The calls that a message makes. -/
def calls (h : Handler σ ε) (octets : ByteArray) (s : σ) : List (Call ε) :=
  (h.noting.dispatch octets (s, [])).state.2

theorem dispatch_of_taken (taken : h.read octets = .taken e) :
    h.dispatch octets s =
      let x := h.handle e.header.correlation e.payload s
      ⟨disposition x.1, .eventConsumed e.name (disposition x.1), x.2⟩ := by
  unfold dispatch
  rw [taken]

/-- A message that does not pass the gates is dropped and does nothing. -/
theorem dispatch_of_not_taken (untaken : ∀ e, h.read octets ≠ .taken e) :
    (h.dispatch octets s).disposition = .drop ∧ (h.dispatch octets s).state = s := by
  unfold dispatch
  cases read : h.read octets with
  | malformed => exact ⟨rfl, rfl⟩
  | foreign name => exact ⟨rfl, rfl⟩
  | taken e => exact (untaken e read).elim

theorem calls_of_taken (taken : h.read octets = .taken e) : h.calls octets s =
    [⟨e.header.correlation, e.payload, (h.handle e.header.correlation e.payload s).1⟩] := by
  unfold calls
  rw [dispatch_of_taken (read_noting.trans taken)]
  rfl

theorem calls_of_not_taken (untaken : ∀ e, h.read octets ≠ .taken e) : h.calls octets s = [] := by
  unfold calls
  rw [(dispatch_of_not_taken (h := h.noting) untaken).2]

/-- Noting the calls changes nothing else. -/
theorem dispatch_noting (past : List (Call ε)) : h.noting.dispatch octets (s, past) =
    ⟨(h.dispatch octets s).disposition, (h.dispatch octets s).counter,
      (h.dispatch octets s).state, past ++ h.calls octets s⟩ := by
  cases read : h.read octets with
  | malformed | foreign name =>
    have none : h.calls octets s = [] := calls_of_not_taken (by simp [read])
    unfold dispatch
    rw [read_noting, read, none, List.append_nil]
  | taken e =>
    rw [calls_of_taken read, dispatch_of_taken read, dispatch_of_taken (read_noting.trans read)]
    rfl

/-- **A message makes one call if it passes the gates**, on behalf of the request on its envelope
and with its payload. -/
theorem calls_eq_singleton_iff {call : Call ε} : h.calls octets s = [call] ↔
    h.Admits octets call.correlation call.payload ∧
      call.result = (h.handle call.correlation call.payload s).1 := by
  constructor
  · intro called
    cases read : h.read octets with
    | malformed | foreign name =>
      rw [calls_of_not_taken (by simp [read])] at called
      cases called
    | taken e =>
      rw [calls_of_taken read] at called
      cases called
      exact ⟨admits_of_taken read, rfl⟩
  · rintro ⟨admitted, result⟩
    obtain ⟨e, taken, asked, same⟩ := admitted.taken
    rw [calls_of_taken taken, asked, same, ← result]

/-- **A message makes no call if it does not pass the gates.** -/
theorem calls_eq_nil_iff : h.calls octets s = [] ↔
    ∀ correlation payload, ¬h.Admits octets correlation payload := by
  constructor
  · intro none correlation payload admitted
    obtain ⟨e, taken, _⟩ := admitted.taken
    rw [calls_of_taken taken] at none
    cases none
  · intro stopped
    exact calls_of_not_taken fun e taken => stopped _ _ (admits_of_taken taken)

/-- A handler is called as the gates say, and what becomes of a message is told by its calls. -/
structure Decides (h : Handler σ ε) (octets : ByteArray) (s : σ) : Prop where
  /-- It is called at most once. -/
  once : (h.calls octets s).length ≤ 1
  /-- It is called for what passes the gates. -/
  called : ∀ correlation payload, (∃ result, ⟨correlation, payload, result⟩ ∈ h.calls octets s) ↔
    h.Admits octets correlation payload
  /-- A call changes the state as the handler does, and ends as it does. -/
  handled : ∀ call ∈ h.calls octets s,
    h.handle call.correlation call.payload s = (call.result, (h.dispatch octets s).state)
  /-- Without a call, nothing changes. -/
  unhandled : h.calls octets s = [] → (h.dispatch octets s).state = s
  ack : (h.dispatch octets s).disposition = .ack ↔
    ∃ call ∈ h.calls octets s, call.result = .ok ()
  retry : (h.dispatch octets s).disposition = .retry ↔
    ∃ call ∈ h.calls octets s, ∃ e, call.result = .error e ∧ Retryable.isRetryable e = true
  drop : (h.dispatch octets s).disposition = .drop ↔
    ∀ call ∈ h.calls octets s, ∃ e, call.result = .error e ∧ Retryable.isRetryable e = false
  /-- Noting the calls changes nothing else. -/
  noted : ∀ past, h.noting.dispatch octets (s, past) =
    ⟨(h.dispatch octets s).disposition, (h.dispatch octets s).counter,
      (h.dispatch octets s).state, past ++ h.calls octets s⟩

/-- **Dispatching decides by the gates and by how the handler fares.** -/
theorem decides (h : Handler σ ε) (octets : ByteArray) (s : σ) : h.Decides octets s := by
  -- either all gates are passed and there is one call, or there is none
  rcases Classical.em (∃ e, h.read octets = .taken e) with ⟨e, taken⟩ | untaken
  · have one := calls_of_taken (s := s) taken
    have whole := dispatch_of_taken (s := s) taken
    constructor
    case once => exact Nat.le_of_eq (congrArg List.length one)
    case called =>
      intro correlation payload
      rw [one]
      constructor
      · rintro ⟨result, call⟩
        cases List.mem_singleton.1 call
        exact admits_of_taken taken
      · intro admitted
        obtain ⟨e', taken', rfl, rfl⟩ := admitted.taken
        cases taken.symm.trans taken'
        exact ⟨_, List.mem_singleton.2 rfl⟩
    case handled =>
      intro call made
      rw [one] at made
      cases List.mem_singleton.1 made
      rw [whole]
    case unhandled =>
      intro none
      cases one.symm.trans none
    case ack =>
      rw [one, whole]
      simp only [List.mem_singleton, exists_eq_left]
      exact disposition_eq_ack_iff
    case retry =>
      rw [one, whole]
      simp only [List.mem_singleton, exists_eq_left]
      exact disposition_eq_retry_iff
    case drop =>
      rw [one, whole]
      simp only [List.mem_singleton, forall_eq]
      exact disposition_eq_drop_iff
    case noted => exact dispatch_noting
  · have none := calls_of_not_taken (s := s) (not_exists.1 untaken)
    obtain ⟨dropped, same⟩ := dispatch_of_not_taken (s := s) (not_exists.1 untaken)
    constructor
    case once => simp [none]
    case called =>
      intro correlation payload
      have stopped := calls_eq_nil_iff.1 none correlation payload
      rw [none]
      exact iff_of_false (fun ⟨_, call⟩ => nomatch call) stopped
    case handled => simp [none]
    case unhandled => exact fun _ => same
    case ack => simp [none, dropped]
    case retry => simp [none, dropped]
    case drop => simp [none, dropped]
    case noted => exact dispatch_noting

/-- **An event reaches a handler** that takes its name and its payload. -/
theorem calls_octets (standard : e.IsStandard) (timely : e.IsTimely) (named : e.name ∈ h.names)
    (accepted : h.accepts e.payload = true) : h.calls e.octets s =
      [⟨e.header.correlation, e.payload, (h.handle e.header.correlation e.payload s).1⟩] :=
  calls_eq_singleton_iff.2
    ⟨⟨_, Event.ofOctets_octets timely, named, standard.decode, accepted, rfl⟩, rfl⟩

end Handler

/-! ## The five services -/

/-- A participant that takes the kinds of payload that it subscribes to takes them by name. -/
theorem Participant.accepts_iff {p : Participant σ} {payload : Payload}
    (aligned : p.accepts payload = true ↔ payload.topic ∈ p.topics) :
    p.accepts payload = true ↔ payload.topic.name ∈ p.names := by
  rw [aligned]
  unfold Participant.names
  rw [List.mem_map]
  constructor
  · exact fun listed => ⟨_, listed, rfl⟩
  · exact fun ⟨_, listed, same⟩ => Topic.name_injective same ▸ listed

namespace Market

/-- **The tables line up**: a service takes the payloads of the kinds of event that it subscribes
to, and no others. -/
theorem accepts_handler_iff (settings : MarketSettings) (v : Service) (payload : Payload) :
    (handler settings v).accepts payload = true ↔
      payload.topic.name ∈ (handler settings v).names := by
  cases v with
  | identity =>
    apply Participant.accepts_iff (p := Accounts.participant)
    cases payload <;> simp [Participant.accepts, Accounts.participant, Payload.topic]
  | authorization =>
    apply Participant.accepts_iff (p := Authorization.participant)
    cases payload <;> simp [Participant.accepts, Authorization.participant, Payload.topic]
  | inventory =>
    apply Participant.accepts_iff (p := Inventory.participant)
    cases payload <;> simp [Participant.accepts, Inventory.participant, Payload.topic]
  | orders =>
    apply Participant.accepts_iff (p := Orders.participant)
    cases payload <;> simp [Participant.accepts, Orders.participant, Payload.topic]
  | payments =>
    apply Participant.accepts_iff (p := Payments.participant settings.initialBalance)
    cases payload <;> simp [Participant.accepts, Payments.participant, Payload.topic]

/-- **An event reaches the services** that take its name. -/
theorem calls_handler {e : Event} (standard : e.IsStandard) (timely : e.IsTimely)
    (settings : MarketSettings) (v : Service) (named : e.name ∈ (handler settings v).names)
    (m : Market) : ∃ result, (handler settings v).calls e.octets m =
      [⟨e.header.correlation, e.payload, result⟩] := by
  have own : e.payload.topic.name ∈ (handler settings v).names := standard ▸ named
  exact ⟨_, Handler.calls_octets standard timely named ((accepts_handler_iff settings v _).2 own)⟩

end Market

/-- **Dispatching decides exactly.** A message that passes the gates of a handler is handled once,
any other is not; it is acknowledged if the handler succeeds, delivered again if the handler may do
better another time, and dropped otherwise. What can be made under a name that a service takes
passes the gates of this service with the same payload, and so does whatever a participant
publishes when it performs an operation. -/
theorem dispatch_exact :
    (∀ {σ ε : Type} [Retryable ε] (h : Handler σ ε) (octets : ByteArray) (s : σ),
      h.Decides octets s) ∧
    (∀ (settings : MarketSettings) (v : Service) (stamp : Stamp) (source correlation name : String)
      (payload : Payload) (e : Event),
      Registry.standard.create stamp source correlation name payload = .ok e → e.IsTimely →
      name ∈ (Market.handler settings v).names →
      ∀ m, ∃ result, (Market.handler settings v).calls e.octets m =
        [⟨correlation, payload, result⟩]) ∧
    ∀ {σ α : Type} (p : Participant σ) (correlation : String) (operation : Operation σ α)
      (d : Desk σ),
      (p.perform correlation operation d).2.outlet.bus.log = d.outlet.bus.log ++
        (p.performed correlation operation d).map Event.post ∧
      ∀ e ∈ p.performed correlation operation d, e.IsTimely →
        ∀ (settings : MarketSettings) (v : Service), e.name ∈ (Market.handler settings v).names →
        ∀ m, ∃ result, (Market.handler settings v).calls e.octets m =
          [⟨e.header.correlation, e.payload, result⟩] := by
  refine ⟨Handler.decides, ?_, fun p correlation operation d => ⟨?_, ?_⟩⟩
  · intro settings v stamp source correlation name payload e made timely named
    have standard := Registry.isStandard_of_create made
    obtain ⟨_, rfl⟩ := Registry.create_eq_ok_iff.1 made
    exact Market.calls_handler standard timely settings v named
  · exact Participant.log_perform p correlation operation d
  · intro e out timely settings v named
    have standard := Participant.performed_standard p correlation operation d e out
    exact Market.calls_handler standard timely settings v named

/-! ## News of the year 10000 -/

/-- News of an account, in the first second of the year 10000. -/
def sampleNews : Event :=
  ⟨⟨envelopeVersion, "a", (Instant.ofSeconds 253402300800).timestamp, "EventAccountCreated",
    .ofNat 1, "r"⟩, .accountCreated ⟨3⟩ .customer⟩

/-- A market in that second. -/
def sampleNewYear : Market :=
  .new ⟨60000, 0, .zero, true⟩ (.new Bus.standardSettings) ⟨.ofSeconds 253402300800, 0⟩

/-- The news reaches the service that opens wallets, and so does the news of an account that is
registered then. -/
theorem dispatch_exact_of_sampleNews :
    (∃ result, (Market.handler sampleNewYear.settings .payments).calls sampleNews.octets
      sampleNewYear = [⟨"r", .accountCreated ⟨3⟩ .customer, result⟩]) ∧
    ∃ e ∈ Accounts.participant.performed "r" (Accounts.create "ana" "ana@x" .seller)
        (sampleNewYear.desk .identity),
      ∃ result, (Market.handler sampleNewYear.settings .payments).calls e.octets sampleNewYear =
        [⟨e.header.correlation, e.payload, result⟩] := by
  have hears : "EventAccountCreated" ∈ (Market.handler sampleNewYear.settings .payments).names := by
    decide
  constructor
  · exact dispatch_exact.2.1 _ .payments ⟨.ofNat 1, .ofSeconds 253402300800⟩ "a" "r" _ _ sampleNews
      (Registry.create_standard _ _ _ (.accountCreated ⟨3⟩ .customer)) (by decide +kernel) hears _
  · have out : ∃ e ∈ Accounts.participant.performed "r" (Accounts.create "ana" "ana@x" .seller)
        (sampleNewYear.desk .identity), e.IsTimely ∧ e.name = "EventAccountCreated" := by
      decide +kernel
    obtain ⟨e, out, timely, named⟩ := out
    exact ⟨e, out, (dispatch_exact.2.2 _ _ _ _).2 e out timely _ .payments (named ▸ hears) _⟩

end Marketplace
