import Marketplace.Event.Registry
import Marketplace.Proofs.Announcement
import Marketplace.Proofs.Json.Structure

/-!
# Events read back off the wire

What an event says is told by three tables: how each payload is written, how it is read by the name
on the envelope, and which payloads a name may carry. They agree. So whatever can be made under a
registered name arrives as it was sent, envelope included; and whatever arrives could have been made
under its name and may be sent on.

## Results

* `Payload.reads`: a payload reads back under its own kind.
* `topic_of_readPayload`: what is read under a kind is a payload of that kind.
* `Event.arrives`: an event under the name of its payload arrives as it is.
* `events_read_back`: what can be made arrives, and what arrives can be made and arrives again.
-/

namespace Marketplace

open Json

/-! ## Payloads -/

theorem PaymentStatus.reads (s : PaymentStatus) : Reads PaymentStatus.read s.toJson s :=
  reads_name (ofName?_name s)

namespace Grant

variable {shape : List Field}

/-- The fields of a grant fit a structure that has them among its own. -/
theorem fits (g : Grant) (own : ∀ s ∈ Grant.shape,
    shape.find? (fun f => f.name == s.name) = some s) : ∀ f ∈ g.fieldsJson, Fits shape f := by
  have text (name s : String) (h : field name readText ∈ Grant.shape) :
      Fits shape (name, .text s) := (reads_text s).fits (own _ h)
  simp only [fieldsJson, List.forall_mem_cons]
  exact ⟨text _ _ (by simp [Grant.shape]), text _ _ (by simp [Grant.shape]),
    text _ _ (by simp [Grant.shape]), text _ _ (by simp [Grant.shape]), fun _ h => nomatch h⟩

theorem fits_self (g : Grant) : ∀ f ∈ g.fieldsJson, Fits Grant.shape f := by
  apply g.fits
  simp only [Grant.shape, List.forall_mem_cons]
  exact ⟨rfl, rfl, rfl, rfl, fun _ h => nomatch h⟩

theorem ofFields_of_mem (g : Grant) {seen : List (String × Json)}
    (h : ∀ f ∈ g.fieldsJson, field? f.1 seen = some f.2) : ofFields seen = .ok g := by
  simp only [fieldsJson, List.forall_mem_cons] at h
  obtain ⟨subject, resourceType, resourceId, action, -⟩ := h
  exact (reads_text _).andThen subject <| (reads_text _).andThen resourceType <|
    (reads_text _).andThen resourceId <| (reads_text _).andThen action rfl

theorem field?_fieldsJson (g : Grant) : ∀ f ∈ g.fieldsJson, field? f.1 g.fieldsJson = some f.2 := by
  simp only [fieldsJson, List.forall_mem_cons]
  exact ⟨rfl, rfl, rfl, rfl, fun _ h => nomatch h⟩

theorem nodup_fieldsJson (g : Grant) : (g.fieldsJson.map Prod.fst).Nodup := by
  simp [fieldsJson]

theorem reads (g : Grant) : Reads read g.toJson g :=
  reads_record g.fits_self g.nodup_fieldsJson (g.ofFields_of_mem g.field?_fieldsJson)

end Grant

namespace Payload

/-- **A payload reads back under its own kind.** -/
theorem reads (p : Payload) : Reads p.topic.readPayload p.toJson p := by
  cases p with
  | accountCreated account role =>
    have fits : ∀ f ∈ [("accnt_id", account.toJson), ("role", role.toJson)],
        Fits [field "accnt_id" AccountId.read, field "role" Role.read] f := by
      simp only [List.forall_mem_cons]
      exact ⟨account.reads.fits rfl, role.reads.fits rfl, fun _ h => nomatch h⟩
    exact reads_record fits (by simp) <| account.reads.andThen rfl <| role.reads.andThen rfl rfl
  | accountDeleted account =>
    have fits : ∀ f ∈ [("accnt_id", account.toJson)],
        Fits [field "accnt_id" AccountId.read] f := by
      simp only [List.forall_mem_cons]
      exact ⟨account.reads.fits rfl, fun _ h => nomatch h⟩
    exact reads_record fits (by simp) <| account.reads.andThen rfl rfl
  | upsertPolicy target => exact ⟨target.reads.data, bind_eq_ok.2 ⟨_, target.reads.read, rfl⟩⟩
  | removePolicy target => exact ⟨target.reads.data, bind_eq_ok.2 ⟨_, target.reads.read, rfl⟩⟩
  | policyUpdated method target =>
    -- The fields of the grant stand beside the method, in one object.
    have fits : ∀ f ∈ ("method", method.toJson) :: target.fieldsJson,
        Fits (field "method" PolicyMethod.read :: Grant.shape) f := by
      refine List.forall_mem_cons.2 ⟨method.reads.fits rfl, target.fits ?_⟩
      simp only [Grant.shape, List.forall_mem_cons]
      exact ⟨rfl, rfl, rfl, rfl, fun _ h => nomatch h⟩
    have found : ∀ f ∈ target.fieldsJson,
        field? f.1 (("method", method.toJson) :: target.fieldsJson) = some f.2 := by
      simp only [Grant.fieldsJson, List.forall_mem_cons]
      exact ⟨rfl, rfl, rfl, rfl, fun _ h => nomatch h⟩
    have seen := readFields_record fits (by simp [Grant.fieldsJson])
    exact ⟨data_record fits, bind_eq_ok.2 ⟨_, seen,
      method.reads.andThen rfl <| bind_eq_ok.2 ⟨_, target.ofFields_of_mem found, rfl⟩⟩⟩
  | orderCreated o =>
    have fits : ∀ f ∈ [("order_id", o.order.toJson), ("order_status", .text o.status),
        ("account_id", o.account.toJson), ("product_id", o.product.toJson),
        ("quantity", .ofNat o.quantity.toNat)],
        Fits [field "order_id" (Id.read : Reader OrderId), field "order_status" readText,
          field "account_id" AccountId.read, field "product_id" (Id.read : Reader ProductId),
          field "quantity" readUInt32] f := by
      simp only [List.forall_mem_cons]
      exact ⟨o.order.reads.fits rfl, (reads_text _).fits rfl, o.account.reads.fits rfl,
        o.product.reads.fits rfl, (reads_uInt32 _).fits rfl, fun _ h => nomatch h⟩
    exact reads_record fits (by simp) <| o.order.reads.andThen rfl <| (reads_text _).andThen rfl <|
      o.account.reads.andThen rfl <| o.product.reads.andThen rfl <|
      (reads_uInt32 _).andThen rfl rfl
  | productReserved r =>
    have fits : ∀ f ∈ [("order_id", r.order.toJson), ("account_id", r.account.toJson),
        ("payable", r.payable.toJson)],
        Fits [field "order_id" (Id.read : Reader OrderId), field "account_id" AccountId.read,
          field "payable" Money.read] f := by
      simp only [List.forall_mem_cons]
      exact ⟨r.order.reads.fits rfl, r.account.reads.fits rfl, r.payable.reads.fits rfl,
        fun _ h => nomatch h⟩
    exact reads_record fits (by simp) <| r.order.reads.andThen rfl <| r.account.reads.andThen rfl <|
      r.payable.reads.andThen rfl rfl
  | reservationFailed f =>
    have fits : ∀ entry ∈ [("order_id", f.order.toJson), ("reason", .text f.reason)],
        Fits [field "order_id" (Id.read : Reader OrderId), field "reason" readText] entry := by
      simp only [List.forall_mem_cons]
      exact ⟨f.order.reads.fits rfl, (reads_text _).fits rfl, fun _ h => nomatch h⟩
    have found : Json.optional "reason" readText ""
        [("order_id", f.order.toJson), ("reason", .text f.reason)] = .ok f.reason := rfl
    exact reads_record fits (by simp) <| f.order.reads.andThen rfl <|
      bind_eq_ok.2 ⟨_, found, rfl⟩
  | payment p =>
    have fits : ∀ f ∈ [("order_id", p.order.toJson), ("account_id", p.account.toJson),
        ("status", p.status.toJson)],
        Fits [field "order_id" (Id.read : Reader OrderId), field "account_id" AccountId.read,
          field "status" PaymentStatus.read] f := by
      simp only [List.forall_mem_cons]
      exact ⟨p.order.reads.fits rfl, p.account.reads.fits rfl, p.status.reads.fits rfl,
        fun _ h => nomatch h⟩
    exact reads_record fits (by simp) <| p.order.reads.andThen rfl <| p.account.reads.andThen rfl <|
      p.status.reads.andThen rfl rfl

/-- A payload holds texts and integers, each under a name of its own. -/
theorem exists_flat (p : Payload) : ∃ fields, p.toJson = .record fields ∧
    (∀ f ∈ fields, f.2.IsFlat) ∧ (fields.map Prod.fst).Nodup := by
  cases p <;> refine ⟨_, rfl, ?_, by simp [Grant.fieldsJson]⟩ <;>
    simp only [Grant.fieldsJson, List.forall_mem_cons, List.not_mem_nil, false_imp_iff,
      implies_true, and_true] <;>
    simp only [AccountId.toJson, Role.toJson, PolicyMethod.toJson, PaymentStatus.toJson, Id.toJson,
      Uuid.toJson, Money.toJson, Json.ofNat, isFlat_text, isFlat_integer, and_true]

/-- An envelope keeps a payload as it is. -/
theorem reads_plain (p : Payload) : Reads Sealed.readPlain p.toJson p.toJson := by
  refine ⟨p.reads.data, ?_⟩
  obtain ⟨fields, written, flat, nodup⟩ := p.exists_flat
  unfold Sealed.readPlain
  rw [written, show Sealed.payloadDepth = 125 + 1 from rfl, plain?_record 125 flat nodup]

end Payload

/-- **What is read under a kind is a payload of that kind.** -/
theorem topic_of_readPayload {t : Topic} {v : Json} {p : Payload} (h : t.readPayload v = .ok p) :
    p.topic = t := by
  unfold Topic.readPayload at h
  split at h <;> simp only [bind_eq_ok, pure_eq_ok, reduceCtorEq] at h <;> grind [Payload.topic]

/-! ## Events -/

/-- An envelope reads back. -/
theorem Meta.reads {m : Meta} (h : Time.Timestamp.inRange m.time.date = true) :
    Reads Meta.read m.toJson m := by
  have time := Time.Timestamp.reads h
  have fits : ∀ f ∈ [("version", .text m.version), ("source", .text m.source),
      ("time", m.time.toJson), ("name", .text m.name), ("id", m.id.toJson),
      ("req_id", .text m.correlation)],
      Fits [field "version" readText, field "source" readText,
        field "time" Time.Timestamp.read, field "name" readText, field "id" Uuid.read,
        field "req_id" readText] f := by
    simp only [List.forall_mem_cons]
    exact ⟨(reads_text _).fits rfl, (reads_text _).fits rfl, time.fits rfl, (reads_text _).fits rfl,
      m.id.reads.fits rfl, (reads_text _).fits rfl, fun _ h => nomatch h⟩
  exact reads_record fits (by simp) <| (reads_text _).andThen rfl <|
    (reads_text _).andThen rfl <| time.andThen rfl <| (reads_text _).andThen rfl <|
    m.id.reads.andThen rfl <| (reads_text _).andThen rfl rfl

namespace Event

variable {e : Event}

/-- The event is of a moment that a clock can show: its year is one that a moment can lie in. -/
def IsTimely (e : Event) : Prop := Time.Timestamp.inRange e.header.time.date = true

instance (e : Event) : Decidable e.IsTimely := inferInstanceAs (Decidable (_ = true))

/-- An event reads back as its envelope and the tree of its payload. -/
theorem reads (h : e.IsTimely) :
    Reads Sealed.read e.toJson ⟨e.header, e.payload.toJson⟩ := by
  have header := Meta.reads h
  have payload := e.payload.reads_plain
  have fits : ∀ f ∈ [("meta", e.header.toJson), ("payload", e.payload.toJson)],
      Fits [field "meta" Meta.read, field "payload" Sealed.readPlain] f := by
    simp only [List.forall_mem_cons]
    exact ⟨header.fits rfl, payload.fits rfl, fun _ h => nomatch h⟩
  exact reads_record fits (by simp) <| header.andThen rfl <| payload.andThen rfl rfl

/-- Its envelope arrives as it is. -/
theorem ofOctets_octets (timely : e.IsTimely) :
    Sealed.ofOctets e.octets = .ok ⟨e.header, e.payload.toJson⟩ := by
  have sealed := reads timely
  unfold Sealed.ofOctets octets wire
  rw [decodeOctets_compact Sealed.read sealed.data, sealed.read]

/-- Its payload reads back under its name. -/
theorem IsStandard.decode (named : e.IsStandard) :
    Payload.decode e.header.name e.payload.toJson = .ok e.payload := by
  unfold Payload.decode
  rw [show e.header.name = _ from named, Topic.ofName?_name]
  dsimp only
  rw [e.payload.reads.read]

/-- **An event under the name of its payload arrives as it is.** -/
theorem arrives (named : e.IsStandard)
    (h : 0 ≤ e.header.time.date.year ∧ e.header.time.date.year ≤ 9999) :
    ∃ s, Sealed.ofOctets e.octets = .ok s ∧ s.decode = .ok e := by
  have timely : e.IsTimely := decide_eq_true (by omega)
  refine ⟨_, ofOctets_octets timely, ?_⟩
  unfold Sealed.decode
  rw [named.decode]
  rfl

end Event

theorem Topic.name_of_ofName? {s : String} {t : Topic} (h : Topic.ofName? s = some t) :
    t.name = s := by
  have named := List.find?_some h
  exact of_decide_eq_true named

/-- What is read off an envelope is an event under the name of its payload. -/
theorem isStandard_of_decode {s : Sealed} {e : Event} (h : s.decode = .ok e) : e.IsStandard := by
  unfold Sealed.decode Payload.decode at h
  split at h
  · cases h
  · rename_i t known
    split at h
    · rename_i p read
      cases h
      show s.header.name = p.topic.name
      rw [topic_of_readPayload read, Topic.name_of_ofName? known]
    · cases h

namespace Registry

/-- A name that a list of kinds leaves registered was registered before or is that of a kind. -/
theorem of_get?_foldl_register {name : String} {entry : Registration} :
    ∀ (ts : List Topic) (r : Registry),
    (ts.foldl (fun r t => r.register t.name (ofTopic t)) r).entries.get? name = some entry →
    (∃ t, t.name = name ∧ entry = ofTopic t) ∨ r.entries.get? name = some entry
  | [], _, h => .inr h
  | t :: ts, r, h => by
    rcases of_get?_foldl_register ts _ h with h | h
    · exact .inl h
    · have put : (r.register t.name (ofTopic t)).entries.get? name =
          if name = t.name then some (ofTopic t) else r.entries.get? name := Table.get?_put _ _ _ _
      rw [put] at h
      split at h
      · rename_i same
        exact .inl ⟨t, same.symm, (Option.some.inj h).symm⟩
      · exact .inr h

/-- Only the names of the nine kinds are registered, each with its own payloads. -/
theorem of_entry_standard {name : String} {entry : Registration}
    (h : standard.entry name = .ok entry) : ∃ t, t.name = name ∧ entry = ofTopic t := by
  unfold Registry.entry at h
  split at h
  · rename_i e found
    cases h
    rcases of_get?_foldl_register Topic.all empty found with h | h
    · exact h
    · cases h
  · cases h

/-- **An event is made when its name is registered for its payload**, and it is as it was asked
for. -/
theorem create_eq_ok_iff {r : Registry} {stamp : Stamp} {source correlation name : String}
    {payload : Payload} {e : Event} : r.create stamp source correlation name payload = .ok e ↔
      (∃ entry, r.entry name = .ok entry ∧ entry.accepts payload = true) ∧
      e = ⟨⟨envelopeVersion, source, stamp.time.timestamp, name, stamp.id, correlation⟩,
        payload⟩ := by
  unfold create
  cases r.entry name with
  | error err => exact iff_of_false nofun fun ⟨⟨_, known, _⟩, _⟩ => nomatch known
  | ok entry =>
    dsimp only
    split
    · rename_i accepted
      exact ⟨fun made => ⟨⟨entry, rfl, accepted⟩, (Except.ok.inj made).symm⟩,
        fun ⟨_, same⟩ => congrArg Except.ok same.symm⟩
    · rename_i refused
      refine iff_of_false nofun ?_
      rintro ⟨⟨_, ⟨⟩, accepted⟩, _⟩
      exact refused accepted

/-- What can be made is an event under the name of its payload. -/
theorem isStandard_of_create {stamp : Stamp} {source correlation name : String} {payload : Payload}
    {e : Event} (h : standard.create stamp source correlation name payload = .ok e) :
    e.IsStandard := by
  obtain ⟨⟨entry, known, accepted⟩, rfl⟩ := create_eq_ok_iff.1 h
  obtain ⟨t, rfl, rfl⟩ := of_entry_standard known
  have own : payload.topic = t := of_decide_eq_true accepted
  exact congrArg Topic.name own.symm

end Registry

/-- **Events read back off the wire.** What can be made under a registered name, of a year that is
written with four digits, arrives as it was sent. What arrives of such a year has a payload that may
be sent under its name, and when it is sent on it arrives as it was. -/
theorem events_read_back :
    (∀ (stamp : Stamp) (source correlation name : String) (payload : Payload) (e : Event),
      Registry.standard.create stamp source correlation name payload = .ok e →
      0 ≤ e.header.time.date.year ∧ e.header.time.date.year ≤ 9999 →
      ∃ s, Sealed.ofOctets e.octets = .ok s ∧ s.decode = .ok e) ∧
    ∀ (octets : ByteArray) (s : Sealed) (e : Event),
      Sealed.ofOctets octets = .ok s → s.decode = .ok e →
      0 ≤ e.header.time.date.year ∧ e.header.time.date.year ≤ 9999 →
      (∃ entry, Registry.standard.entry e.name = .ok entry ∧ entry.accepts e.payload = true) ∧
      ∃ s', Sealed.ofOctets e.octets = .ok s' ∧ s'.decode = .ok e := by
  constructor
  · intro stamp source correlation name payload e made years
    exact Event.arrives (Registry.isStandard_of_create made) years
  · intro octets s e _ decoded years
    have named : e.name = e.payload.topic.name := isStandard_of_decode decoded
    refine ⟨⟨Registry.ofTopic e.payload.topic, ?_, decide_eq_true rfl⟩, Event.arrives named years⟩
    rw [named]
    exact Registry.entry_standard _

/-- A revocation whose fields need escapes, in the last nanosecond of the year 9999. -/
def sampleRevocation : Event :=
  ⟨⟨envelopeVersion, "a\"b", (Instant.mk 253402300799999999999).timestamp, "EventPolicyUpdated",
    .ofNat 1, "\n"⟩, .policyUpdated .delete ⟨"\\", "\x00é", "*", "😀"⟩⟩

/-- An event as another sender may write it: as lists of fields, with the time of another zone, an
identifier without dashes and a text in escapes. -/
def sampleOctets : ByteArray :=
  ("[[\"1.0\",\"\",\"2023-12-31t23:59:59.5-02:30\",\"EventAccountDeleted\"," ++
    "\"00000000000040008000000000000001\",\"\\ud83d\\ude00\"],[7]]").toUTF8

theorem events_read_back_of_sampleOctets :
    (∃ s, Sealed.ofOctets sampleRevocation.octets = .ok s ∧ s.decode = .ok sampleRevocation) ∧
    ∃ s e, Sealed.ofOctets sampleOctets = .ok s ∧ s.decode = .ok e ∧ e.header.time.date.year = 2024 ∧
      (∃ entry, Registry.standard.entry e.name = .ok entry ∧ entry.accepts e.payload = true) ∧
      ∃ s', Sealed.ofOctets e.octets = .ok s' ∧ s'.decode = .ok e := by
  constructor
  · exact events_read_back.1 ⟨.ofNat 1, ⟨253402300799999999999⟩⟩ "a\"b" "\n" _ _ sampleRevocation
      (Registry.create_standard _ _ _ (.policyUpdated .delete ⟨"\\", "\x00é", "*", "😀"⟩))
      (by decide +kernel)
  · -- The time is written in the zone of the sender; the year is that of universal time.
    have readable : ((Sealed.ofOctets sampleOctets).bind Sealed.decode).toOption.map
        (fun e => e.header.time.date.year) = some 2024 := by decide +kernel
    cases opened : Sealed.ofOctets sampleOctets with
    | error err => simp [opened, Except.bind, Except.toOption] at readable
    | ok s =>
      cases decoded : s.decode with
      | error err => simp [opened, decoded, Except.bind, Except.toOption] at readable
      | ok e =>
        simp only [opened, decoded, Except.bind, Except.toOption, Option.map_some,
          Option.some.injEq] at readable
        have back := events_read_back.2 sampleOctets s e opened decoded (by omega)
        exact ⟨s, e, rfl, decoded, readable, back⟩

end Marketplace
