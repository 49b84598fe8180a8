import Marketplace.Proofs.Bus.Calls

/-!
# When a subscription is live

A bus sends to a subscription that is listed and whose receiver is there. Both flags are set when
the subscription is opened. Its receiver takes the one back by giving the subscription up, closing
the bus takes the other back from all of them, and no other call does either: the bus takes a
subscription off its list by itself only when the receiver is gone already.

## Results

* `Bus.subscribe_eq`: a bus that is open opens a subscription, and a closed one does not.
* `Bus.serves_after_iff`: what a call does to a subscription.
-/

namespace Marketplace

namespace Bus

/-- A subscription is live: it has a receiver, and the bus sends to it. -/
def serves (b : Bus) (id : Nat) : Bool := (b.subscriber? id).any Subscriber.isLive

variable {b b' : Bus} {id : Nat}

theorem subscriber?_id {s : Subscriber} (h : b.subscriber? id = some s) : s.id = id := by
  unfold subscriber? at h
  simpa using List.find?_some h

theorem IsNumbered.lt_length (h : b.IsNumbered) {s : Subscriber}
    (found : b.subscriber? id = some s) : id < b.subscribers.length :=
  subscriber?_id found ▸ h.id_lt (List.mem_of_find?_eq_some found)

/-- What is on the list is live if both its flags are set. -/
theorem IsNumbered.serves_eq (h : b.IsNumbered) {s : Subscriber} (hs : s ∈ b.subscribers) :
    b.serves s.id = s.isLive := by
  unfold serves
  rw [h.subscriber?_of_mem hs, Option.any_some]

theorem takes_of_serves (h : b.serves id = true) : b.takes id = true := by
  obtain ⟨s, found, live⟩ := (Option.any_eq_true _ _).1 h
  exact (Option.any_eq_true _ _).2 ⟨s, found, (Bool.and_eq_true_iff.1 live).2⟩

theorem hasSender_of_serves (h : b.serves id = true) : b.hasSender id = true := by
  obtain ⟨s, found, live⟩ := (Option.any_eq_true _ _).1 h
  have listed : (b.subscribers.any fun s => s.id == id && s.listed) = true := by
    refine List.any_eq_true.2 ⟨s, List.mem_of_find?_eq_some found, ?_⟩
    rw [subscriber?_id found, beq_self_eq_true, (Bool.and_eq_true_iff.1 live).1]
    rfl
  unfold hasSender
  rw [listed, Bool.true_or]

/-! ## What changes the subscriptions -/

theorem serves_congr (id : Nat) (same : b'.subscribers = b.subscribers) :
    b'.serves id = b.serves id := by
  unfold serves subscriber?
  rw [same]

theorem serves_map {f : Subscriber → Subscriber} (own : ∀ s, (f s).id = s.id) (id : Nat)
    (subscribers : b'.subscribers = b.subscribers.map f) :
    b'.serves id = (b.subscriber? id).any fun s => (f s).isLive := by
  unfold serves
  rw [subscriber?_map own id subscribers, Option.any_map]

/-- Only subscriptions are taken off the list that were not live. -/
theorem unlistGone_isLive (subject : String) (s : Subscriber) :
    (unlistGone subject s).isLive = s.isLive := by
  unfold unlistGone
  split
  · rename_i gone
    unfold Subscriber.isLive
    rw [gone.2, Bool.and_false, Bool.and_false]
  · rfl

theorem serves_publish (subject : String) (octets : ByteArray) (b : Bus) (id : Nat) :
    (b.publish subject octets).2.serves id = b.serves id := by
  rcases publish_eq subject octets b with ⟨err, attempts, eq⟩ | ⟨attempts, eq⟩
  · rw [eq]
    exact serves_congr id rfl
  · rw [eq, serves_map (unlistGone_id subject) id rfl]
    simp only [unlistGone_isLive]
    rfl

theorem serves_unsubscribe (id' : Nat) (b : Bus) (id : Nat) :
    (b.unsubscribe id').serves id = true ↔ b.serves id = true ∧ id ≠ id' := by
  rw [serves_map (f := fun s => if s.id = id' then { s with isOpen := false } else s)
    (fun s => by split <;> rfl) id rfl]
  unfold serves
  cases found : b.subscriber? id with
  | none => simp
  | some s =>
    have named := subscriber?_id found
    by_cases own : id = id'
    · simp [named, own, Subscriber.isLive]
    · simp [named, own]

theorem serves_close (b : Bus) (id : Nat) : b.close.serves id = false := by
  rw [serves_map (f := fun s => { s with listed := false }) (fun _ => rfl) id rfl]
  cases b.subscriber? id <;> rfl

/-- The bus with more subscriptions. -/
def joinedBy (b : Bus) (new : List Subscriber) : Bus :=
  { b with subscribers := b.subscribers ++ new }

theorem subscribers_joinedBy (b : Bus) (new : List Subscriber) :
    (b.joinedBy new).subscribers = b.subscribers ++ new :=
  rfl

theorem joinedBy_nil (b : Bus) : b.joinedBy [] = b := by
  unfold joinedBy
  rw [List.append_nil]

theorem joinedBy_joinedBy (b : Bus) (new more : List Subscriber) :
    (b.joinedBy new).joinedBy more = b.joinedBy (new ++ more) := by
  unfold joinedBy
  rw [List.append_assoc]

/-- A closed bus refuses; any other opens a subscription at the end of its list. -/
theorem subscribe_eq (subject consumer : String) (b : Bus) :
    (b.isClosed = true ∧ b.subscribe subject consumer = (.error .closed, b)) ∨
    (b.isClosed = false ∧ b.subscribe subject consumer = (.ok b.subscribers.length,
      b.joinedBy [⟨b.subscribers.length, subject, consumer, true, true⟩])) := by
  unfold subscribe
  split
  · rename_i closed
    exact .inl ⟨closed, rfl⟩
  · rename_i running
    exact .inr ⟨eq_false_of_ne_true running, rfl⟩

/-- A new subscription is live, and those before it are as they were. -/
theorem serves_joinedBy (h : b.IsNumbered) {s : Subscriber} (number : s.id = b.subscribers.length)
    (id : Nat) : (b.joinedBy [s]).serves id =
      if id = b.subscribers.length then s.isLive else b.serves id := by
  unfold serves subscriber?
  rw [subscribers_joinedBy, List.find?_append]
  split
  · rename_i new
    have unknown : b.subscriber? id = none := Option.eq_none_iff_forall_ne_some.2 fun _ found =>
      Nat.lt_irrefl _ (new ▸ h.lt_length found)
    rw [show List.find? _ b.subscribers = none from unknown]
    simp [number, new]
  · rename_i old
    have other : [s].find? (fun s => s.id == id) = none := by simp [number, Ne.symm old]
    rw [other, Option.or_none]

theorem subscribers_requeueUntil (time : Nat) : ∀ (count : Nat) (b : Bus),
    (b.requeueUntil time count).subscribers = b.subscribers
  | 0, _ => rfl
  | count + 1, b => by
    unfold requeueUntil
    split
    · split
      · exact subscribers_requeueUntil time count (b.requeue _ _)
      · rfl
    · rfl

theorem subscribers_nak (receipt : Nat) (b : Bus) :
    (b.nak receipt).2.subscribers = b.subscribers := by
  unfold nak
  split
  · rfl
  · dsimp only
    split
    · rfl
    · split <;> rfl

/-! ## What a call does -/

/-- The call opens a subscription, and this is its number. -/
def Opens (b : Bus) (id : Nat) : Call → Prop
  | .subscribe _ _ => b.isClosed = false ∧ id = b.subscribers.length
  | _ => False

/-- **A subscription is live** if the call opens it, or if it was live before and the call neither
gives it up nor closes the bus. -/
theorem serves_after_iff (h : b.IsNumbered) (call : Call) (id : Nat) :
    (b.after call).serves id = true ↔
      b.Opens id call ∨ b.serves id = true ∧ call ≠ .unsubscribe id ∧ call ≠ .close := by
  have kept {b' : Bus} {call : Call} (same : b'.serves id = b.serves id) (none : ¬b.Opens id call)
      (other : call ≠ .unsubscribe id ∧ call ≠ .close) : b'.serves id = true ↔
        b.Opens id call ∨ b.serves id = true ∧ call ≠ .unsubscribe id ∧ call ≠ .close := by
    rw [same]
    exact ⟨fun live => .inr ⟨live, other⟩, fun live => (live.resolve_left none).1⟩
  cases call with
  | subscribe subject consumer =>
    show (b.subscribe subject consumer).2.serves id = true ↔ _
    rcases subscribe_eq subject consumer b with ⟨closed, eq⟩ | ⟨running, eq⟩
    · rw [eq]
      refine kept rfl (fun opens => ?_) ⟨nofun, nofun⟩
      cases closed.symm.trans opens.1
    · rw [eq, serves_joinedBy h rfl]
      by_cases new : id = b.subscribers.length
      · rw [if_pos new]
        exact iff_of_true rfl (.inl ⟨running, new⟩)
      · rw [if_neg new]
        exact kept rfl (fun opens => new opens.2) ⟨nofun, nofun⟩
  | publish subject octets =>
    exact kept (serves_publish subject octets b id) (fun opens => opens) ⟨nofun, nofun⟩
  | next id' =>
    refine kept ?_ (fun opens => opens) ⟨nofun, nofun⟩
    show (b.next id').2.serves id = _
    unfold next
    split <;> exact serves_congr id rfl
  | ack receipt =>
    refine kept ?_ (fun opens => opens) ⟨nofun, nofun⟩
    show (b.ack receipt).serves id = _
    unfold ack
    split <;> exact serves_congr id rfl
  | nak receipt =>
    exact kept (serves_congr id (subscribers_nak receipt b)) (fun opens => opens) ⟨nofun, nofun⟩
  | pass duration =>
    refine kept (serves_congr id ?_) (fun opens => opens) ⟨nofun, nofun⟩
    exact subscribers_requeueUntil _ _ _
  | failOn attempt => exact kept (serves_congr id rfl) (fun opens => opens) ⟨nofun, nofun⟩
  | unsubscribe id' =>
    show (b.unsubscribe id').serves id = true ↔ _
    rw [serves_unsubscribe]
    constructor
    · rintro ⟨live, other⟩
      exact .inr ⟨live, fun same => other (Call.unsubscribe.inj same).symm, nofun⟩
    · rintro (opens | ⟨live, other, -⟩)
      · exact opens.elim
      · exact ⟨live, fun same => other (same ▸ rfl)⟩
  | close =>
    show b.close.serves id = true ↔ _
    rw [serves_close]
    exact iff_of_false nofun fun live => live.elim (fun opens => opens) fun kept => kept.2.2 rfl

theorem serves_after (h : b.IsNumbered) {call : Call} (live : b.serves id = true)
    (kept : call ≠ .unsubscribe id) (running : call ≠ .close) : (b.after call).serves id = true :=
  (serves_after_iff h call id).2 (.inr ⟨live, kept, running⟩)

end Bus

end Marketplace
