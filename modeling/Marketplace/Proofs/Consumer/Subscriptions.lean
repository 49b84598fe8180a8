import Marketplace.Event.Consumer
import Marketplace.Proofs.Bus.Delivery

/-!
# The subscriptions of a consumer

A consumer that starts subscribes to each of its names. From then on it is the receiver of these
subscriptions: others do what they like with the bus, but do not take or settle what is its own. As
long as it keeps its subscriptions and the bus is not closed, nothing of its own is given up.

## Results

* `Tracked.Inv.entered_spared`: what others do only puts copies into the queues of a consumer.
* `Consumer.start_eq`: what starting calls for, and which subscriptions it opens.
-/

namespace Marketplace

namespace Bus

variable {b : Bus} {id : Nat} {ids : List Nat}

/-! ## What others do -/

/-- A call leaves some subscriptions to their receiver: nobody else takes from them, settles what
was handed out there or gives them up, and the bus is not closed. -/
def Spares (ids : List Nat) (b : Bus) : Call → Prop
  | .next id => id ∉ ids
  | .unsubscribe id => id ∉ ids
  | .ack receipt => ∀ id ∈ ids, ¬ b.Holds receipt id
  | .nak receipt => ∀ id ∈ ids, ¬ b.Holds receipt id
  | .close => False
  | _ => True

/-- Several calls leave some subscriptions to their receiver. -/
def SparesAll (ids : List Nat) : Bus → List Call → Prop
  | _, [] => True
  | b, call :: calls => Spares ids b call ∧ SparesAll ids (b.after call) calls

theorem Spares.serves_after {call : Call} (numbered : b.IsNumbered) (h : Spares ids b call)
    (own : id ∈ ids) (served : b.serves id = true) : (b.after call).serves id = true := by
  refine Bus.serves_after numbered served ?_ ?_
  · rintro rfl
    exact h own
  · rintro rfl
    exact h

end Bus

/-- **What others do only puts copies into the queues of a consumer.** -/
theorem Tracked.Inv.entered_spared {t : Tracked} (h : t.Inv) {ids : List Nat} {call : Bus.Call}
    (spared : t.bus.Spares ids call) (served : ∀ id ∈ ids, t.bus.serves id = true) :
    Entered (fun c s => c.subscription ∈ ids → ∃ k u, s = .queued k u) t.history
      (t.after call).history := by
  intro c
  obtain ⟨news, grown, kind⟩ := h.entered_after call c
  refine ⟨news, grown, fun s hs own => ?_⟩
  have new := kind s hs
  cases call with
  | publish => exact ⟨_, _, new.1⟩
  | next => exact (spared (new.2.1 ▸ own)).elim
  | ack => exact (spared _ own new.2.1).elim
  | nak => exact (spared _ own new.2.1).elim
  | unsubscribe => exact (spared (new.2.1 ▸ own)).elim
  | pass duration =>
    cases s with
    | queued k u => exact ⟨k, u, rfl⟩
    | discarded =>
      have gone := (h.after (.pass duration)).1.chronicle.gone c (grown ▸ List.mem_append_left _ hs)
      have open' := Bus.takes_of_serves (spared.serves_after h.numbered own (served _ own))
      rw [(h.after _).2, open'] at gone
      cases gone
    | handed | refused | acked | exhausted | lost => cases new.2
  | close => exact spared.elim
  | subscribe | failOn => exact new.elim

/-! ## Starting -/

namespace Consumer

/-- The subscriptions that a consumer asks for. -/
def calls (r : Registry) (names : List String) (consumer : String) : List Bus.Call :=
  names.filterMap fun name => (r.subject name).toOption.map fun subject => .subscribe subject consumer

theorem subscribeAll_eq (r : Registry) (consumer : String) : ∀ (names : List String)
    (opened : List Nat) {b b' : Bus} {c : Consumer},
    subscribeAll r consumer names opened b = (.ok c, b') →
    b' = (calls r names consumer).foldl Bus.after b ∧
      c.subscriptions = opened ++ List.range' b.subscribers.length names.length ∧
      ((∀ id ∈ opened, b.serves id = true) → b.IsNumbered →
        ∀ id ∈ c.subscriptions, b'.serves id = true)
  | [], opened, b, b', c, h => by
    cases h
    exact ⟨rfl, (List.append_nil _).symm, fun served _ => served⟩
  | name :: names, opened, b, b', c, h => by
    unfold subscribeAll at h
    split at h
    · cases h
    · rename_i subject found
      rcases Bus.subscribe_eq subject consumer b with ⟨-, refused⟩ | ⟨running, subscribed⟩
      · rw [refused] at h
        cases h
      · have more := Bus.subscribers_joinedBy b [⟨b.subscribers.length, subject, consumer, true, true⟩]
        generalize b.joinedBy [⟨b.subscribers.length, subject, consumer, true, true⟩] = b₁
          at subscribed more
        rw [subscribed] at h
        obtain ⟨rest, subscriptions, serves⟩ := subscribeAll_eq r consumer names _ h
        have asked : calls r (name :: names) consumer =
            .subscribe subject consumer :: calls r names consumer := by
          unfold calls
          rw [List.filterMap_cons_some (b := .subscribe subject consumer)]
          rw [found]
          rfl
        have after : b.after (.subscribe subject consumer) = b₁ := congrArg Prod.snd subscribed
        refine ⟨by rw [asked, List.foldl_cons, after, rest], ?_, fun served numbered => ?_⟩
        · rw [subscriptions, more, List.length_append, List.length_singleton, List.append_assoc,
            List.length_cons, List.range'_succ]
          rfl
        · have numbered' := numbered.subscribe subject consumer
          rw [subscribed] at numbered'
          refine serves (fun id hid => ?_) numbered'
          rw [← after]
          rcases List.mem_append.1 hid with hid | hid
          · exact Bus.serves_after numbered (served id hid) nofun nofun
          · rw [List.mem_singleton.1 hid]
            exact (Bus.serves_after_iff numbered _ _).2 (.inl ⟨running, rfl⟩)

/-- **A consumer that starts has asked for its subscriptions**, new ones, and all of them are
served. -/
theorem start_eq {r : Registry} {names : List String} {consumer : String} {b b' : Bus} {c : Consumer}
    (numbered : b.IsNumbered) (h : start r names consumer b = (.ok c, b')) :
    b' = (calls r names consumer).foldl Bus.after b ∧
      c.subscriptions = List.range' b.subscribers.length names.length ∧
      ∀ id ∈ c.subscriptions, b'.serves id = true := by
  obtain ⟨same, subscriptions, serves⟩ := subscribeAll_eq r consumer names [] h
  exact ⟨same, subscriptions, serves (fun _ hid => nomatch hid) numbered⟩

end Consumer

end Marketplace
