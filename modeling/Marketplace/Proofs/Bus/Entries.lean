import Marketplace.Proofs.Bus.Invariant

/-!
# What a call enters into the histories

Histories only grow, at the front. Each call enters stages of its own kind: publishing sends, asking
for the next message hands out, an acknowledgement or a refusal ends a delivery, and as time passes
copies queue again.

## Results

* `Tracked.Inv.entered_after`: a call enters nothing but its own stages, into copies that it is
  about.
-/

namespace Marketplace

/-- A refusal, whatever comes of it. -/
def Stage.isRefusal : Stage → Bool
  | refused .. => true
  | exhausted => true
  | lost => true
  | _ => false

/-- A copy comes back, or its receiver is gone. -/
def Stage.isReturn : Stage → Bool
  | queued .. => true
  | discarded => true
  | _ => false

/-- Histories have grown by stages of some kind. -/
def Entered (Q : Copy → Stage → Prop) (history history' : Copy → List Stage) : Prop :=
  ∀ c, ∃ news, history' c = news ++ history c ∧ ∀ s ∈ news, Q c s

namespace Entered

variable {Q : Copy → Stage → Prop} {history history' history'' : Copy → List Stage}

theorem refl (Q : Copy → Stage → Prop) (history : Copy → List Stage) : Entered Q history history :=
  fun _ => ⟨[], rfl, fun _ hs => nomatch hs⟩

theorem trans (h : Entered Q history history') (h' : Entered Q history' history'') :
    Entered Q history history'' := by
  intro c
  obtain ⟨news, grown, kind⟩ := h c
  obtain ⟨later, grown', kind'⟩ := h' c
  refine ⟨later ++ news, by rw [grown', grown, List.append_assoc], fun s hs => ?_⟩
  rcases List.mem_append.1 hs with hs | hs
  · exact kind' s hs
  · exact kind s hs

theorem mono {R : Copy → Stage → Prop} (h : Entered Q history history')
    (weaker : ∀ c s, Q c s → R c s) : Entered R history history' := by
  intro c
  obtain ⟨news, grown, kind⟩ := h c
  exact ⟨news, grown, fun s hs => weaker c s (kind s hs)⟩

theorem note {cs : List Copy} {s : Stage} (h : ∀ c ∈ cs, Q c s) :
    Entered Q history (note cs s history) := by
  intro c
  by_cases hc : c ∈ cs
  · exact ⟨[s], note_of_mem hc, fun u hu => List.mem_singleton.1 hu ▸ h c hc⟩
  · exact ⟨[], note_of_not_mem hc, fun _ hs => nomatch hs⟩

theorem note_one {d : Copy} {s : Stage} (h : Q d s) :
    Entered Q history (Marketplace.note [d] s history) :=
  .note fun _ hc => List.mem_singleton.1 hc ▸ h

theorem suffix (h : Entered Q history history') (c : Copy) : history c <:+ history' c := by
  obtain ⟨news, grown, -⟩ := h c
  exact ⟨news, grown.symm⟩

/-- What is in a history was there before or is new. -/
theorem mem (h : Entered Q history history') {c : Copy} {s : Stage} (hs : s ∈ history' c) :
    Q c s ∨ s ∈ history c := by
  obtain ⟨news, grown, kind⟩ := h c
  rw [grown] at hs
  exact (List.mem_append.1 hs).imp_left (kind s)

/-- When only copies that were sent get new stages, no others were sent. -/
theorem ne_nil_iff (h : Entered Q history history') (sent : ∀ c s, Q c s → history c ≠ []) (c : Copy) :
    history' c ≠ [] ↔ history c ≠ [] := by
  refine ⟨fun hc none => ?_, fun hc none => hc ?_⟩
  · obtain ⟨s, rest, first⟩ := List.exists_cons_of_ne_nil hc
    rcases h.mem (first ▸ List.mem_cons_self) with new | old
    · exact sent c s new none
    · rw [none] at old
      cases old
  · exact List.suffix_nil.1 (none ▸ h.suffix c)

end Entered

/-- A receipt is that of a parcel for a subscription. -/
def Bus.Holds (b : Bus) (receipt id : Nat) : Prop :=
  ∃ p, b.held? receipt = some p ∧ p.subscription = id

namespace Tracked

variable {t : Tracked}

/-- A call may enter a stage into the history of a copy. -/
def Enters (t : Tracked) (call : Bus.Call) (c : Copy) (s : Stage) : Prop :=
  match call with
  | .publish subject octets => s = .queued 1 t.bus.now ∧ c ∈ (t.sent subject octets).map Prod.snd
  | .next id => t.history c ≠ [] ∧ c.subscription = id ∧ ∃ k r u, s = .handed k r u
  | .ack receipt => t.history c ≠ [] ∧ t.bus.Holds receipt c.subscription ∧ s = .acked
  | .nak receipt => t.history c ≠ [] ∧ t.bus.Holds receipt c.subscription ∧ s.isRefusal = true
  | .unsubscribe id => t.history c ≠ [] ∧ c.subscription = id ∧ s = .discarded
  | .pass _ => t.history c ≠ [] ∧ s.isReturn = true
  | _ => False

/-- The copy of a parcel on the bus was sent. -/
theorem Inv.sent_of_mem_spots (h : t.Inv) {x : Copy × Spot}
    (hx : x ∈ spots t.queued t.held t.delayed) : t.history x.1 ≠ [] := by
  obtain ⟨s, past, latest, -⟩ := h.journey hx
  exact latest ▸ List.cons_ne_nil _ _

/-- What was handed out against a receipt is a copy that was sent. -/
theorem Inv.holds (h : t.Inv) {receipt : Nat} {x : Held × Copy}
    (found : t.held.find? (fun x => x.1.receipt == receipt) = some x) :
    t.history x.2 ≠ [] ∧ t.bus.Holds receipt x.2.subscription := by
  have here := mem_spots_of_held (List.mem_of_find?_eq_some found)
  refine ⟨h.sent_of_mem_spots here, x.1.parcel, ?_, (h.matched _ here).1⟩
  unfold Bus.held?
  rw [(h.held_split found).1]
  rfl

theorem Inv.entered_next (h : t.Inv) (id : Nat) :
    Entered (t.Enters (.next id)) t.history (t.next id).history := by
  unfold Tracked.next
  dsimp only
  split
  · rename_i p c found
    have here := mem_spots_of_queued (List.mem_of_find?_eq_some found)
    have named : p.subscription = id := by simpa using List.find?_some found
    exact .note_one ⟨h.sent_of_mem_spots here, (h.matched _ here).1.symm.trans named, _, _, _, rfl⟩
  · exact .refl _ _

theorem Inv.entered_ack (h : t.Inv) (receipt : Nat) :
    Entered (t.Enters (.ack receipt)) t.history (t.ack receipt).history := by
  unfold Tracked.ack
  dsimp only
  split
  · rename_i x c found
    exact .note_one ⟨(h.holds found).1, (h.holds found).2, rfl⟩
  · exact .refl _ _

theorem Inv.entered_nak (h : t.Inv) (receipt : Nat) :
    Entered (t.Enters (.nak receipt)) t.history (t.nak receipt).history := by
  unfold Tracked.nak
  dsimp only
  split
  · rename_i r p c found
    have ⟨sent, holds⟩ := h.holds found
    split
    · exact .note_one ⟨sent, holds, rfl⟩
    · split
      · exact .note_one ⟨sent, holds, rfl⟩
      · exact .note_one ⟨sent, holds, rfl⟩
  · exact .refl _ _

theorem Inv.entered_unsubscribe (h : t.Inv) (id : Nat) :
    Entered (t.Enters (.unsubscribe id)) t.history (t.unsubscribe id).history := by
  refine .note fun c hc => ?_
  obtain ⟨x, hx, rfl⟩ := List.mem_map.1 hc
  obtain ⟨hx, named⟩ := List.mem_filter.1 hx
  have here := mem_spots_of_queued hx
  have named : x.1.subscription = id := by simpa using named
  exact ⟨h.sent_of_mem_spots here, (h.matched _ here).1.symm.trans named, rfl⟩

/-- Of the copies that queue again one by one, each was sent before the first of them did. -/
theorem Inv.entered_requeueUntil (time : Nat) : ∀ (count : Nat) {t : Tracked}, t.Inv →
    time ≤ t.bus.now → Entered (fun c s => t.history c ≠ [] ∧ s.isReturn = true) t.history
      (t.requeueUntil time count).history
  | 0, _, _, _ => .refl _ _
  | count + 1, t, h, now => by
    unfold Tracked.requeueUntil
    split
    · rename_i d c rest first
      split
      · rename_i due
        have one : Entered (fun c s => t.history c ≠ [] ∧ s.isReturn = true) t.history
            (t.requeue d c rest).history := by
          have sent := h.sent_of_mem_spots
            (mem_spots_of_delayed (first ▸ List.mem_cons_self : (d, c) ∈ t.delayed))
          unfold Tracked.requeue
          split
          · exact .note_one ⟨sent, rfl⟩
          · exact .note_one ⟨sent, rfl⟩
        have same : (t.requeue d c rest).bus.now = t.bus.now := by
          unfold Tracked.requeue
          split <;> rfl
        refine one.trans ((entered_requeueUntil time count
          (h.requeue first (Nat.le_trans due now)) (same ▸ now)).mono fun c' s new => ?_)
        exact ⟨(one.ne_nil_iff (fun _ _ new => new.1) c').1 new.1, new.2⟩
      · exact .refl _ _
    · exact .refl _ _

/-- **A call enters nothing but its own stages.** -/
theorem Inv.entered_after (h : t.Inv) (call : Bus.Call) :
    Entered (t.Enters call) t.history (t.after call).history := by
  cases call with
  | publish subject octets =>
    show Entered _ t.history (t.publish subject octets).history
    unfold Tracked.publish
    split
    · exact .note fun c hc => ⟨rfl, hc⟩
    · exact .refl _ _
  | next id => exact h.entered_next id
  | ack receipt => exact h.entered_ack receipt
  | nak receipt => exact h.entered_nak receipt
  | unsubscribe id => exact h.entered_unsubscribe id
  | pass duration =>
    have later : Inv { t with bus := { t.bus with now := t.bus.now + duration } } :=
      h.onBus (.of_eq rfl (Nat.le_add_right _ _) (Nat.le_refl _) rfl rfl) rfl rfl rfl h.numbered
        fun _ => id
    exact later.entered_requeueUntil _ _ (Nat.le_refl _)
  | subscribe | failOn | close => exact .refl _ _

end Tracked

end Marketplace
