import Mathlib.Algebra.BigOperators.Group.List.Basic
import Mathlib.Algebra.Ring.Nat
import Marketplace.Proofs.Bus.Delivery

/-!
# The counts of a bus

The bus counts acknowledgements and refusals. Over a whole run its counts are what the histories of
the copies say, so they can be split by subscription.

## Results

* `Bus.counts_run`: the bus has counted each acknowledgement and each refusal of a copy.
-/

namespace Marketplace

/-- How often stages of a kind occur in the histories of some copies. -/
def tally (P : Stage → Bool) (cs : List Copy) (history : Copy → List Stage) : Nat :=
  (cs.map fun c => (history c).countP P).sum

section Tally

variable {P : Stage → Bool} {cs cs' : List Copy} {history history' : Copy → List Stage}

theorem tally_append (P : Stage → Bool) (cs cs' : List Copy) (history : Copy → List Stage) :
    tally P (cs ++ cs') history = tally P cs history + tally P cs' history := by
  unfold tally
  rw [List.map_append, List.sum_append]

theorem tally_congr (h : ∀ c ∈ cs, (history' c).countP P = (history c).countP P) :
    tally P cs history' = tally P cs history :=
  congrArg List.sum (List.map_congr_left h)

theorem tally_eq_zero (h : ∀ c ∈ cs, ∀ s ∈ history c, P s = false) : tally P cs history = 0 := by
  unfold tally
  rw [List.sum_eq_zero]
  intro n hn
  obtain ⟨c, hc, rfl⟩ := List.mem_map.1 hn
  exact List.countP_eq_zero.2 fun s hs => by simp [h c hc s hs]

/-- Copies whose histories hold one such stage each are as many as the tally says. -/
theorem tally_eq_length (h : ∀ c ∈ cs, (history c).countP P = 1) :
    tally P cs history = cs.length := by
  unfold tally
  rw [List.map_congr_left h, List.map_const', List.sum_replicate_nat, Nat.mul_one]

/-- Stages of other kinds do not count. -/
theorem tally_of_entered {Q : Copy → Stage → Prop} (h : Entered Q history history')
    (other : ∀ c ∈ cs, ∀ s, Q c s → P s = false) : tally P cs history' = tally P cs history := by
  refine tally_congr fun c hc => ?_
  obtain ⟨news, grown, kind⟩ := h c
  rw [grown, List.countP_append, List.countP_eq_zero.2, Nat.zero_add]
  exact fun s hs => by simp [other c hc s (kind s hs)]

/-- A stage that is entered for one copy counts once. -/
theorem tally_note_one {d : Copy} {s : Stage} (nodup : cs.Nodup) (hd : d ∈ cs) (hs : P s = true) :
    tally P cs (note [d] s history) = tally P cs history + 1 := by
  obtain ⟨before, rest, rfl⟩ := List.append_of_mem hd
  rw [List.nodup_append, List.nodup_cons] at nodup
  obtain ⟨-, ⟨apart, -⟩, apart'⟩ := nodup
  have others : ∀ c ∈ before ++ rest, note [d] s history c = history c := by
    intro c hc
    refine note_one_of_ne fun same => ?_
    subst same
    rcases List.mem_append.1 hc with hc | hc
    · exact apart' c hc c List.mem_cons_self rfl
    · exact apart hc
  have same (cs' : List Copy) (h : ∀ c ∈ cs', c ∈ before ++ rest) :
      tally P cs' (note [d] s history) = tally P cs' history :=
    tally_congr fun c hc => by rw [others c (h c hc)]
  have cons (history : Copy → List Stage) : tally P (before ++ d :: rest) history =
      tally P before history + ((history d).countP P + tally P rest history) := by
    rw [tally_append]
    rfl
  rw [cons, cons, same before fun c hc => List.mem_append_left _ hc,
    same rest fun c hc => List.mem_append_right _ hc, note_one_self,
    List.countP_cons_of_pos hs]
  omega

/-- The copies of a kind and the others make up all. -/
theorem tally_filter (P : Stage → Bool) (own : Copy → Bool) (cs : List Copy)
    (history : Copy → List Stage) : tally P cs history =
      tally P (cs.filter own) history + tally P (cs.filter fun c => !own c) history := by
  rw [← tally_append]
  exact ((List.filter_append_perm own cs).map _).sum_eq.symm

end Tally

namespace Stage

/-- An acknowledgement. -/
def isAck : Stage → Bool
  | acked => true
  | _ => false

/-- A delivery was answered. -/
def isAnswer (s : Stage) : Bool := s.isAck || s.isRefusal

theorem isAnswer_eq_false {s : Stage} (h : s.isAnswer = false) :
    s.isAck = false ∧ s.isRefusal = false := by
  unfold isAnswer at h
  exact Bool.or_eq_false_iff.1 h

end Stage

namespace Bus

/-- The counts of a bus. -/
def counts (b : Bus) : Nat × Nat := (b.acked, b.naked)

theorem counts_requeueUntil (time : Nat) : ∀ (count : Nat) (b : Bus),
    (b.requeueUntil time count).counts = b.counts
  | 0, _ => rfl
  | count + 1, b => by
    unfold requeueUntil
    split
    · split
      · exact counts_requeueUntil time count (b.requeue _ _)
      · rfl
    · rfl

/-- **Only an answer to a delivery is counted.** -/
theorem counts_after {call : Call} (acks : ∀ receipt, call ≠ .ack receipt)
    (naks : ∀ receipt, call ≠ .nak receipt) (b : Bus) : (b.after call).counts = b.counts := by
  cases call with
  | ack receipt => exact (acks receipt rfl).elim
  | nak receipt => exact (naks receipt rfl).elim
  | subscribe subject consumer =>
    show (b.subscribe subject consumer).2.counts = b.counts
    unfold subscribe
    split <;> rfl
  | publish subject octets =>
    show (b.publish subject octets).2.counts = b.counts
    rcases publish_eq subject octets b with ⟨err, attempts, eq⟩ | ⟨attempts, eq⟩ <;> rw [eq] <;> rfl
  | next id =>
    show (b.next id).2.counts = b.counts
    unfold next
    split <;> rfl
  | pass duration => exact counts_requeueUntil _ _ b
  | unsubscribe | failOn | close => rfl

end Bus

namespace Tracked

variable {t : Tracked}

/-- The answers that a call gives are counted: none, or one acknowledgement, or one refusal. -/
theorem Inv.counts_after (h : t.Inv) (call : Bus.Call) :
    ((t.after call).bus.counts = t.bus.counts ∧
      Entered (fun _ s => s.isAnswer = false) t.history (t.after call).history) ∨
    ∃ d s, t.history d ≠ [] ∧ (t.after call).history = note [d] s t.history ∧
      ((s.isAck = true ∧ s.isRefusal = false ∧
          (t.after call).bus.counts = (t.bus.acked + 1, t.bus.naked)) ∨
        (s.isAck = false ∧ s.isRefusal = true ∧
          (t.after call).bus.counts = (t.bus.acked, t.bus.naked + 1))) := by
  rw [(h.after call).2]
  by_cases acks : ∃ receipt, call = .ack receipt
  · obtain ⟨receipt, rfl⟩ := acks
    show ((t.bus.ack receipt).counts = _ ∧ Entered _ _ (t.ack receipt).history) ∨ _
    cases found : t.held.find? fun x => x.1.receipt == receipt with
    | none =>
      refine .inl ⟨by rw [Bus.ack_of_none (h.find?_held_eq_none found)], ?_⟩
      unfold Tracked.ack
      rw [found]
      exact .refl _ _
    | some x =>
      refine .inr ⟨x.2, .acked, (h.holds found).1, ?_, .inl ⟨rfl, rfl, ?_⟩⟩
      · show (t.ack receipt).history = _
        unfold Tracked.ack
        rw [found]
      · show (t.bus.ack receipt).counts = _
        rw [Bus.ack_of_find (h.held_split found).1]
        rfl
  by_cases naks : ∃ receipt, call = .nak receipt
  · obtain ⟨receipt, rfl⟩ := naks
    show ((t.bus.nak receipt).2.counts = _ ∧ Entered _ _ (t.nak receipt).history) ∨ _
    cases found : t.held.find? fun x => x.1.receipt == receipt with
    | none =>
      refine .inl ⟨by rw [Bus.nak_of_none (h.find?_held_eq_none found)], ?_⟩
      unfold Tracked.nak
      rw [found]
      exact .refl _ _
    | some x =>
      have counted : (t.bus.nak receipt).2.counts = (t.bus.acked, t.bus.naked + 1) := by
        rw [Bus.nak_of_find (h.held_split found).1]
        dsimp only
        split
        · rfl
        · split <;> rfl
      have noted : ∃ s, s.isAck = false ∧ s.isRefusal = true ∧
          (t.nak receipt).history = note [x.2] s t.history := by
        unfold Tracked.nak
        rw [found]
        dsimp only
        split
        · exact ⟨_, rfl, rfl, rfl⟩
        · split <;> exact ⟨_, rfl, rfl, rfl⟩
      obtain ⟨s, other, refusal, noted⟩ := noted
      exact .inr ⟨x.2, s, (h.holds found).1, noted, .inr ⟨other, refusal, counted⟩⟩
  · have acks : ∀ receipt, call ≠ .ack receipt := fun r he => acks ⟨r, he⟩
    have naks : ∀ receipt, call ≠ .nak receipt := fun r he => naks ⟨r, he⟩
    refine .inl ⟨Bus.counts_after acks naks t.bus, (h.entered_after call).mono fun c s new => ?_⟩
    cases call with
    | ack receipt => exact (acks receipt rfl).elim
    | nak receipt => exact (naks receipt rfl).elim
    | publish => exact new.1 ▸ rfl
    | next =>
      obtain ⟨-, -, k, r, u, rfl⟩ := new
      rfl
    | unsubscribe => exact new.2.2 ▸ rfl
    | pass => cases s <;> simp_all [Enters, Stage.isReturn, Stage.isAnswer, Stage.isAck, Stage.isRefusal]
    | subscribe | failOn | close => exact new.elim

end Tracked

namespace Bus

/-- What a call makes are new copies. -/
theorem made_fresh {t : Tracked} (h : t.Inv) (call : Call) :
    (t.bus.made call).Nodup ∧ ∀ c ∈ t.bus.made call, t.history c = [] := by
  cases call with
  | publish subject octets =>
    rcases publish_eq subject octets t.bus with ⟨err, attempts, eq⟩ | ⟨attempts, eq⟩
    · have none : t.bus.made (.publish subject octets) = [] := by
        unfold made
        dsimp only
        rw [eq]
      rw [none]
      exact ⟨.nil, fun _ hc => nomatch hc⟩
    · rw [Tracked.made_publish t eq]
      refine ⟨h.nodup_sent subject octets, fun c hc => ?_⟩
      obtain ⟨x, hx, rfl⟩ := List.mem_map.1 hc
      obtain ⟨s, -, -, -, rfl⟩ := Tracked.mem_sent.1 hx
      by_contra sent
      exact Nat.lt_irrefl _ (h.chronicle.message_lt sent)
  | _ => exact ⟨.nil, fun _ hc => nomatch hc⟩

theorem copiesOf_concat (settings : BusSettings) (calls : List Call) (call : Call) :
    copiesOf settings (calls ++ [call]) =
      copiesOf settings calls ++ (Tracked.run settings calls).bus.made call := by
  unfold copiesOf
  rw [collect_concat, (Tracked.inv_run settings calls).2]
  rfl

/-- A run makes no copy twice. -/
theorem nodup_copiesOf (settings : BusSettings) (calls : List Call) :
    (copiesOf settings calls).Nodup := by
  induction calls using List.reverseRecOn with
  | nil => exact .nil
  | append_singleton calls call ih =>
    obtain ⟨nodup, fresh⟩ := made_fresh (Tracked.inv_run settings calls).1 call
    rw [copiesOf_concat, List.nodup_append]
    refine ⟨ih, nodup, fun c hc d hd same => ?_⟩
    exact (Tracked.sent_run settings calls c).2 hc (fresh c (same ▸ hd))

/-- Copies that a call makes have no answer. -/
theorem isAnswer_made {t : Tracked} (h : t.Inv) {call : Call} {c : Copy} (hc : c ∈ t.bus.made call)
    {s : Stage} (hs : s ∈ (t.after call).history c) : s.isAnswer = false := by
  have made : ∃ subject octets, call = .publish subject octets := by
    cases call with
    | publish subject octets => exact ⟨subject, octets, rfl⟩
    | _ => cases hc
  obtain ⟨subject, octets, rfl⟩ := made
  rcases (h.entered_after _).mem hs with new | old
  · obtain ⟨rfl, -⟩ := new
    rfl
  · rw [(made_fresh h _).2 c hc] at old
    cases old

/-- **The bus has counted each acknowledgement and each refusal of a copy.** -/
theorem counts_run (settings : BusSettings) (calls : List Call) :
    (run settings calls).counts =
      (tally Stage.isAck (copiesOf settings calls) (Tracked.run settings calls).history,
        tally Stage.isRefusal (copiesOf settings calls) (Tracked.run settings calls).history) := by
  induction calls using List.reverseRecOn with
  | nil => rfl
  | append_singleton calls call ih =>
    obtain ⟨inv, same⟩ := Tracked.inv_run settings calls
    rw [run_concat, ← same, ← (inv.after call).2, copiesOf_concat, tally_append, tally_append,
      Tracked.run_concat,
      tally_eq_zero fun _ hc _ hs => (Stage.isAnswer_eq_false (isAnswer_made inv hc hs)).1,
      tally_eq_zero fun _ hc _ hs => (Stage.isAnswer_eq_false (isAnswer_made inv hc hs)).2]
    rw [← same] at ih
    obtain ⟨acked, naked⟩ := Prod.mk.injEq .. ▸ ih
    rcases inv.counts_after call with ⟨kept, entered⟩ | ⟨d, s, sent, noted, answer⟩
    · rw [kept, tally_of_entered entered fun _ _ s hs => (Stage.isAnswer_eq_false hs).1,
        tally_of_entered entered fun _ _ s hs => (Stage.isAnswer_eq_false hs).2, ih]
      rfl
    · have nodup := nodup_copiesOf settings calls
      have hd := (Tracked.sent_run settings calls d).1 sent
      have entered (P : Stage → Bool) (other : P s = false) :
          tally P (copiesOf settings calls) (note [d] s (Tracked.run settings calls).history) =
            tally P (copiesOf settings calls) (Tracked.run settings calls).history :=
        tally_of_entered (Q := fun _ u => u = s) (.note_one rfl) fun _ _ u hu => hu ▸ other
      rw [noted]
      rcases answer with ⟨ack, other, counted⟩ | ⟨other, nak, counted⟩
      · rw [counted, tally_note_one nodup hd ack, entered _ other, acked, naked]
        rfl
      · rw [counted, tally_note_one nodup hd nak, entered _ other, acked, naked]
        rfl

end Bus

end Marketplace
