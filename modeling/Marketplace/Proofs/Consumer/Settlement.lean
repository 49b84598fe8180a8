import Mathlib.Logic.Relation
import Marketplace.Market.Basic
import Marketplace.Proofs.Consumer.Shift

/-!
# Every message is settled exactly once

A consumer works off its subscriptions without a limit on deliveries, while others use the bus in
any way that leaves them to it. Whatever its handler answers and in whatever order messages come
back: a copy of a message that is not for the handler is acknowledged without reaching it, and any
other is handled until it no longer ends in a retryable error, acknowledged then, and never handled
again. The counts of the bus say how often.

## Results

* `Consumer.settled_once`: at any time, every copy has been settled as it should, or is still on its
  way; when nothing is on its way any more, every copy has been acknowledged.
* `Staff.run_steps`: what the staff of a consumer does is such work.
-/

namespace Marketplace

open Connected

variable {σ ε : Type}

/-! ## The fate of a copy -/

/-- A handler failed. -/
def Verdict.failed (e : ε) : Verdict ε := .handled (.error e)

namespace Handler

variable [Retryable ε]

/-- Handling a message calls the bus only in ways that leave some subscriptions to their receiver. -/
def Spares [Connected σ] (h : Handler σ ε) (ids : List Nat) : Prop :=
  ∀ octets s, ∃ calls : List Bus.Call,
    bus (h.dispatch octets s).state = calls.foldl Bus.after (bus s) ∧
      Bus.SparesAll ids (bus s) calls

/-- The verdicts on a message that was settled: the handler never saw it, or it failed with
retryable errors, any number of times, and then succeeded or failed otherwise. -/
inductive Settled (h : Handler σ ε) (octets : ByteArray) : List (Verdict ε) → Prop
  | unread (foreign : ¬ h.Takes octets) : Settled h octets [.unread]
  | handled (taken : h.Takes octets) {failures : List ε}
      (again : ∀ e ∈ failures, Retryable.isRetryable e = true) {result : Except ε Unit}
      (last : ∀ e, result = .error e → Retryable.isRetryable e = false) :
      Settled h octets (failures.map Verdict.failed ++ [.handled result])

/-- The verdicts on a message that is not settled yet. -/
inductive Unsettled (h : Handler σ ε) (octets : ByteArray) : List (Verdict ε) → Prop
  | fresh : Unsettled h octets []
  | failed (taken : h.Takes octets) {failures : List ε}
      (again : ∀ e ∈ failures, Retryable.isRetryable e = true) :
      Unsettled h octets (failures.map Verdict.failed)

variable {h : Handler σ ε} {octets : ByteArray} {vs : List (Verdict ε)}

/-- Verdicts that call for another delivery are retryable failures. -/
theorem exists_failures : ∀ {vs : List (Verdict ε)}, (∀ v ∈ vs, v.isRetry = true) →
    ∃ failures : List ε, vs = failures.map Verdict.failed ∧
      ∀ e ∈ failures, Retryable.isRetryable e = true
  | [], _ => ⟨[], rfl, fun _ he => nomatch he⟩
  | v :: vs, retry => by
    obtain ⟨failures, rfl, again⟩ := exists_failures fun u hu => retry u (List.mem_cons_of_mem v hu)
    have first := retry v List.mem_cons_self
    match v, first with
    | .handled (.error e), first =>
      exact ⟨e :: failures, rfl, List.forall_mem_cons.2 ⟨first, again⟩⟩

theorem unsettled_of_retry (read : ∀ v ∈ vs, v = .unread ↔ ¬ h.Takes octets)
    (retry : ∀ v ∈ vs, v.isRetry = true) : h.Unsettled octets vs := by
  cases vs with
  | nil => exact .fresh
  | cons v vs =>
    obtain ⟨failures, same, again⟩ := exists_failures retry
    have taken : h.Takes octets := by
      by_contra foreign
      have retried := retry v List.mem_cons_self
      rw [(read v List.mem_cons_self).2 foreign] at retried
      cases retried
    rw [same]
    exact .failed taken again

theorem settled_of_last {v : Verdict ε} (read : ∀ u ∈ vs ++ [v], u = .unread ↔ ¬ h.Takes octets)
    (retry : ∀ u ∈ vs, u.isRetry = true) (last : v.isRetry = false) :
    h.Settled octets (vs ++ [v]) := by
  by_cases taken : h.Takes octets
  · obtain ⟨failures, rfl, again⟩ := exists_failures retry
    match v, last with
    | .unread, _ => exact ((read .unread (by simp)).1 rfl taken).elim
    | .handled result, last =>
      refine .handled taken again fun e he => ?_
      rw [he] at last
      exact last
  · have none : vs = [] := by
      cases vs with
      | nil => rfl
      | cons u vs =>
        have retried := retry u List.mem_cons_self
        rw [(read u List.mem_cons_self).2 taken] at retried
        cases retried
    rw [none, (read v (by simp)).2 taken]
    exact .unread taken

end Handler

/-! ## What a consumer keeps to -/

/-- The copies for other subscriptions. -/
def otherCopies (ids : List Nat) (cs : List Copy) : List Copy :=
  cs.filter fun c => !decide (c.subscription ∈ ids)

theorem tally_own (P : Stage → Bool) (ids : List Nat) (cs : List Copy)
    (history : Copy → List Stage) :
    tally P cs history = tally P (ownCopies ids cs) history + tally P (otherCopies ids cs) history :=
  tally_filter P (fun c => decide (c.subscription ∈ ids)) cs history

/-- Nothing of some subscriptions is queued, in somebody's hands or to come back. -/
structure Bus.IsQuiet (b : Bus) (ids : List Nat) : Prop where
  waiting : ∀ p ∈ b.waiting, p.subscription ∉ ids
  held : ∀ x ∈ b.held, x.parcel.subscription ∉ ids
  delayed : ∀ d ∈ b.delayed, d.parcel.subscription ∉ ids

namespace Shift

variable [Connected σ] [Retryable ε]

/-- What is to hold at any time while a consumer works. -/
structure Settled (settings : BusSettings) (h : Handler σ ε) (ids : List Nat) (w : Shift σ ε) :
    Prop where
  bus : Connected.bus w.state = Bus.run settings w.calls
  /-- What is acknowledged was settled as it should be. -/
  acked : ∀ c ∈ ownCopies ids (Bus.copiesOf settings w.calls), .acked ∈ w.history settings c →
    ∃ m, (Connected.bus w.state).log[c.message]? = some m ∧ h.Settled m.2 (w.outcomes settings c)
  /-- What is not has failed with retryable errors only. -/
  unacked : ∀ c ∈ ownCopies ids (Bus.copiesOf settings w.calls), .acked ∉ w.history settings c →
    ∃ m, (Connected.bus w.state).log[c.message]? = some m ∧ h.Unsettled m.2 (w.outcomes settings c)
  /-- It is acknowledged once, after everything else. -/
  once : ∀ c, .acked ∈ w.history settings c →
    ∃ past, w.history settings c = .acked :: past ∧ .acked ∉ past
  /-- It is neither handled again nor anything else from then on. -/
  final : ∀ w', Relation.ReflTransGen (Step h ids) w w' →
    ∀ c ∈ ownCopies ids (Bus.copiesOf settings w.calls), .acked ∈ w.history settings c →
      w'.history settings c = w.history settings c ∧ w'.outcomes settings c = w.outcomes settings c
  /-- Nothing is given up. -/
  kept : ∀ c ∈ ownCopies ids (Bus.copiesOf settings w.calls), ∀ s ∈ w.history settings c,
    s.isGivenUp = false
  /-- Every delivery has a verdict or is in hand, and every verdict is on one delivery. -/
  judged : ∀ c ∈ ownCopies ids (Bus.copiesOf settings w.calls),
    ∀ r ∈ receiptsOf (w.history settings c),
      r ∈ w.book.map Prod.fst ∨ ∃ x, w.busy c.subscription = some x ∧ x.receipt = r
  booked : ∀ r ∈ w.book.map Prod.fst, ∃ c ∈ ownCopies ids (Bus.copiesOf settings w.calls),
    r ∈ receiptsOf (w.history settings c)
  nodup : (w.book.map Prod.fst).Nodup
  /-- The bus counts the retryable failures, besides what others refuse. -/
  naked : (Connected.bus w.state).naked = (w.book.countP fun y => y.2.isRetry) +
    tally Stage.isRefusal (otherCopies ids (Bus.copiesOf settings w.calls)) (w.history settings)
  /-- When nothing is on its way, every copy is acknowledged, and the bus counts them, besides what
  others acknowledge. -/
  quiet : (Connected.bus w.state).IsQuiet ids →
    (∀ id, w.busy id = none) ∧
    (∀ c ∈ ownCopies ids (Bus.copiesOf settings w.calls), .acked ∈ w.history settings c) ∧
    (Connected.bus w.state).acked = (ownCopies ids (Bus.copiesOf settings w.calls)).length +
      tally Stage.isAck (otherCopies ids (Bus.copiesOf settings w.calls)) (w.history settings)

variable {settings : BusSettings} {h : Handler σ ε} {ids : List Nat} {w w' : Shift σ ε}

/-! ## Growth along a shift -/

omit [Connected σ] [Retryable ε] in
theorem history_suffix (c : Copy) : ∀ (more : List Bus.Call) {w w' : Shift σ ε},
    w'.calls = w.calls ++ more → w.history settings c <:+ w'.history settings c
  | [], w, w', calls => by
    have same : w'.history settings c = w.history settings c := by
      unfold history
      rw [calls, List.append_nil]
    exact same ▸ List.suffix_refl _
  | call :: more, w, w', calls => by
    have first := ((Tracked.inv_run settings w.calls).1.entered_after call).suffix c
    have calls' : w'.calls = ({ w with calls := w.calls ++ [call] } : Shift σ ε).calls ++ more := by
      rw [calls, List.append_assoc]
      rfl
    have rest := history_suffix c more calls'
    rw [history_concat rfl] at rest
    exact first.trans rest

/-- Calls and verdicts are only added. -/
theorem Step.grows (step : Step h ids w w') :
    ∃ calls book, w'.calls = w.calls ++ calls ∧ w'.book = w.book ++ book := by
  cases step with
  | take => exact ⟨_, [], rfl, (List.append_nil _).symm⟩
  | finish => exact ⟨_, _, List.append_assoc .., rfl⟩
  | others => exact ⟨_, [], rfl, (List.append_nil _).symm⟩

theorem grows (work : Relation.ReflTransGen (Step h ids) w w') :
    ∃ calls book, w'.calls = w.calls ++ calls ∧ w'.book = w.book ++ book := by
  induction work with
  | refl => exact ⟨[], [], (List.append_nil _).symm, (List.append_nil _).symm⟩
  | tail _ step ih =>
    obtain ⟨calls, book, hc, hb⟩ := ih
    obtain ⟨calls', book', hc', hb'⟩ := step.grows
    exact ⟨calls ++ calls', book ++ book', by rw [hc', hc, List.append_assoc],
      by rw [hb', hb, List.append_assoc]⟩

/-! ## What the invariant says of a copy -/

omit [Connected σ] [Retryable ε] in
theorem sent_of_own {c : Copy} (own : c ∈ ownCopies ids (Bus.copiesOf settings w.calls)) :
    c.subscription ∈ ids ∧ w.history settings c ≠ [] :=
  ⟨(mem_ownCopies.1 own).2, (Tracked.sent_run settings w.calls c).2 (mem_ownCopies.1 own).1⟩

omit [Connected σ] [Retryable ε] in
theorem own_of_mem {c : Copy} (own : c.subscription ∈ ids) {s : Stage}
    (hs : s ∈ w.history settings c) : c ∈ ownCopies ids (Bus.copiesOf settings w.calls) :=
  mem_ownCopies.2 ⟨(Tracked.sent_run settings w.calls c).1 (List.ne_nil_of_mem hs), own⟩

theorem Inv.bus_eq (inv : Inv settings h ids w) :
    Connected.bus w.state = Bus.run settings w.calls :=
  inv.bus.trans (Tracked.inv_run settings w.calls).2

/-- The message of a copy, as its verdicts have read it. -/
theorem Inv.message (inv : Inv settings h ids w) {c : Copy}
    (own : c ∈ ownCopies ids (Bus.copiesOf settings w.calls)) :
    ∃ m, (Connected.bus w.state).log[c.message]? = some m ∧
      ∀ v ∈ w.outcomes settings c, v = .unread ↔ ¬ h.Takes m.2 := by
  obtain ⟨own, sent⟩ := sent_of_own own
  obtain ⟨s, octets, -, known⟩ := (Tracked.inv_run settings w.calls).1.chronicle.known c sent
  exact ⟨(s.subject, octets), inv.bus ▸ known, fun v hv => inv.read c own v hv _ known⟩

omit [Connected σ] [Retryable ε] in
/-- The stages of an own copy before the latest were answered with refusals. -/
theorem once_of_acked {c : Copy} (acked : .acked ∈ w.history settings c) :
    ∃ past, w.history settings c = .acked :: past ∧ ∀ s ∈ past, s.isMoving = true := by
  have journey := w.journey settings (List.ne_nil_of_mem acked)
  cases latest : w.history settings c with
  | nil => rw [latest] at acked; cases acked
  | cons s past =>
    rw [latest] at acked journey
    have moving := journey.isMoving_of_mem_tail
    rcases List.mem_cons.1 acked with rfl | later
    · exact ⟨past, rfl, moving⟩
    · cases moving _ later

theorem answer?_of_isMoving {s : Stage} (moving : s.isMoving = true) {b : Bool}
    (answer : s.answer? = some b) : b = true := by
  cases s <;> cases answer
  · rfl
  · cases moving

/-- **An acknowledged copy was settled as it should be.** -/
theorem Inv.acked (inv : Inv settings h ids w) {c : Copy}
    (own : c ∈ ownCopies ids (Bus.copiesOf settings w.calls)) (acked : .acked ∈ w.history settings c) :
    ∃ m, (Connected.bus w.state).log[c.message]? = some m ∧
      h.Settled m.2 (w.outcomes settings c) := by
  obtain ⟨m, message, read⟩ := inv.message own
  refine ⟨m, message, ?_⟩
  obtain ⟨past, latest, moving⟩ := once_of_acked acked
  have answers := inv.answers c (sent_of_own own).1
  rw [latest, List.filterMap_cons_some (show Stage.answer? .acked = some false from rfl),
    List.reverse_cons, List.map_eq_append_iff] at answers
  obtain ⟨vs, last, split, before, latest⟩ := answers
  obtain ⟨v, rfl, ended⟩ := List.map_eq_singleton_iff.1 latest
  rw [split] at read ⊢
  refine Handler.settled_of_last read (fun u hu => ?_) ended
  have answer := before ▸ List.mem_map_of_mem (f := Verdict.isRetry) hu
  obtain ⟨s, hs, answer⟩ := List.mem_filterMap.1 (List.mem_reverse.1 answer)
  exact answer?_of_isMoving (moving s hs) answer

/-- **A copy that is not acknowledged has failed with retryable errors only.** -/
theorem Inv.unacked (inv : Inv settings h ids w) {c : Copy}
    (own : c ∈ ownCopies ids (Bus.copiesOf settings w.calls))
    (unacked : .acked ∉ w.history settings c) :
    ∃ m, (Connected.bus w.state).log[c.message]? = some m ∧
      h.Unsettled m.2 (w.outcomes settings c) := by
  obtain ⟨m, message, read⟩ := inv.message own
  refine ⟨m, message, Handler.unsettled_of_retry read fun v hv => ?_⟩
  have answer := inv.answers c (sent_of_own own).1 ▸ List.mem_map_of_mem (f := Verdict.isRetry) hv
  obtain ⟨s, hs, answer⟩ := List.mem_filterMap.1 (List.mem_reverse.1 answer)
  have moving : s.isMoving = true := by
    have kept := inv.kept c (sent_of_own own).1 s hs
    cases s with
    | queued | handed | refused => rfl
    | acked => exact (unacked hs).elim
    | exhausted | lost | discarded => cases kept
  exact answer?_of_isMoving moving answer

/-- **Nothing happens to an acknowledged copy any more.** -/
theorem Inv.final (inv : Inv settings h ids w) (inv' : Inv settings h ids w')
    (work : Relation.ReflTransGen (Step h ids) w w') {c : Copy}
    (own : c ∈ ownCopies ids (Bus.copiesOf settings w.calls)) (acked : .acked ∈ w.history settings c) :
    w'.history settings c = w.history settings c ∧
      w'.outcomes settings c = w.outcomes settings c := by
  obtain ⟨calls, book, hc, hb⟩ := grows work
  have same : w'.history settings c = w.history settings c := by
    obtain ⟨past, latest, -⟩ := once_of_acked acked
    obtain ⟨past', latest', moving⟩ := once_of_acked ((history_suffix c calls hc).subset acked)
    have suffix : w.history settings c <:+ w'.history settings c := history_suffix c calls hc
    obtain ⟨news, grown⟩ := suffix
    cases news with
    | nil => exact grown.symm
    | cons s news =>
      rw [latest', latest, List.cons_append, List.cons.injEq] at grown
      cases moving .acked (grown.2 ▸ by simp)
  refine ⟨same, ?_⟩
  -- There is an outcome for each answer, and no answer was added.
  have own := (sent_of_own own).1
  have outcomes : w'.outcomes settings c = w.outcomes settings c ++
      book.filterMap fun y => if y.1 ∈ receiptsOf (w.history settings c) then some y.2 else none := by
    unfold Shift.outcomes
    rw [hb, List.filterMap_append, same]
  have answers := inv'.answers c own
  rw [same, ← inv.answers c own, outcomes, List.map_append, List.append_right_eq_self] at answers
  rw [outcomes, List.map_eq_nil_iff.1 answers, List.append_nil]

theorem Inv.naked (inv : Inv settings h ids w) :
    (Connected.bus w.state).naked = (w.book.countP fun y => y.2.isRetry) +
      tally Stage.isRefusal (otherCopies ids (Bus.copiesOf settings w.calls)) (w.history settings) := by
  have counts := congrArg Prod.snd (Bus.counts_run settings w.calls)
  rw [← inv.refusals, inv.bus_eq]
  exact counts.trans (tally_own ..)

/-- **When nothing is on its way, every copy is acknowledged.** -/
theorem Inv.quiet (inv : Inv settings h ids w) (quiet : (Connected.bus w.state).IsQuiet ids) :
    (∀ id, w.busy id = none) ∧
    (∀ c ∈ ownCopies ids (Bus.copiesOf settings w.calls), .acked ∈ w.history settings c) ∧
    (Connected.bus w.state).acked = (ownCopies ids (Bus.copiesOf settings w.calls)).length +
      tally Stage.isAck (otherCopies ids (Bus.copiesOf settings w.calls)) (w.history settings) := by
  obtain ⟨tracked, -⟩ := Tracked.inv_run settings w.calls
  rw [inv.bus] at quiet
  have still {c : Copy} (own : c.subscription ∈ ids) {s : Stage} {past : List Stage}
      (latest : w.history settings c = s :: past) : s.isMoving = false := by
    by_contra moving
    have covered := tracked.placed.covers c s
      (by rw [show (Tracked.run settings w.calls).history c = _ from latest]; rfl)
      (eq_true_of_ne_false moving)
    obtain ⟨⟨d, a⟩, hx, rfl⟩ := Multiset.mem_map.1 covered
    have named : a.parcel.subscription ∈ ids := (tracked.matched _ hx).1 ▸ own
    have here := Tracked.mem_spots.1 hx
    cases a with
    | queued p =>
      exact quiet.waiting p (tracked.waiting ▸ List.mem_map_of_mem (f := Prod.fst) here) named
    | held x => exact quiet.held x (tracked.held ▸ List.mem_map_of_mem (f := Prod.fst) here) named
    | delayed d =>
      exact quiet.delayed d (tracked.delayed ▸ List.mem_map_of_mem (f := Prod.fst) here) named
  have acked : ∀ c ∈ ownCopies ids (Bus.copiesOf settings w.calls),
      .acked ∈ w.history settings c := by
    intro c hc
    obtain ⟨own, sent⟩ := sent_of_own hc
    obtain ⟨s, past, latest⟩ := List.exists_cons_of_ne_nil sent
    have kept := inv.kept c own s (latest ▸ List.mem_cons_self)
    have still := still own latest
    rw [latest]
    cases s with
    | acked => exact List.mem_cons_self
    | queued | handed | refused => cases still
    | exhausted | lost | discarded => cases kept
  refine ⟨fun id => ?_, acked, ?_⟩
  · by_contra working
    obtain ⟨x, working⟩ := Option.ne_none_iff_exists'.1 working
    obtain ⟨own, c, u, past, rfl, -, latest⟩ := inv.busy id x working
    cases still own latest
  · have one : ∀ c ∈ ownCopies ids (Bus.copiesOf settings w.calls),
        (w.history settings c).countP Stage.isAck = 1 := by
      intro c hc
      obtain ⟨past, latest, moving⟩ := once_of_acked (acked c hc)
      rw [latest, List.countP_cons_of_pos rfl, List.countP_eq_zero.2]
      intro s hs
      have moving := moving s hs
      cases s <;> simp_all [Stage.isAck, Stage.isMoving]
    have counts := congrArg Prod.fst (Bus.counts_run settings w.calls)
    rw [← tally_eq_length one, inv.bus_eq]
    exact counts.trans (tally_own ..)

/-! ## A shift from its start -/

/-- The start of a shift: the consumer has subscribed to its names, after some calls. -/
def opening (r : Registry) (h : Handler σ ε) (consumer : String) (before : List Bus.Call) (s : σ) :
    Shift σ ε where
  state := s
  calls := before ++ Consumer.calls r h.names consumer
  busy := fun _ => none
  book := []

omit [Connected σ] [Retryable ε] in
/-- Subscribing enters nothing. -/
theorem history_opening (settings : BusSettings) (r : Registry) (h : Handler σ ε) (consumer : String)
    (before : List Bus.Call) (s : σ) :
    (opening r h consumer before s : Shift σ ε).history settings =
      (Tracked.run settings before).history := by
  have subscribed : ∀ calls : List Bus.Call,
      (∀ call ∈ calls, ∃ subject, call = .subscribe subject consumer) → ∀ t : Tracked,
      (calls.foldl Tracked.after t).history = t.history := by
    intro calls
    induction calls with
    | nil => exact fun _ _ => rfl
    | cons call calls ih =>
      intro all t
      obtain ⟨subject, rfl⟩ := all call List.mem_cons_self
      exact ih (fun call hc => all call (List.mem_cons_of_mem _ hc)) _
  funext c
  show (List.foldl Tracked.after (Tracked.new settings) _).history c = _
  rw [opening, List.foldl_append, subscribed]
  · rfl
  · intro call hc
    obtain ⟨name, -, asked⟩ := List.mem_filterMap.1 hc
    obtain ⟨subject, -, rfl⟩ := Option.map_eq_some_iff.1 asked
    exact ⟨subject, rfl⟩

/-- **A consumer that has started has nothing behind it.** -/
theorem Inv.opening {r : Registry} {h : Handler σ ε} {consumer : String} {before : List Bus.Call}
    {c : Consumer} {s : σ} (started : Consumer.start r h.names consumer (Bus.run settings before) =
      (.ok c, Connected.bus s)) :
    Inv settings h c.subscriptions (opening r h consumer before s) := by
  obtain ⟨tracked, same⟩ := Tracked.inv_run settings before
  obtain ⟨called, subscriptions, served⟩ := Consumer.start_eq (same ▸ tracked.numbered) started
  have bus : Connected.bus s =
      (Tracked.run settings (before ++ Consumer.calls r h.names consumer)).bus := by
    rw [called, (Tracked.inv_run settings _).2, Bus.run, Bus.run, List.foldl_append]
  -- What was sent before was sent to subscriptions with smaller numbers.
  have fresh : ∀ d, d.subscription ∈ c.subscriptions →
      (Shift.opening r h consumer before s : Shift σ ε).history settings d = [] := by
    intro d own
    rw [history_opening]
    by_contra sent
    obtain ⟨u, octets, found, -⟩ := tracked.chronicle.known d sent
    have known := tracked.numbered.lt_length found
    rw [subscriptions, List.mem_range'_1, ← same] at own
    omega
  exact {
    bus := bus
    served := fun id own => bus ▸ served id own
    busy := fun _ _ working => nomatch working
    judged := fun d own r hr => by
      rw [fresh d own] at hr
      cases hr
    booked := fun _ hy => nomatch hy
    nodup := .nil
    read := fun _ _ _ hv => nomatch hv
    answers := fun d own => by
      rw [fresh d own]
      rfl
    refusals := tally_eq_zero fun d hd u hu => by
      rw [fresh d (mem_ownCopies.1 hd).2] at hu
      cases hu
    kept := fun d own u hu => by
      rw [fresh d own] at hu
      cases hu }

variable [Lawful σ]

theorem Inv.work (unlimited : settings.limit = none) (inv : Inv settings h ids w)
    (work : Relation.ReflTransGen (Step h ids) w w') : Inv settings h ids w' := by
  induction work with
  | refl => exact inv
  | tail _ step ih => exact ih.step unlimited step

theorem Inv.settled (unlimited : settings.limit = none) (inv : Inv settings h ids w) :
    Settled settings h ids w where
  bus := inv.bus_eq
  acked := fun _ own => inv.acked own
  unacked := fun _ own => inv.unacked own
  once := fun c acked => by
    obtain ⟨past, latest, moving⟩ := once_of_acked acked
    exact ⟨past, latest, fun again => nomatch moving _ again⟩
  final := fun _ work _ own => inv.final (inv.work unlimited work) work own
  kept := fun c own => inv.kept c (sent_of_own own).1
  judged := fun c own => inv.judged c (sent_of_own own).1
  booked := fun r hr => by
    obtain ⟨y, hy, rfl⟩ := List.mem_map.1 hr
    obtain ⟨c, k, u, own, before⟩ := inv.booked y hy
    have told := List.mem_of_mem_tail before
    exact ⟨c, own_of_mem own told, mem_receiptsOf.2 ⟨k, u, told⟩⟩
  nodup := inv.nodup
  naked := inv.naked
  quiet := inv.quiet

end Shift

/-! ## The staff at work -/

section Work

variable [Connected σ] [Retryable ε] {h : Handler σ ε} {ids : List Nat} {w : Shift σ ε}

/-- Others call the bus. -/
def Shift.calling (call : Bus.Call) (w : Shift σ ε) : Shift σ ε :=
  { w with state := onBus (fun b => b.after call) w.state, calls := w.calls ++ [call] }

theorem Shift.Step.calling [Lawful σ] {call : Bus.Call} (spared : (bus w.state).Spares ids call) :
    Shift.Step h ids w (w.calling call) :=
  .others (bus_onBus _ _) ⟨spared, trivial⟩

namespace Staff

/-- Serving a subscription is to take its next message in hand and to finish it. -/
theorem serve_steps (spares : h.Spares ids) {id : Nat} (own : id ∈ ids)
    (free : ∀ id, w.busy id = none) : ∃ w', Relation.ReflTransGen (Shift.Step h ids) w w' ∧
      w'.state = serve h id w.state ∧ ∀ id, w'.busy id = none := by
  unfold serve
  split
  · rename_i receipt p b next
    have take := Shift.Step.take (h := h) own (free id) next
    obtain ⟨calls, effect, spared⟩ := spares p.octets (w.taken id ⟨receipt, p⟩ b).state
    have finish := Shift.Step.finish (x := ⟨receipt, p⟩) (Function.update_self ..) effect spared
    refine ⟨_, .tail (.tail .refl take) finish, rfl, fun id' => ?_⟩
    show Function.update (Function.update w.busy id _) id none id' = none
    rw [Function.update_idem]
    by_cases same : id' = id
    · rw [same, Function.update_self]
    · rw [Function.update_of_ne same, free id']
  · exact ⟨w, .refl, rfl, free⟩

omit [Connected σ] [Retryable ε] in
/-- Whoever is picked is on the staff. -/
theorem pick_mem {staff : Staff σ ε} {last : Option Nat} {b : Bus} {id : Nat}
    (picked : pick staff last b = some (id, h)) : staff id = some h := by
  have served : (id, h) ∈ b.waiting.filterMap fun p =>
      (staff p.subscription).map fun h => (p.subscription, h) := by
    unfold pick at picked
    dsimp only at picked
    split at picked
    · rename_i found
      obtain rfl := Option.some.inj picked
      exact List.mem_of_find?_eq_some found
    · exact List.mem_of_head? picked
  obtain ⟨p, -, found⟩ := List.mem_filterMap.1 served
  obtain ⟨h', employed, same⟩ := Option.map_eq_some_iff.1 found
  cases same
  exact employed

/-- **What the staff of a consumer does is such work**, however its turns are chosen. -/
theorem work_steps {staff : Staff σ ε} (crew : ∀ id h', staff id = some h' → id ∈ ids ∧ h' = h)
    (spares : h.Spares ids) : ∀ (budget : Nat) (last : Option Nat) {w : Shift σ ε},
    (∀ id, w.busy id = none) → ∃ w', Relation.ReflTransGen (Shift.Step h ids) w w' ∧
      w'.state = work staff budget last w.state ∧ ∀ id, w'.busy id = none
  | 0, _, w, free => ⟨w, .refl, rfl, free⟩
  | budget + 1, last, w, free => by
    unfold work
    split
    · exact ⟨w, .refl, rfl, free⟩
    · rename_i id h' picked
      obtain ⟨own, same⟩ := crew id h' (pick_mem picked)
      rw [same]
      obtain ⟨w', first, state, free'⟩ := serve_steps spares own free
      obtain ⟨w'', rest, state', free''⟩ := work_steps crew spares budget (some id) free'
      exact ⟨w'', first.trans rest, state ▸ state', free''⟩

end Staff

end Work

/-! ## Settled exactly once -/

/-- **Every message is settled exactly once**, by any handler, in any course of things: at any time
after a consumer has started on a bus without a limit on deliveries, and while it keeps its
subscriptions. -/
theorem Consumer.settled_once [Connected σ] [Lawful σ] [Retryable ε] {settings : BusSettings}
    (unlimited : settings.limit = none) {r : Registry} {h : Handler σ ε} {consumer : String}
    {before : List Bus.Call} {c : Consumer} {s : σ}
    (started : Consumer.start r h.names consumer (Bus.run settings before) = (.ok c, bus s))
    {w : Shift σ ε} (work : Relation.ReflTransGen (Shift.Step h c.subscriptions)
      (Shift.opening r h consumer before s) w) : w.Settled settings h c.subscriptions :=
  ((Shift.Inv.opening started).work unlimited work).settled unlimited

/-- The services of the market are connected in such a way. -/
instance : Connected.Lawful Market := ⟨fun _ _ => rfl⟩

/-- A service that fails a number of times. -/
structure Flaky where
  outlet : Outlet
  failures : Nat

instance : Connected Flaky where
  outlet s := s.outlet
  withOutlet o s := { s with outlet := o }

instance : Connected.Lawful Flaky := ⟨fun _ _ => rfl⟩

/-- Its handler of deleted accounts. -/
def flaky : Handler Flaky EventError where
  names := ["EventAccountDeleted"]
  accepts _ := true
  handle _ _ s :=
    match s.failures with
    | 0 => (.ok (), s)
    | n + 1 => (.error .noConnection, { s with failures := n })

/-- It does not call the bus. -/
theorem flaky_spares (ids : List Nat) : flaky.Spares ids := by
  intro octets s
  refine ⟨[], ?_, trivial⟩
  unfold Handler.dispatch
  split
  · rfl
  · rfl
  · obtain ⟨outlet, failures⟩ := s
    cases failures <;> rfl

/-- An event, and what is none. -/
def sampleDeletion : ByteArray :=
  ("[[\"1.0\",\"\",\"2023-12-31T23:59:59Z\",\"EventAccountDeleted\"," ++
    "\"00000000000040008000000000000001\",\"\"],[7]]").toUTF8

def sampleStaff : Staff Flaky EventError := fun id => if id ∈ [0] then some flaky else none

/-- What a message that is published does to the service. -/
def samplePublished (octets : ByteArray) : Flaky → Flaky :=
  onBus fun b => b.after (.publish "identitysvc.EventAccountDeleted" octets)

/-- Two messages wait for the service: an event, which it fails to handle at first, and one that is
no event and is settled while the first is to come back. -/
def sampleDay (s : Flaky) : Flaky :=
  let morning := sampleStaff.work 2 none (samplePublished "x".toUTF8 (samplePublished sampleDeletion s))
  sampleStaff.work 1 none (onBus (fun b => b.after (.pass 10)) morning)

theorem Consumer.settled_once_of_sampleDay : ∃ (c : Consumer) (s : Flaky) (w : Shift Flaky EventError),
    Bus.standardSettings.limit = none ∧
    Consumer.start .standard flaky.names "ordersvc" (Bus.run Bus.standardSettings []) =
      (.ok c, bus s) ∧
    Relation.ReflTransGen (Shift.Step flaky c.subscriptions)
      (Shift.opening .standard flaky "ordersvc" [] s) w ∧
    w.Settled Bus.standardSettings flaky c.subscriptions ∧
    (bus w.state).IsQuiet c.subscriptions ∧ (bus w.state).acked = 2 ∧ (bus w.state).naked = 1 := by
  have opened : (Consumer.start .standard flaky.names "ordersvc"
      (Bus.run Bus.standardSettings [])).1.toOption.map Consumer.subscriptions = some [0] := by
    decide +kernel
  obtain ⟨c, hc, subscriptions⟩ := Option.map_eq_some_iff.1 opened
  generalize hs : (⟨⟨(Consumer.start .standard flaky.names "ordersvc"
    (Bus.run Bus.standardSettings [])).2, .empty⟩, 1⟩ : Flaky) = s
  have started : Consumer.start .standard flaky.names "ordersvc" (Bus.run Bus.standardSettings []) =
      (.ok c, bus s) := by
    rw [← hs]
    refine Prod.ext ?_ rfl
    cases answer : (Consumer.start .standard flaky.names "ordersvc"
        (Bus.run Bus.standardSettings [])).1 with
    | ok c' =>
      rw [answer] at hc
      cases hc
      rfl
    | error e =>
      rw [answer] at hc
      cases hc
  have crew : ∀ id h', sampleStaff id = some h' → id ∈ c.subscriptions ∧ h' = flaky := by
    intro id h' employed
    unfold sampleStaff at employed
    split at employed
    · rename_i own
      exact ⟨subscriptions ▸ own, (Option.some.inj employed).symm⟩
    · cases employed
  have spares := flaky_spares c.subscriptions
  generalize hw : ((Shift.opening .standard flaky "ordersvc" [] s).calling
    (.publish "identitysvc.EventAccountDeleted" sampleDeletion)).calling
    (.publish "identitysvc.EventAccountDeleted" "x".toUTF8) = dawn
  have published : Relation.ReflTransGen (Shift.Step flaky c.subscriptions)
      (Shift.opening .standard flaky "ordersvc" [] s) dawn := by
    rw [← hw]
    exact (Relation.ReflTransGen.refl.tail (.calling trivial)).tail (.calling trivial)
  obtain ⟨noon, morning, state, free⟩ :=
    Staff.work_steps crew spares 2 none (w := dawn) (by rw [← hw]; exact fun _ => rfl)
  have passed : Shift.Step flaky c.subscriptions noon (noon.calling (.pass 10)) := .calling trivial
  obtain ⟨w, afternoon, state', -⟩ :=
    Staff.work_steps crew spares 1 none (w := noon.calling (.pass 10)) free
  have work := ((published.trans morning).tail passed).trans afternoon
  have day : w.state = sampleDay s := by
    rw [state', Shift.calling, state, ← hw]
    rfl
  have evening : ((bus (sampleDay s)).waiting.length, (bus (sampleDay s)).held.length,
      (bus (sampleDay s)).delayed.length, (bus (sampleDay s)).counts) = (0, 0, 0, 2, 1) := by
    rw [← hs]
    decide +kernel
  obtain ⟨waiting, held, delayed, counts⟩ : _ ∧ _ ∧ _ ∧ _ := by
    simpa only [Prod.mk.injEq, List.length_eq_zero_iff] using evening
  rw [← day] at waiting held delayed counts
  refine ⟨c, s, w, rfl, started, work, settled_once rfl started work, ?_, congrArg Prod.fst counts,
    congrArg Prod.snd counts⟩
  exact ⟨by simp [waiting], by simp [held], by simp [delayed]⟩

end Marketplace
