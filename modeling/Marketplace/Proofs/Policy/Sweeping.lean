import Marketplace.Proofs.Policy.Session

/-!
# Sweeping changes nothing that can be seen

Two caches are used alike, but only one of them is swept. They hold different entries: where one has
none, the other keeps an expired one with the grants of old. What both serve from now on is the
same, and every call after it depends on that alone.

## Results

* `Alike.perform`: one call comes out the same and leaves the caches alike.
* `Alike.sweep`: one cache may be swept.
* `sweeps_invisible`: a run and the same run without its sweeps.
-/

namespace Marketplace

namespace CacheSession

variable {settings : CacheSettings} {u : Upstream} {s t : State} {c : Call} {time now : Nat}

/-- From a moment on both caches serve the same; and both sources were asked the same. -/
structure Alike (time : Nat) (s t : State) : Prop where
  log : s.log = t.log
  served : ∀ later, time ≤ later → ∀ subject,
    s.cache.resident? later subject = t.cache.resident? later subject

namespace Alike

theorem refl (time : Nat) (s : State) : Alike time s s := ⟨rfl, fun _ _ _ => rfl⟩

theorem later (h : Alike time s t) (le : time ≤ now) : Alike now s t :=
  ⟨h.log, fun later hl => h.served later (Nat.le_trans le hl)⟩

/-- **A call** comes out the same in both, and leaves them alike. -/
theorem perform (settings : CacheSettings) (u : Upstream) (h : Alike time s t)
    (le : time ≤ c.time) (stays : c.isSweep = false) :
    (perform settings u s c).1 = (perform settings u t c).1 ∧
      Alike c.done (perform settings u s c).2 (perform settings u t c).2 := by
  obtain ⟨now, request, done, taken⟩ := c
  cases request with
  | get subject =>
    have same := h.served now le subject
    unfold CacheSession.perform
    dsimp only
    rw [h.log, GrantCache.answer_serve_eq, GrantCache.asked_serve, GrantCache.answer_serve_eq,
      GrantCache.asked_serve, same]
    refine ⟨rfl, rfl, fun later hl j => ?_⟩
    have hl : now ≤ later := Nat.le_trans taken hl
    dsimp only
    rw [GrantCache.resident?_serve _ _ _ hl, GrantCache.resident?_serve _ _ _ hl, same,
      h.served later (Nat.le_trans le hl)]
  | update m g =>
    have same := h.served now le g.subject
    have alike := h.later (Nat.le_trans le taken)
    unfold CacheSession.perform
    dsimp only
    rcases GrantCache.update_of_served settings m same with ⟨e, hs, ht⟩ | ⟨d, d', hs, ht⟩
    · rw [hs, ht]
      exact ⟨rfl, alike⟩
    · rw [hs, ht]
      refine ⟨rfl, h.log, fun later hl j => ?_⟩
      dsimp only
      rw [GrantCache.resident?_update hs, GrantCache.resident?_update ht, alike.served later hl]
  | sweep => cases stays

/-- **A sweep** of one of them leaves them alike. -/
theorem sweep (h : Alike time s t) (le : time ≤ c.time) (swept : c.isSweep = true) :
    Alike c.done (CacheSession.perform settings u s c).2 t := by
  obtain ⟨now, request, done, taken⟩ := c
  cases request with
  | get subject => cases swept
  | update m g => cases swept
  | sweep =>
    refine ⟨h.log, fun later hl j => ?_⟩
    have hl : now ≤ later := Nat.le_trans taken hl
    exact (GrantCache.resident?_sweep hl).trans (h.served later (Nat.le_trans le hl) j)

end Alike

/-- The calls that are no sweeps. -/
def unswept (calls : List Call) : List Call := calls.filter fun c => !c.isSweep

/-- The calls of a run that are no sweeps come out as without the sweeps. -/
theorem Alike.history : ∀ {calls : List Call} {time : Nat} {s t : State}, Alike time s t →
    InTurn time calls → (history settings u s calls).filter (fun r => !r.call.isSweep) =
      history settings u t (unswept calls)
  | [], _, _, _, _, _ => rfl
  | c :: calls, time, s, t, h, inTurn => by
    obtain ⟨le, inTurn⟩ := inTurn.cons
    have keeps : (!(CacheSession.perform settings u s c).1.call.isSweep) = !c.isSweep := by
      rw [perform_call]
    unfold unswept
    cases hc : c.isSweep with
    | true =>
      rw [history_cons, List.filter_cons_of_neg (by simp [keeps, hc]),
        List.filter_cons_of_neg (by simp [hc])]
      exact (h.sweep le hc).history inTurn
    | false =>
      obtain ⟨row, next⟩ := h.perform settings u le hc
      rw [history_cons, List.filter_cons_of_pos (by simp [keeps, hc]),
        List.filter_cons_of_pos (by simp [hc]), history_cons, row]
      exact congrArg _ (next.history inTurn)

/-- A run leaves the cache alike with or without its sweeps. -/
theorem Alike.after (settings : CacheSettings) (u : Upstream) :
    ∀ {calls : List Call} {time : Nat} {s t : State}, Alike time s t → InTurn time calls →
      time ≤ now → (∀ c ∈ calls, c.done ≤ now) →
      Alike now (after settings u s calls) (after settings u t (unswept calls))
  | [], _, _, _, h, _, le, _ => h.later le
  | c :: calls, time, s, t, h, inTurn, _, ended => by
    obtain ⟨le, inTurn⟩ := inTurn.cons
    obtain ⟨ends, ended⟩ := List.forall_mem_cons.1 ended
    unfold unswept
    cases hc : c.isSweep with
    | true =>
      rw [List.filter_cons_of_neg (by simp [hc])]
      exact (h.sweep le hc).after settings u inTurn ends ended
    | false =>
      rw [List.filter_cons_of_pos (by simp [hc])]
      exact (h.perform settings u le hc).2.after settings u inTurn ends ended

/-- **Sweeping is invisible.** Without its sweeps a run has the same calls come out the same, each
after the same queries to the source; and after any part of it, the source was asked the same and
as many subjects are served at every moment from then on. -/
theorem sweeps_invisible (settings : CacheSettings) (u : Upstream) {calls : List Call}
    (inTurn : calls.Pairwise fun c d => c.done ≤ d.time) :
    (history settings u .start calls).filter (fun r => !r.call.isSweep) =
        history settings u .start (unswept calls) ∧
      ∀ past now, past <+: calls → (∀ c ∈ past, c.done ≤ now) →
        (after settings u .start past).log = (after settings u .start (unswept past)).log ∧
        (after settings u .start past).cache.residentCount now =
          (after settings u .start (unswept past)).cache.residentCount now := by
  have fromStart : ∀ {past}, past <+: calls → InTurn 0 past := fun part =>
    ⟨fun _ _ => Nat.zero_le _, inTurn.sublist part.sublist⟩
  refine ⟨(Alike.refl 0 .start).history (fromStart List.prefix_rfl), ?_⟩
  intro past now part ended
  have alike := (Alike.refl 0 .start).after settings u (fromStart part) (Nat.zero_le now) ended
  exact ⟨alike.log, GrantCache.residentCount_congr (alike.served now (Nat.le_refl now))⟩

/-! ## A cache that is swept twice -/

/-- A source that is down at a moment, fails at every fifth query, and names another subject. -/
def sampleUpstream : Upstream := fun log time subject t =>
  if time = 20 ∨ log.length % 5 = 0 then .error (.unavailable "down")
  else .ok [subject ++ ":" ++ t ++ ":get:7", "9:" ++ t ++ ":get:*", "no grant"]

/-- An answer in part, a full one that expires, one that fails, and another full one. -/
def sampleCalls : List Call :=
  [⟨0, .get "1", 2, by decide⟩, .atOnce 2 .sweep, .atOnce 3 (.get "1"),
    .atOnce 4 (.update .put ⟨"1", Resource.orders, Action.put, "9"⟩), .atOnce 5 (.get "2"),
    .atOnce 20 (.get "1"), .atOnce 21 .sweep,
    .atOnce 22 (.update .delete ⟨"1", Resource.orders, Action.put, "9"⟩), ⟨23, .get "1", 24, by decide⟩]

/-- The cache that was not swept holds more entries, and serves as many. -/
theorem sweeps_invisible_of_sampleCalls :
    let swept := after sampleSettings sampleUpstream .start sampleCalls
    let kept := after sampleSettings sampleUpstream .start (unswept sampleCalls)
    swept.cache.entries.size < kept.cache.entries.size ∧
      swept.cache.residentCount 24 = kept.cache.residentCount 24 ∧ swept.log = kept.log := by
  have inTurn : sampleCalls.Pairwise fun c d => c.done ≤ d.time := by decide
  have ended : ∀ c ∈ sampleCalls, c.done ≤ 24 := by decide
  obtain ⟨log, count⟩ := (sweeps_invisible sampleSettings sampleUpstream inTurn).2 sampleCalls 24
    List.prefix_rfl ended
  exact ⟨by decide +kernel, count, log⟩

end CacheSession

end Marketplace
