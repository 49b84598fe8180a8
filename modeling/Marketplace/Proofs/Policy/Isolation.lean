import Marketplace.Proofs.Policy.Session

/-!
# Subjects do not see each other

All subjects share one table of entries, every sweep runs through all of it, and a source may name
other subjects in its answers. Still, what a subject gets depends on its own entry and on the
queries that were made for it, and calls about other subjects touch neither.

The source has to play along: its answer to a query may depend on time, and on earlier queries for
the same subject, but not on queries for other subjects.

## Results

* `view_perform_of_other`: a call about another subject leaves the view of a subject as it is.
* `perform_of_view`: any other call depends on the view alone.
* `reported_perform`: what a subject is granted was reported as a grant of that subject.
* `subjects_isolated`: a run and the same run without the calls about other subjects.
-/

namespace Marketplace

namespace CacheSession

variable {settings : CacheSettings} {u : Upstream} {s t : State} {c : Call} {subject : String}

/-! ## What a subject can see -/

/-- The queries that were made for a subject. -/
def queriesFor (subject : String) (log : List Exchange) : List Exchange :=
  log.filter fun x => x.subject = subject

/-- A source whose answers depend on no query for another subject. -/
def Upstream.Independent (u : Upstream) : Prop :=
  ∀ log time subject t, u log time subject t = u (queriesFor subject log) time subject t

theorem Call.isFor_eq_false :
    c.isFor subject = false ↔ c.isSweep = false ∧ c.isAbout subject = false :=
  Bool.or_eq_false_iff

/-- The part of a state that is about one subject. -/
structure View where
  entry : Option CacheEntry
  queries : List Exchange

def State.view (subject : String) (s : State) : View :=
  ⟨s.cache.entries.get? subject, queriesFor subject s.log⟩

theorem queriesFor_append (subject : String) (log more : List Exchange) :
    queriesFor subject (log ++ more) = queriesFor subject log ++ queriesFor subject more :=
  List.filter_append ..

theorem queriesFor_eq_nil {log : List Exchange} (other : ∀ x ∈ log, x.subject ≠ subject) :
    queriesFor subject log = [] := by
  unfold queriesFor
  rw [List.filter_eq_nil_iff]
  intro x hx
  simpa using other x hx

theorem mem_queriesFor {log : List Exchange} {x : Exchange} :
    x ∈ queriesFor subject log ↔ x ∈ log ∧ x.subject = subject := by
  simp [queriesFor]

/-- What a fetch is answered depends on the queries for its subject alone. -/
theorem exchanges_congr (independent : u.Independent) (time : Nat) :
    ∀ (types : List String) {log log' : List Exchange},
      queriesFor subject log = queriesFor subject log' →
      exchanges u time subject types log = exchanges u time subject types log'
  | [], _, _, _ => rfl
  | t :: types, log, log', same => by
    have answer : u log time subject t = u log' time subject t := by
      rw [independent log, independent log', same]
    unfold exchanges
    dsimp only
    rw [answer]
    refine congrArg _ (exchanges_congr independent time types ?_)
    rw [queriesFor_append, queriesFor_append, same]

/-! ## One call -/

/-- **A call about another subject** changes nothing in the view of a subject. -/
theorem view_perform_of_other (settings : CacheSettings) (u : Upstream) (s : State)
    (other : c.isFor subject = false) :
    (perform settings u s c).2.view subject = s.view subject := by
  obtain ⟨stays, other⟩ := Call.isFor_eq_false.1 other
  obtain ⟨now, request, done, taken⟩ := c
  cases request with
  | get j =>
    have ne : subject ≠ j := by
      rintro rfl
      exact of_decide_eq_false other rfl
    have asked : ∀ types, queriesFor subject (exchanges u now j types s.log) = [] := fun types =>
      queriesFor_eq_nil fun x hx => by rw [subject_of_mem_exchanges hx]; exact ne.symm
    unfold perform State.view
    dsimp only
    rw [GrantCache.get?_serve_of_ne ne, queriesFor_append, asked, List.append_nil]
  | update m g =>
    have ne : subject ≠ g.subject := by
      rintro rfl
      exact of_decide_eq_false other rfl
    unfold perform State.view
    dsimp only
    cases hu : s.cache.update settings now m g with
    | error e => rfl
    | ok d =>
      dsimp only
      rw [GrantCache.get?_update_of_ne hu ne]
  | sweep => cases stays

/-- **Every other call** changes the view by what is in the view, and comes out by it if it is about
the subject. -/
theorem perform_of_view (settings : CacheSettings) (independent : u.Independent)
    (same : s.view subject = t.view subject) (own : c.isFor subject = true) :
    (c.isAbout subject = true → (perform settings u s c).1 = (perform settings u t c).1) ∧
      (perform settings u s c).2.view subject = (perform settings u t c).2.view subject := by
  obtain ⟨entry, queries⟩ := View.mk.inj same
  obtain ⟨now, request, done, taken⟩ := c
  cases request with
  | get j =>
    obtain rfl : j = subject := by
      simpa [Call.isFor, Call.isSweep, Call.isAbout, Request.subject?] using own
    have asks := fun types => exchanges_congr independent now types queries
    unfold perform fetched State.view
    dsimp only
    -- both fetches are answered the same, so the look-ups differ in the cache only
    rw [asks settings.handled]
    obtain ⟨answer, asked, entry⟩ := GrantCache.serve_congr settings now done
      (.ofAnswers j ((exchanges u now j settings.handled t.log).map Exchange.answer)) entry
    rw [answer, asked, entry, asks, queriesFor_append, queriesFor_append, queries]
    exact ⟨fun _ => rfl, rfl⟩
  | update m g =>
    obtain rfl : g.subject = subject := by
      simpa [Call.isFor, Call.isSweep, Call.isAbout, Request.subject?] using own
    unfold perform State.view
    dsimp only
    rcases GrantCache.update_congr settings now m entry with
      ⟨e, hs, ht⟩ | ⟨d, d', hs, ht, changed⟩
    · rw [hs, ht]
      exact ⟨fun _ => rfl, same⟩
    · rw [hs, ht]
      dsimp only
      rw [changed, queries]
      exact ⟨fun _ => rfl, rfl⟩
  | sweep =>
    refine ⟨fun about => (nomatch about), ?_⟩
    unfold perform State.view
    dsimp only
    rw [GrantCache.get?_sweep, GrantCache.get?_sweep, entry, queries]

/-! ## Runs -/

/-- The calls about a subject, and the sweeps. -/
def concerning (subject : String) (calls : List Call) : List Call :=
  calls.filter fun c => c.isFor subject

/-- Two runs come out the same for a subject if one lacks calls about others. -/
theorem history_of_view (independent : u.Independent) : ∀ {calls : List Call} {s t : State},
    s.view subject = t.view subject →
      (history settings u s calls).filter (fun r => r.call.isAbout subject) =
        (history settings u t (concerning subject calls)).filter fun r => r.call.isAbout subject
  | [], _, _, _ => rfl
  | c :: calls, s, t, same => by
    have about : ∀ s, (perform settings u s c).1.call.isAbout subject = c.isAbout subject :=
      fun s => by rw [perform_call]
    unfold concerning
    cases own : c.isFor subject with
    | true =>
      obtain ⟨row, next⟩ := perform_of_view settings independent same own
      rw [List.filter_cons_of_pos own, history_cons, history_cons, List.filter_cons,
        List.filter_cons, about, about]
      split
      · rename_i its
        rw [row its]
        exact congrArg _ (history_of_view independent next)
      · exact history_of_view independent next
    | false =>
      have other := view_perform_of_other settings u s own
      rw [List.filter_cons_of_neg (by simp [own]), history_cons,
        List.filter_cons_of_neg (by simp [about, (Call.isFor_eq_false.1 own).2])]
      exact history_of_view independent (other.trans same)

/-- They also leave the subject with the same view. -/
theorem view_after (settings : CacheSettings) (independent : u.Independent) :
    ∀ {calls : List Call} {s t : State}, s.view subject = t.view subject →
      (after settings u s calls).view subject =
        (after settings u t (concerning subject calls)).view subject
  | [], _, _, same => same
  | c :: calls, s, t, same => by
    unfold concerning
    cases own : c.isFor subject with
    | true =>
      rw [List.filter_cons_of_pos own]
      exact view_after settings independent (perform_of_view settings independent same own).2
    | false =>
      have other := view_perform_of_other settings u s own
      rw [List.filter_cons_of_neg (by simp [own])]
      exact view_after settings independent (other.trans same)

/-! ## Where grants come from -/

/-- A grant was named by an answer to a query for its own subject, or it was put by a change. -/
def Reported (past : List Call) (log : List Exchange) (g : Grant) : Prop :=
  (∃ x ∈ queriesFor g.subject log, Fetched.Names x.answer g) ∨
    ∃ c ∈ past, c.request = .update .put g

theorem Reported.later {past : List Call} {log : List Exchange} {g : Grant}
    (h : Reported past log g) (more : List Call) (longer : List Exchange) :
    Reported (past ++ more) (log ++ longer) g := by
  rcases h with ⟨x, asked, named⟩ | ⟨c, hc, put⟩
  · refine .inl ⟨x, ?_, named⟩
    rw [queriesFor_append]
    exact List.mem_append_left _ asked
  · exact .inr ⟨c, List.mem_append_left _ hc, put⟩

/-- What a fetch holds was reported in its exchanges. -/
theorem reported_of_fetched {time : Nat} {types : List String} {past : List Call}
    {log : List Exchange} {g : Grant}
    (hg : g ∈ (fetched u time subject types log).grants.grants subject) :
    Reported past (log ++ exchanges u time subject types log) g := by
  obtain ⟨rfl, held⟩ := GrantSet.mem_grants.1 hg
  obtain ⟨_, given, named⟩ := (Fetched.holds_ofAnswers rfl _).1 held
  obtain ⟨x, hx, rfl⟩ := List.mem_map.1 given
  refine .inl ⟨x, mem_queriesFor.2 ⟨List.mem_append_right _ hx, ?_⟩, named⟩
  exact subject_of_mem_exchanges hx

/-- **A call** grants nothing that was not reported, and the cache keeps nothing else. -/
theorem reported_perform (settings : CacheSettings) (u : Upstream) {past : List Call} (c : Call)
    (h : s.cache.Only (Reported past s.log)) :
    (perform settings u s c).2.cache.Only
        (Reported (past ++ [c]) (perform settings u s c).2.log) ∧
      ∀ subject gs, c.request = .get subject →
        (perform settings u s c).1.reply = .granted (.ok gs) →
        ∀ g ∈ gs, g.subject = subject ∧
          Reported (past ++ [c]) (perform settings u s c).2.log g := by
  have kept : ∀ c longer, s.cache.Only (Reported (past ++ [c]) (s.log ++ longer)) :=
    fun c longer => h.mono fun g hg => hg.later [c] longer
  rw [perform_log]
  obtain ⟨now, request, done, taken⟩ := c
  cases request with
  | get subject =>
    have kept := kept ⟨now, .get subject, done, taken⟩
    unfold perform
    dsimp only
    rw [GrantCache.asked_serve]
    -- a hit asks nothing and answers with what was kept, so only a miss has to be reported
    have new : s.cache.resident? now subject = none →
        ∀ g ∈ (fetched u now subject settings.handled s.log).grants.grants subject,
          Reported (past ++ [⟨now, .get subject, done, taken⟩]) (s.log ++ exchanges u now subject
            (if (s.cache.resident? now subject).isSome then [] else settings.handled) s.log) g := by
      intro miss g hg
      rw [miss]
      exact reported_of_fetched hg
    refine ⟨(kept _).serve new, ?_⟩
    rintro _ gs ⟨⟩ answer
    exact (kept _).answer new (Reply.granted.inj answer)
  | update m g =>
    refine ⟨?_, fun _ _ about => nomatch about⟩
    have kept := kept ⟨now, .update m g, done, taken⟩
    unfold perform
    dsimp only
    cases hu : s.cache.update settings now m g with
    | error e => exact kept []
    | ok d =>
      refine (kept []).update hu ?_
      rintro rfl
      exact .inr ⟨_, List.mem_append_right _ List.mem_cons_self, rfl⟩
  | sweep =>
    exact ⟨(kept ⟨now, .sweep, done, taken⟩ []).sweep now, fun _ _ about => nomatch about⟩

theorem reported_after (settings : CacheSettings) (u : Upstream) :
    ∀ (calls past : List Call) {s : State}, s.cache.Only (Reported past s.log) →
      (after settings u s calls).cache.Only
        (Reported (past ++ calls) (after settings u s calls).log)
  | [], past, s, h => by rwa [List.append_nil]
  | c :: calls, past, s, h => by
    have := reported_after settings u calls (past ++ [c]) (reported_perform settings u c h).1
    rwa [List.append_assoc] at this

/-- **Subjects are isolated.** Without the calls about other subjects, the calls about a subject come
out the same, each after the same queries to the source, and the same queries are made for it in
all. What the subject is granted at any time was reported as a grant of that subject: in an answer to
a query that was made for it, or in a change. -/
theorem subjects_isolated (settings : CacheSettings) (independent : u.Independent)
    (calls : List Call) (subject : String) :
    (history settings u .start calls).filter (fun r => r.call.isAbout subject) =
        (history settings u .start (concerning subject calls)).filter
          (fun r => r.call.isAbout subject) ∧
      queriesFor subject (after settings u .start calls).log =
        queriesFor subject (after settings u .start (concerning subject calls)).log ∧
      ∀ past c, past ++ [c] <+: calls → c.request = .get subject →
        ∀ gs, (perform settings u (after settings u .start past) c).1.reply = .granted (.ok gs) →
          ∀ g ∈ gs, g.subject = subject ∧
            Reported (past ++ [c]) (after settings u .start (past ++ [c])).log g := by
  refine ⟨history_of_view independent rfl, ?_, ?_⟩
  · exact (View.mk.inj (view_after settings independent rfl)).2
  · intro past c _ about gs answer
    have kept : (after settings u .start past).cache.Only
        (Reported past (after settings u .start past).log) :=
      reported_after settings u past [] GrantCache.only_empty
    have := (reported_perform settings u c kept).2 subject gs about answer
    unfold after
    rw [List.foldl_append]
    exact this

/-! ## Two subjects at one cache -/

/-- A source that fails at every third query for a subject, and names another subject. -/
def subjectwise : Upstream := fun log _ subject t =>
  if (queriesFor subject log).length % 3 = 2 then .error (.unavailable "down")
  else .ok [subject ++ ":" ++ t ++ ":get:7", "9:" ++ t ++ ":get:*"]

theorem independent_subjectwise : subjectwise.Independent := by
  intro log time subject t
  unfold subjectwise queriesFor
  rw [List.filter_filter]
  simp only [Bool.and_self]

/-- Both subjects are fetched and changed; one is swept out, fetched in part, and fetched again. -/
def mixedCalls : List Call :=
  [.atOnce 0 (.get "1"), .atOnce 1 (.get "9"),
    .atOnce 2 (.update .put ⟨"9", Resource.orders, Action.put, "*"⟩),
    .atOnce 3 (.update .delete ⟨"1", Resource.orders, Action.get, "7"⟩), .atOnce 14 .sweep,
    .atOnce 15 (.get "9"), ⟨15, .get "1", 16, by decide⟩, .atOnce 17 (.get "1")]

/-- Five of the calls tell how many queries those about a subject make in the run of all eight. -/
theorem subjects_isolated_of_mixedCalls :
    (concerning "1" mixedCalls).length = 5 ∧ mixedCalls.length = 8 ∧
      ((history sampleSettings subjectwise .start mixedCalls).filter
        fun r => r.call.isAbout "1").map (fun r => r.asked.length) = [2, 0, 2, 2] := by
  refine ⟨by decide, rfl, ?_⟩
  rw [(subjects_isolated sampleSettings independent_subjectwise mixedCalls "1").1]
  decide +kernel

end CacheSession

end Marketplace
