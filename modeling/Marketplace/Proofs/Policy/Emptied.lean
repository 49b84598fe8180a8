import Marketplace.Proofs.Policy.Miss
import Marketplace.Proofs.Policy.Session

/-!
# Entries that a change has emptied

A fetch that finds no grants is not kept, so that a subject without grants is fetched at every
look-up. A change that takes the last grant of an entry leaves the entry there, though, and until it
expires look-ups get no grants from it and do not ask the source. This is the only way to an empty
entry that is served, and only a grant that is put, or another fetch, leads out of it.

## Results

* `grants_eq_nil_iff`: which calls leave an entry that is empty.
* `servesNone_iff_emptied`: when an empty entry is served, and what a look-up gets from it.
* `emptied_entry_served`: it happens.
-/

namespace Marketplace

namespace GrantSet

variable {s : GrantSet} {g h : Grant}

theorem mem_grants_changed {m : PolicyMethod} :
    h ∈ (s.changed m g).grants g.subject ↔
      if h = g then m = .put else h ∈ s.grants g.subject := by
  rw [mem_grants, mem_grants]
  by_cases same : h = g
  · subst same
    simp [holds_changed]
  · rw [if_neg same]
    refine and_congr_right fun own => ?_
    rw [holds_changed own, if_neg same]

/-- Taking a grant leaves none if it was the only one, or if there was none before. -/
theorem grants_deleted_eq_nil_iff :
    (s.changed .delete g).grants g.subject = [] ↔
      (∀ h, h ∈ s.grants g.subject ↔ h = g) ∨ s.grants g.subject = [] := by
  simp only [List.eq_nil_iff_forall_not_mem, mem_grants_changed]
  constructor
  · intro none
    by_cases held : g ∈ s.grants g.subject
    · refine .inl fun h => ⟨fun hh => ?_, fun same => same ▸ held⟩
      by_contra other
      exact none h (by rwa [if_neg other])
    · refine .inr fun h hh => ?_
      have other : h ≠ g := by
        rintro rfl
        exact held hh
      exact none h (by rwa [if_neg other])
  · rintro (only | none) h hh
    · split at hh
      · cases hh
      · rename_i other
        exact other ((only h).1 hh)
    · split at hh
      · cases hh
      · exact none h hh

end GrantSet

/-- The cache serves the entry of a subject, and the entry lists no grants. -/
def GrantCache.ServesNone (c : GrantCache) (now : Nat) (subject : String) : Prop :=
  ∃ s, c.resident? now subject = some s ∧ s.grants subject = []

theorem GrantCache.servesNone_iff {c : GrantCache} {now : Nat} {subject : String} {s : GrantSet}
    (served : c.resident? now subject = some s) :
    c.ServesNone now subject ↔ s.grants subject = [] := by
  unfold ServesNone
  rw [served]
  simp

namespace CacheSession

variable {settings : CacheSettings} {u : Upstream} {s : State} {c : Call} {now later : Nat}
  {subject : String} {set set' : GrantSet}

/-- A change takes the only grant in the entry of a subject. -/
def Empties (settings : CacheSettings) (subject : String) (x : State × Call) : Prop :=
  ∃ g set, x.2.request = .update .delete g ∧ g.subject = subject ∧
    g.resourceType ∈ settings.handled ∧ x.1.cache.resident? x.2.time subject = some set ∧
    ∀ h, h ∈ set.grants subject ↔ h = g

/-- A subject is fetched, or a change puts a grant into its entry. -/
def Fills (settings : CacheSettings) (subject : String) (x : State × Call) : Prop :=
  (x.2.request = .get subject ∧ x.1.cache.resident? x.2.time subject = none) ∨
  ∃ g, x.2.request = .update .put g ∧ g.subject = subject ∧ g.resourceType ∈ settings.handled ∧
    (x.1.cache.resident? x.2.time subject).isSome = true

/-- The entry of a subject would be empty after a call. -/
def LeavesNone (settings : CacheSettings) (subject : String) (x : State × Call) : Prop :=
  Empties settings subject x ∨
    (x.1.cache.ServesNone x.2.time subject ∧ ¬Fills settings subject x)

theorem not_empties (noDelete : ∀ g, c.request ≠ .update .delete g) :
    ¬Empties settings subject (s, c) := by
  rintro ⟨g, set, deletes, _⟩
  exact noDelete g deletes

theorem not_fills (noGet : c.request ≠ .get subject) (noPut : ∀ g, c.request ≠ .update .put g) :
    ¬Fills settings subject (s, c) := by
  rintro (⟨gets, _⟩ | ⟨g, puts, _⟩)
  · exact noGet gets
  · exact noPut g puts

/-! ## One call -/

/-- What is served after a call that fills nothing was served before. -/
theorem served_of_not_fills (idle : ¬Fills settings subject (s, c)) (hl : c.time ≤ later)
    (after : (perform settings u s c).2.cache.resident? later subject = some set) :
    ∃ set, s.cache.resident? c.time subject = some set := by
  rw [← Option.isSome_iff_exists]
  by_cases own : c.request = .get subject
  · rw [Option.isSome_iff_ne_none]
    exact fun miss => idle (.inl ⟨own, miss⟩)
  · have before : (s.cache.resident? later subject).isSome = true := by
      rw [← isSome_resident?_other own hl, after]
      rfl
    obtain ⟨set, hs⟩ := Option.isSome_iff_exists.1 before
    exact Option.isSome_of_eq_some (GrantCache.resident?_mono hl hs)

/-- A call that neither fills an entry nor takes its only grant leaves it empty if it was so. -/
theorem leavesNone_of_idle (idle : ¬Fills settings subject (s, c))
    (keeps : ¬Empties settings subject (s, c))
    (served : s.cache.resident? c.time subject = some set) :
    LeavesNone settings subject (s, c) ↔ set.grants subject = [] := by
  unfold LeavesNone
  rw [← GrantCache.servesNone_iff served]
  simp [idle, keeps]

/-- What is served afterwards was served before, and nothing happened to it. -/
theorem grants_eq_nil_iff_of_same (hl : c.time ≤ later) (idle : ¬Fills settings subject (s, c))
    (keeps : ¬Empties settings subject (s, c))
    (same : s.cache.resident? later subject = some set) :
    set.grants subject = [] ↔ LeavesNone settings subject (s, c) :=
  (leavesNone_of_idle idle keeps (GrantCache.resident?_mono hl same)).symm

section Request

variable {done : Nat} {taken : now ≤ done}

/-- A look-up leaves an empty entry only where it found one. -/
theorem grants_eq_nil_iff_of_get (hl : now ≤ later)
    (after : (perform settings u s ⟨now, .get subject, done, taken⟩).2.cache.resident? later subject =
      some set') :
    set'.grants subject = [] ↔
      LeavesNone settings subject (s, ⟨now, .get subject, done, taken⟩) := by
  have served : (perform settings u s ⟨now, .get subject, done, taken⟩).2.cache.resident? later
      subject = GrantCache.renewed settings now done (fetched u now subject settings.handled s.log)
        later (s.cache.resident? now subject) :=
    (resident?_get u s subject hl).trans (if_pos rfl)
  have keeps : ¬Empties settings subject (s, ⟨now, .get subject, done, taken⟩) :=
    not_empties nofun
  rw [after] at served
  unfold GrantCache.renewed at served
  cases hr : s.cache.resident? now subject with
  | some set =>
    rw [hr] at served
    dsimp only at served
    split at served
    · cases served
    · cases served
      have idle : ¬Fills settings subject (s, ⟨now, .get subject, done, taken⟩) := by
        rintro (⟨_, miss⟩ | ⟨g, puts, _⟩)
        · rw [hr] at miss
          cases miss
        · cases puts
      exact (leavesNone_of_idle idle keeps hr).symm
  | none =>
    rw [hr] at served
    dsimp only at served
    split at served
    · cases served
    · -- what a fetch leaves behind lists grants
      obtain ⟨_, found⟩ := Fetched.kept?_eq_some served.symm
      have filled := (Fetched.isSome_kept?_iff.1 (Option.isSome_of_eq_some served.symm)).2
      rw [found]
      refine iff_of_false filled ?_
      rintro (empties | ⟨⟨set, hs, _⟩, _⟩)
      · exact keeps empties
      · rw [hr] at hs
        cases hs

/-- A change that is applied leaves an empty entry if it takes the only grant, or takes a grant that
an empty entry does not hold. -/
theorem grants_eq_nil_iff_of_used {m : PolicyMethod} {g : Grant}
    (handled : g.resourceType ∈ settings.handled)
    (served : s.cache.resident? now g.subject = some set) :
    (set.changed m g).grants g.subject = [] ↔
      LeavesNone settings g.subject (s, ⟨now, .update m g, done, taken⟩) := by
  cases m with
  | put =>
    have held : g ∈ (set.changed .put g).grants g.subject := by simp [GrantSet.mem_grants_changed]
    have fills : Fills settings g.subject (s, ⟨now, .update .put g, done, taken⟩) :=
      .inr ⟨g, rfl, rfl, handled, Option.isSome_of_eq_some served⟩
    refine iff_of_false (List.ne_nil_of_mem held) ?_
    rintro (⟨g', set', deletes, _⟩ | ⟨_, idle⟩)
    · cases deletes
    · exact idle fills
  | delete =>
    have idle : ¬Fills settings g.subject (s, ⟨now, .update .delete g, done, taken⟩) :=
      not_fills nofun nofun
    rw [GrantSet.grants_deleted_eq_nil_iff, ← GrantCache.servesNone_iff served]
    refine or_congr ⟨fun only => ⟨g, set, rfl, rfl, handled, served, only⟩, ?_⟩
      ⟨fun none => ⟨none, idle⟩, fun none => none.1⟩
    rintro ⟨g', set', deletes, _, _, served', only⟩
    cases deletes
    rw [served] at served'
    cases served'
    exact only

/-- **A change** leaves an empty entry if it takes the only grant, or if the entry was empty and the
change puts no grant into it. -/
theorem grants_eq_nil_iff_of_update {m : PolicyMethod} {g : Grant} (hl : now ≤ later)
    (after : (perform settings u s ⟨now, .update m g, done, taken⟩).2.cache.resident? later subject =
      some set') :
    set'.grants subject = [] ↔
      LeavesNone settings subject (s, ⟨now, .update m g, done, taken⟩) := by
  have idle : ¬(g.subject = subject ∧ g.resourceType ∈ settings.handled ∧
      (s.cache.resident? now subject).isSome = true) →
      ¬Fills settings subject (s, ⟨now, .update m g, done, taken⟩) ∧
        ¬Empties settings subject (s, ⟨now, .update m g, done, taken⟩) := by
    intro unused
    constructor
    · rintro (⟨gets, _⟩ | ⟨g', puts, own, handled, served⟩)
      · cases gets
      · cases puts
        exact unused ⟨own, handled, served⟩
    · rintro ⟨g', set, deletes, own, handled, served, _⟩
      cases deletes
      exact unused ⟨own, handled, Option.isSome_of_eq_some served⟩
  rcases GrantCache.update_cases settings now m g s.cache with
    ⟨other, hu⟩ | ⟨_, miss, hu⟩ | ⟨handled, e, set, he, hs, hu⟩
  · rw [perform_update_of_error hu] at after
    obtain ⟨idle, keeps⟩ := idle fun used => other used.2.1
    exact grants_eq_nil_iff_of_same hl idle keeps after
  · rw [perform_update_of_error hu] at after
    obtain ⟨idle, keeps⟩ := idle fun used => by
      rw [← used.1, miss] at used
      exact Bool.false_ne_true used.2.2
    exact grants_eq_nil_iff_of_same hl idle keeps after
  · rw [perform_update_of_ok hu] at after
    dsimp only at after
    rw [GrantCache.resident?_update hu] at after
    split at after
    · rename_i own
      subst own
      obtain ⟨set, hr, rfl⟩ := Option.map_eq_some_iff.1 after
      have served : s.cache.resident? now g.subject = some set := GrantCache.resident?_mono hl hr
      exact grants_eq_nil_iff_of_used handled served
    · rename_i other
      obtain ⟨idle, keeps⟩ := idle fun used => other used.1.symm
      exact grants_eq_nil_iff_of_same hl idle keeps after

end Request

/-- **Which calls leave an empty entry**, if they leave one that is served at all. -/
theorem grants_eq_nil_iff (hl : c.done ≤ later)
    (after : (perform settings u s c).2.cache.resident? later subject = some set) :
    set.grants subject = [] ↔ LeavesNone settings subject (s, c) := by
  obtain ⟨now, request, done, taken⟩ := c
  have le : now ≤ later := Nat.le_trans taken hl
  clear hl
  cases request with
  | get j =>
    by_cases own : j = subject
    · subst own
      exact grants_eq_nil_iff_of_get le after
    · have same : s.cache.resident? later subject = some set := by
        rw [resident?_get u s j le, if_neg fun same => own same.symm] at after
        exact after
      exact grants_eq_nil_iff_of_same le (not_fills (fun gets => own (Request.get.inj gets)) nofun)
        (not_empties nofun) same
  | update m g => exact grants_eq_nil_iff_of_update le after
  | sweep =>
    have same : s.cache.resident? later subject = some set :=
      (GrantCache.resident?_sweep le).symm.trans after
    exact grants_eq_nil_iff_of_same le (not_fills nofun nofun) (not_empties nofun) same

/-! ## Runs -/

/-- The states in which the calls of a run are made. -/
def moments (settings : CacheSettings) (u : Upstream) : State → List Call → List (State × Call)
  | _, [] => []
  | s, c :: calls => (s, c) :: moments settings u (perform settings u s c).2 calls

/-- A change took the only grant in the entry of a subject, and nothing has filled it since. -/
def Emptied (settings : CacheSettings) (subject : String) (past : List (State × Call)) : Prop :=
  Since (Empties settings subject) (fun x => ¬Fills settings subject x) past

/-- From now on the entry of a subject is empty, if it is served, exactly when the past has emptied
it. -/
def Tells (settings : CacheSettings) (subject : String) (past : List (State × Call)) (now : Nat)
    (s : State) : Prop :=
  ∀ later, now ≤ later → ∀ set, s.cache.resident? later subject = some set →
    (set.grants subject = [] ↔ Emptied settings subject past)

namespace Tells

variable {past : List (State × Call)} {time : Nat}

theorem start (settings : CacheSettings) (subject : String) : Tells settings subject [] 0 .start :=
  fun _ _ _ hr => nomatch hr

theorem perform (u : Upstream) (h : Tells settings subject past time s) (le : time ≤ c.time) :
    Tells settings subject (past ++ [(s, c)]) c.done (perform settings u s c).2 := by
  intro later hl set after
  rw [grants_eq_nil_iff hl after]
  unfold Emptied LeavesNone
  rw [since_concat]
  refine or_congr_right' fun _ => and_congr_left fun idle => ?_
  -- the entry was served before, so that the past tells about it
  obtain ⟨set, before⟩ := served_of_not_fills idle (Nat.le_trans c.time_le_done hl) after
  rw [GrantCache.servesNone_iff before]
  exact h c.time le set before

theorem run (u : Upstream) : ∀ {calls : List Call} {past : List (State × Call)} {time : Nat}
    {s : State}, Tells settings subject past time s → InTurn time calls → time ≤ now →
      (∀ c ∈ calls, c.done ≤ now) →
      Tells settings subject (past ++ moments settings u s calls) now (after settings u s calls)
  | [], past, time, s, h, _, le, _ => by
    unfold moments
    rw [List.append_nil]
    exact fun later hl => h later (Nat.le_trans le hl)
  | c :: calls, past, time, s, h, inTurn, _, ended => by
    obtain ⟨le, inTurn⟩ := inTurn.cons
    obtain ⟨ends, ended⟩ := List.forall_mem_cons.1 ended
    unfold moments
    rw [List.append_cons]
    exact (h.perform u le).run u inTurn ends ended

end Tells

/-- **An empty entry is served** exactly when the entry of the subject is served, a change has taken
its only grant, and neither a fetch nor a grant that was put has filled it since. A look-up gets no
grants from it and does not ask the source. -/
theorem servesNone_iff_emptied (settings : CacheSettings) (u : Upstream) {calls : List Call}
    (inTurn : calls.Pairwise fun c d => c.done ≤ d.time) (ended : ∀ c ∈ calls, c.done ≤ now)
    (subject : String) :
    let s := after settings u .start calls
    (s.cache.ServesNone now subject ↔ (s.cache.resident? now subject).isSome = true ∧
      Emptied settings subject (moments settings u .start calls)) ∧
    (s.cache.ServesNone now subject →
      (perform settings u s (.atOnce now (.get subject))).1 =
        ⟨.atOnce now (.get subject), .granted (.ok []), []⟩) := by
  have inTurn : InTurn 0 calls := ⟨fun _ _ => Nat.zero_le _, inTurn⟩
  have tells := (Tells.start settings subject).run u inTurn (Nat.zero_le now) ended
  rw [List.nil_append] at tells
  constructor
  · constructor
    · rintro ⟨set, served, none⟩
      exact ⟨Option.isSome_of_eq_some served, (tells now (Nat.le_refl now) set served).1 none⟩
    · rintro ⟨some', emptied⟩
      obtain ⟨set, served⟩ := Option.isSome_iff_exists.1 some'
      exact ⟨set, served, (tells now (Nat.le_refl now) set served).2 emptied⟩
  · rintro ⟨set, served, none⟩
    rw [← none]
    exact perform_get_of_resident served

/-! ## The last grant is taken -/

def sampleOrders : CacheSettings := ⟨[Resource.orders], 300000, 600000⟩

def sampleOnly : Grant := ⟨"1", Resource.orders, Action.post, wildcard⟩

/-- A source that names a grant once, and nothing from then on. -/
def sampleOnce : Upstream := fun log _ _ _ => .ok (if log.isEmpty then [sampleOnly.text] else [])

/-- The grant is fetched, and a change takes it. -/
def sampleDeletion : List Call :=
  [.atOnce 0 (.get "1"), .atOnce 0 (.update .delete sampleOnly)]

/-- The empty entry is served, and a look-up does not ask the source. -/
theorem emptied_entry_served :
    let s := after sampleOrders sampleOnce .start sampleDeletion
    (sampleDeletion.Pairwise fun c d => c.done ≤ d.time) ∧ (∀ c ∈ sampleDeletion, c.done ≤ 0) ∧
      s.cache.ServesNone 0 "1" ∧
      (perform sampleOrders sampleOnce s (.atOnce 0 (.get "1"))).1.asked = [] := by
  have none : ∃ set ∈ (after sampleOrders sampleOnce .start sampleDeletion).cache.resident? 0 "1",
      set.grants "1" = [] := by decide +kernel
  refine ⟨by decide, by decide, none, ?_⟩
  obtain ⟨set, served, _⟩ := none
  exact congrArg Row.asked (perform_get_of_resident served)

theorem servesNone_iff_emptied_of_sampleDeletion :
    ((after sampleOrders sampleOnce .start sampleDeletion).cache.resident? 0 "1").isSome = true ∧
      Emptied sampleOrders "1" (moments sampleOrders sampleOnce .start sampleDeletion) := by
  have none : ∃ set ∈ (after sampleOrders sampleOnce .start sampleDeletion).cache.resident? 0 "1",
      set.grants "1" = [] := by decide +kernel
  have inTurn : sampleDeletion.Pairwise fun c d => c.done ≤ d.time := by decide
  have ended : ∀ c ∈ sampleDeletion, c.done ≤ 0 := by decide
  exact (servesNone_iff_emptied sampleOrders sampleOnce inTurn ended "1").1.1 none

end CacheSession

end Marketplace
