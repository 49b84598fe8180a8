import Marketplace.Proofs.Policy.Miss
import Marketplace.Proofs.Policy.Session

/-!
# How long a cache serves

Look-ups leave different things behind: a hit starts the life of an entry anew, a full fetch starts
the life of a new one, a fetch that fails in part or finds nothing leaves an empty one, and a fetch
that fails altogether leaves the old grants where they are, expired. Changes patch an entry and never
prolong it, and sweeps take entries away. What is served still shows in the calls: a subject is served
if and only if its last look-up was a hit or a full fetch that is not too long ago.

## Results

* `Lives.perform`: one call.
* `expired_never_served`: which calls of a run are answered from the cache or patch it, and what the
  other ones do.
-/

namespace Marketplace

/-- The cache serves a grant at a time. -/
def GrantCache.Serves (c : GrantCache) (now : Nat) (g : Grant) : Prop :=
  ∃ s, c.resident? now g.subject = some s ∧ s.Holds g

/-- **A change** decides about its own grant while the subject is served, and about nothing else. -/
theorem GrantCache.serves_update {c c' : GrantCache} {settings : CacheSettings} {now later : Nat}
    {m : PolicyMethod} {g h : Grant} (hu : c.update settings now m g = .ok c') :
    c'.Serves later h ↔
      if h = g then m = .put ∧ (c.resident? later g.subject).isSome = true else c.Serves later h := by
  unfold Serves
  rw [resident?_update hu]
  by_cases own : h.subject = g.subject
  · rw [if_pos own, own]
    cases c.resident? later g.subject with
    | none => simp
    | some s => simp [GrantSet.holds_changed own]
  · rw [if_neg own, if_neg]
    rintro rfl
    exact own rfl

namespace CacheSession

variable {settings : CacheSettings} {u : Upstream} {s : State} {rows : List Row} {now : Nat}
  {subject : String}

/-! ## What rows tell -/

/-- Every query of a look-up was answered, and some grant was found. -/
def Row.IsFull (r : Row) : Prop :=
  (∀ x ∈ r.asked, ∃ texts, x.answer = .ok texts) ∧ ∃ gs, r.reply = .granted (.ok gs) ∧ gs ≠ []

/-- A look-up of a subject that was a hit or a full fetch, and that entries outlive up to a time. -/
def Row.Lasts (lifetime : Nat) (subject : String) (time : Nat) (r : Row) : Prop :=
  r.call.request = .get subject ∧ time < r.call.time + lifetime ∧ (r.asked = [] ∨ r.IsFull)

/-- No look-up of a subject that asked the source. -/
def Row.IsNoMiss (subject : String) (r : Row) : Prop := r.call.request = .get subject → r.asked = []

/-- A look-up of the subject lasts up to a time, and no later one was a miss. -/
def Renewed (lifetime : Nat) (rows : List Row) (subject : String) (time : Nat) : Prop :=
  Since (Row.Lasts lifetime subject time) (Row.IsNoMiss subject) rows

variable {lifetime later : Nat} {r : Row}

/-- Only look-ups of the subject count. -/
theorem renewed_of_other (other : r.call.request ≠ .get subject) :
    Renewed lifetime (rows ++ [r]) subject later ↔ Renewed lifetime rows subject later := by
  unfold Renewed
  rw [since_concat]
  constructor
  · rintro (⟨own, _⟩ | ⟨before, _⟩)
    · exact (other own).elim
    · exact before
  · exact fun before => .inr ⟨before, fun own => (other own).elim⟩

/-- The last look-up of the subject decides: a hit lasts longer than what it was a hit on. -/
theorem renewed_of_get (own : r.call.request = .get subject)
    (past : ∀ r' ∈ rows, r'.call.time ≤ r.call.time) :
    Renewed lifetime (rows ++ [r]) subject later ↔
      later < r.call.time + lifetime ∧ (r.asked = [] ∨ r.IsFull) := by
  unfold Renewed
  rw [since_concat]
  constructor
  · rintro (⟨_, lasts⟩ | ⟨⟨before, r', since, rfl, ⟨_, lasts, _⟩, _⟩, hit⟩)
    · exact lasts
    · have le := past r' List.mem_append_cons_self
      exact ⟨by omega, .inl (hit own)⟩
  · exact fun lasts => .inl ⟨own, lasts⟩

/-! ## One call -/

section Get

variable {done : Nat} {taken : now ≤ done}

theorem asked_eq_nil_iff (guards : settings.handled ≠ []) :
    (perform settings u s ⟨now, .get subject, done, taken⟩).1.asked = [] ↔
      (s.cache.resident? now subject).isSome = true := by
  cases hr : s.cache.resident? now subject with
  | some set =>
    rw [perform_get_of_resident hr]
    exact iff_of_true rfl rfl
  | none =>
    rw [perform_get_of_none hr]
    refine iff_of_false (fun none => guards ?_) Bool.false_ne_true
    rw [← map_resourceType_exchanges u now subject settings.handled s.log]
    exact congrArg (List.map Exchange.resourceType) none

/-- A miss is a full fetch exactly when its fetch is kept. -/
theorem isFull_iff_of_none (miss : s.cache.resident? now subject = none) :
    (perform settings u s ⟨now, .get subject, done, taken⟩).1.IsFull ↔
      (fetched u now subject settings.handled s.log).kept?.isSome = true := by
  rw [perform_get_of_none miss]
  unfold Row.IsFull fetched
  rw [Fetched.isSome_kept?_iff]
  have complete : (∀ x ∈ exchanges u now subject settings.handled s.log,
        ∃ texts, x.answer = .ok texts) ↔
      Fetched.AllAnswered ((exchanges u now subject settings.handled s.log).map Exchange.answer) := by
    simp [Fetched.AllAnswered]
  refine (and_congr_left fun _ => complete).trans (and_congr_right fun all => ?_)
  rw [Fetched.verdict_of_allAnswered settings all]
  simp

/-- **What a look-up leaves** lasts for a lifetime if it was a hit or a full fetch, and not at all
otherwise. -/
theorem isSome_resident?_get (guards : settings.handled ≠ []) (hl : now ≤ later) :
    ((perform settings u s (.atOnce now (.get subject))).2.cache.resident? later subject).isSome =
        true ↔
      later < now + settings.lifetime ∧
        ((perform settings u s (.atOnce now (.get subject))).1.asked = [] ∨
          (perform settings u s (.atOnce now (.get subject))).1.IsFull) := by
  have served : (perform settings u s (.atOnce now (.get subject))).2.cache.resident? later subject =
      GrantCache.renewed settings now now (fetched u now subject settings.handled s.log) later
        (s.cache.resident? now subject) :=
    (resident?_get u s subject hl).trans (if_pos rfl)
  have hit : (perform settings u s (.atOnce now (.get subject))).1.asked = [] ↔
      (s.cache.resident? now subject).isSome = true := asked_eq_nil_iff guards
  rw [served, hit]
  unfold GrantCache.renewed
  cases hr : s.cache.resident? now subject with
  | some set =>
    dsimp only
    split
    · rename_i gone
      exact iff_of_false Bool.false_ne_true fun lasts => Nat.not_le.2 lasts.1 gone
    · rename_i lasts
      exact iff_of_true rfl ⟨Nat.not_le.1 lasts, .inl rfl⟩
  | none =>
    have full : (perform settings u s (.atOnce now (.get subject))).1.IsFull ↔
        (fetched u now subject settings.handled s.log).kept?.isSome = true := isFull_iff_of_none hr
    rw [full]
    dsimp only
    split
    · rename_i gone
      exact iff_of_false Bool.false_ne_true fun lasts => Nat.not_le.2 lasts.1 gone
    · rename_i lasts
      exact ⟨fun kept => ⟨Nat.not_le.1 lasts, .inr kept⟩, fun kept => kept.2.resolve_left nofun⟩

end Get

/-- **A change of a handled type** is applied exactly while its subject is served. Then it decides
about its own grant, and nobody is served for longer or for less long. -/
theorem perform_update {m : PolicyMethod} {g : Grant} {done : Nat} {taken : now ≤ done}
    (handled : g.resourceType ∈ settings.handled) :
    let out := perform settings u s ⟨now, .update m g, done, taken⟩
    let kept := (s.cache.resident? now g.subject).isSome = true
    (out.1.reply = .updated (.ok ()) ↔ kept) ∧
    (kept → ∀ later,
      (∀ subject, (out.2.cache.resident? later subject).isSome =
        (s.cache.resident? later subject).isSome) ∧
      ∀ h, out.2.cache.Serves later h ↔
        if h = g then m = .put ∧ (s.cache.resident? later g.subject).isSome = true
        else s.cache.Serves later h) ∧
    (¬kept → out.2 = s) := by
  dsimp only
  rcases GrantCache.update_cases settings now m g s.cache with
    ⟨other, _⟩ | ⟨_, miss, hu⟩ | ⟨_, e, set, he, hs, hu⟩
  · exact (other handled).elim
  · rw [perform_update_of_error hu, miss]
    exact ⟨iff_of_false (fun ok => nomatch ok) Bool.false_ne_true,
      fun kept => (Bool.false_ne_true kept).elim, fun _ => rfl⟩
  · have hit : (s.cache.resident? now g.subject).isSome = true := by
      unfold GrantCache.resident?
      rw [he, Option.bind_some, hs]
      rfl
    rw [perform_update_of_ok hu]
    refine ⟨iff_of_true rfl hit, fun _ later => ⟨fun subject => ?_, fun h => ?_⟩,
      fun gone => (gone hit).elim⟩
    · rw [GrantCache.resident?_update hu]
      split
      · exact Option.isSome_map
      · rfl
    · exact GrantCache.serves_update hu

/-! ## Runs -/

/-- Up to now the calls tell who is served: those whose last look-up lasts. -/
structure Lives (lifetime : Nat) (rows : List Row) (now : Nat) (s : State) : Prop where
  past : ∀ r ∈ rows, r.call.time ≤ now
  isSome_iff : ∀ later, now ≤ later → ∀ subject,
    (s.cache.resident? later subject).isSome = true ↔ Renewed lifetime rows subject later

namespace Lives

theorem start (lifetime : Nat) : Lives lifetime [] 0 .start :=
  ⟨fun _ h => (nomatch h), fun _ _ _ => iff_of_false Bool.false_ne_true not_since_nil⟩

/-- **One call** that is done at once. -/
theorem perform {time : Nat} (u : Upstream) (guards : settings.handled ≠ [])
    (h : Lives settings.lifetime rows time s) {c : Call} (le : time ≤ c.time)
    (instant : c.done = c.time) :
    Lives settings.lifetime (rows ++ [(CacheSession.perform settings u s c).1]) c.time
      (CacheSession.perform settings u s c).2 where
  past := by
    rw [List.forall_mem_append, List.forall_mem_singleton, perform_call]
    exact ⟨fun r hr => Nat.le_trans (h.past r hr) le, Nat.le_refl _⟩
  isSome_iff later hl subject := by
    by_cases own : c.request = .get subject
    · rw [renewed_of_get (by rw [perform_call, own])
        (by rw [perform_call]; exact fun r hr => Nat.le_trans (h.past r hr) le), perform_call]
      obtain ⟨now, _, _, taken⟩ := c
      cases own
      cases instant
      exact isSome_resident?_get guards hl
    · rw [renewed_of_other (by rwa [perform_call]), isSome_resident?_other own hl]
      exact h.isSome_iff later (Nat.le_trans le hl) subject

/-- **A run** of calls that are done at once. -/
theorem run (u : Upstream) (guards : settings.handled ≠ []) : ∀ {calls : List Call} {rows : List Row}
    {time : Nat} {s : State}, Lives settings.lifetime rows time s → InTurn time calls →
      (∀ c ∈ calls, c.done = c.time) → time ≤ now → (∀ c ∈ calls, c.time ≤ now) →
      Lives settings.lifetime (rows ++ history settings u s calls) now (after settings u s calls)
  | [], rows, time, s, h, _, _, le, _ => by
    unfold history
    rw [List.append_nil]
    exact ⟨fun r hr => Nat.le_trans (h.past r hr) le,
      fun later hl => h.isSome_iff later (Nat.le_trans le hl)⟩
  | c :: calls, rows, time, s, h, inTurn, instant, _, before => by
    obtain ⟨le, inTurn⟩ := inTurn.cons
    obtain ⟨atOnce, instant⟩ := List.forall_mem_cons.1 instant
    obtain ⟨ends, before⟩ := List.forall_mem_cons.1 before
    rw [atOnce] at inTurn
    rw [history_cons, List.append_cons]
    exact (h.perform u guards le atOnce).run u guards inTurn instant ends before

/-- After calls in the order of time, each of them done at once. -/
theorem after (u : Upstream) (guards : settings.handled ≠ []) {past : List Call} {c : Call}
    (inTurn : (past ++ [c]).Pairwise fun c d => c.time ≤ d.time)
    (instant : ∀ d ∈ past ++ [c], d.done = d.time) :
    Lives settings.lifetime (history settings u .start past) c.time
      (CacheSession.after settings u .start past) := by
  obtain ⟨inTurn, -, before⟩ := List.pairwise_append.1 inTurn
  have instant : ∀ d ∈ past, d.done = d.time := fun d hd => instant d (List.mem_append_left _ hd)
  have inTurn : InTurn 0 past := by
    refine ⟨fun _ _ => Nat.zero_le _, inTurn.imp_of_mem ?_⟩
    intro d e hd _ le
    rwa [instant d hd]
  exact (start settings.lifetime).run u guards inTurn instant (Nat.zero_le _)
    fun d hd => before d hd c List.mem_cons_self

end Lives

/-- **Expired grants are never served again.** Calls are made in the order of time and done at once. A
look-up is answered without the source if and only if an earlier one was a hit or a full fetch less
than a lifetime ago and none since was a miss; otherwise it asks once for every type, and the answer
is made of what comes back. A change is applied on the same condition; it changes one grant of one
subject, and nobody is served for longer or for less long. So the grants of an entry whose time has
passed are neither answered nor patched, whether or not they are still there. -/
theorem expired_never_served (u : Upstream) (guards : settings.handled ≠ []) {past : List Call}
    {c : Call} (inTurn : (past ++ [c]).Pairwise fun c d => c.time ≤ d.time)
    (instant : ∀ d ∈ past ++ [c], d.done = d.time) :
    let s := after settings u .start past
    let kept := fun subject =>
      Renewed settings.lifetime (history settings u .start past) subject c.time
    let out := perform settings u s c
    (∀ subject, c.request = .get subject →
      (out.1.asked = [] ↔ kept subject) ∧
      (¬kept subject →
        out.1.asked.map Exchange.resourceType = settings.handled ∧
        (∀ x ∈ out.1.asked, x.subject = subject) ∧
        out.1.reply = .granted
          ((Fetched.ofAnswers subject (out.1.asked.map Exchange.answer)).verdict settings subject))) ∧
    (∀ m g, c.request = .update m g → g.resourceType ∈ settings.handled →
      (out.1.reply = .updated (.ok ()) ↔ kept g.subject) ∧
      (kept g.subject → ∀ later,
        (∀ subject, (out.2.cache.resident? later subject).isSome =
          (s.cache.resident? later subject).isSome) ∧
        ∀ h, out.2.cache.Serves later h ↔
          if h = g then m = .put ∧ (s.cache.resident? later g.subject).isSome = true
          else s.cache.Serves later h) ∧
      (¬kept g.subject → out.2 = s)) ∧
    ∀ subject e, s.cache.entries.get? subject = some e → e.expiresAt ≤ c.time → ¬kept subject := by
  have lives := Lives.after u guards inTurn instant
  generalize after settings u .start past = s at lives
  generalize history settings u .start past = rows at lives
  have served := lives.isSome_iff c.time (Nat.le_refl _)
  obtain ⟨now, request, done, taken⟩ := c
  dsimp only at served ⊢
  refine ⟨?_, ?_, ?_⟩
  · rintro subject rfl
    rw [← served]
    refine ⟨asked_eq_nil_iff guards, fun gone => ?_⟩
    have miss : s.cache.resident? now subject = none := Option.not_isSome_iff_eq_none.1 gone
    rw [perform_get_of_none miss]
    exact ⟨map_resourceType_exchanges _ _ _ _ _, fun _ => subject_of_mem_exchanges, rfl⟩
  · rintro m g rfl handled
    rw [← served]
    exact perform_update handled
  · intro subject e he expired
    rw [← served, Option.isSome_iff_exists]
    rintro ⟨set, hr⟩
    obtain ⟨e', he', fresh, _⟩ := GrantCache.resident?_eq_some.1 hr
    rw [he] at he'
    cases he'
    omega

/-! ## Old grants after a fetch that failed -/

/-- A source that is down at one moment. -/
def sampleOutage : Upstream := fun _ time subject t =>
  if time = 25 then .error (.unavailable "down") else .ok [subject ++ ":" ++ t ++ ":get:7"]

/-- A full fetch, a hit, and a fetch that fails after the entry has expired. -/
def sampleLookups : List Call :=
  [.atOnce 0 (.get "1"), .atOnce 9 (.get "1"), .atOnce 25 (.get "1")]

def sampleChange : Call := .atOnce 26 (.update .put ⟨"1", Resource.orders, Action.put, "9"⟩)

/-- The old grants are still in the entry, and are not patched. -/
theorem expired_never_served_of_sampleLookups :
    let s := after sampleSettings sampleOutage .start sampleLookups
    (∃ e ∈ s.cache.entries.get? "1", e.grants.isSome = true ∧ e.expiresAt = 19) ∧
      (perform sampleSettings sampleOutage s sampleChange).2 = s := by
  have old : ∃ e ∈ (after sampleSettings sampleOutage .start sampleLookups).cache.entries.get? "1",
      e.grants.isSome = true ∧ e.expiresAt = 19 := by decide +kernel
  have guards : sampleSettings.handled ≠ [] := by decide
  have inTurn : (sampleLookups ++ [sampleChange]).Pairwise fun c d => c.time ≤ d.time := by decide
  have instant : ∀ d ∈ sampleLookups ++ [sampleChange], d.done = d.time := by decide
  obtain ⟨_, changes, expired⟩ := expired_never_served sampleOutage guards inTurn instant
  refine ⟨old, (changes .put _ rfl (by decide)).2.2 ?_⟩
  obtain ⟨e, he, _, time⟩ := old
  refine expired "1" e he ?_
  rw [time]
  decide

end CacheSession

end Marketplace
