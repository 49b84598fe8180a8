import Marketplace.Policy.Cache
import Marketplace.Proofs.Policy.Grant
import Marketplace.Proofs.Policy.GrantSet

/-!
# What a cache of grants does

One lemma for every call. A fetch holds the grants of the subject that the answers name, and fails
where the source fails. A look-up leaves every other subject alone, and what is resident after it
was resident before or came from a fetch without failures. A change is applied to the resident entry
of its subject, or it is of no use. An entry that is resident was so at every moment before.

## Results

* `answer_serve_eq`, `asked_serve`, `update_eq_error_iff`: how calls come out, by what is served.
* `resident?_serve`, `resident?_update`, `resident?_sweep`: what is served after them, by what was
  served before.
-/

namespace Marketplace

namespace Fetched

variable {subject : String} {g : Grant} {source : GrantSource}

theorem holds_addText (hg : g.subject = subject) (s : GrantSet) (text : String) :
    (addText subject s text).Holds g ↔ s.Holds g ∨ Grant.parse text = .ok g := by
  unfold addText
  split
  · rename_i h hp
    rw [hp]
    split
    · rename_i own
      rw [GrantSet.holds_insert, Grant.same_triple_iff (hg.trans own.symm), Except.ok.injEq,
        or_comm, eq_comm]
    · rename_i other
      constructor
      · exact .inl
      · rintro (h' | h')
        · exact h'
        · cases h'
          exact (other hg).elim
  · rename_i e hp
    rw [hp]
    simp

theorem holds_foldl_addText (hg : g.subject = subject) : ∀ (texts : List String) (s : GrantSet),
    (texts.foldl (addText subject) s).Holds g ↔
      s.Holds g ∨ ∃ text ∈ texts, Grant.parse text = .ok g
  | [], s => by simp
  | text :: texts, s => by
    rw [List.foldl_cons, holds_foldl_addText hg texts, holds_addText hg]
    simp [or_assoc]

/-- The answer of a source names a grant. -/
def Names (answer : Except PolicyError (List String)) (g : Grant) : Prop :=
  ∃ texts, answer = .ok texts ∧ ∃ text ∈ texts, Grant.parse text = .ok g

theorem holds_add (hg : g.subject = subject) (f : Fetched)
    (answer : Except PolicyError (List String)) :
    (f.add subject answer).grants.Holds g ↔ f.grants.Holds g ∨ Names answer g := by
  unfold add Names
  cases answer with
  | ok texts => simp [holds_foldl_addText hg]
  | error e => simp

theorem holds_foldl_add (hg : g.subject = subject) :
    ∀ (answers : List (Except PolicyError (List String))) (f : Fetched),
      (answers.foldl (add subject) f).grants.Holds g ↔
        f.grants.Holds g ∨ ∃ answer ∈ answers, Names answer g
  | [], f => by simp
  | answer :: answers, f => by
    rw [List.foldl_cons, holds_foldl_add hg answers, holds_add hg]
    simp [or_assoc]

/-- What the answers to the queries of a fetch amount to. -/
def ofAnswers (subject : String) (answers : List (Except PolicyError (List String))) : Fetched :=
  answers.foldl (add subject) ⟨.empty, []⟩

theorem ofSource_eq (subject : String) (types : List String) (source : GrantSource) :
    ofSource subject types source = ofAnswers subject (types.map source) :=
  List.foldl_map.symm

/-- **What a fetch holds**: the grants of the subject that the answers name. -/
theorem holds_ofAnswers (hg : g.subject = subject)
    (answers : List (Except PolicyError (List String))) :
    (ofAnswers subject answers).grants.Holds g ↔ ∃ answer ∈ answers, Names answer g := by
  unfold ofAnswers
  rw [holds_foldl_add hg]
  constructor
  · exact fun h => h.resolve_left (GrantSet.not_holds_empty g)
  · exact .inr

theorem holds_ofSource (hg : g.subject = subject) (types : List String) :
    (ofSource subject types source).grants.Holds g ↔ ∃ t ∈ types, Names (source t) g := by
  rw [ofSource_eq, holds_ofAnswers hg]
  constructor
  · rintro ⟨_, given, named⟩
    obtain ⟨t, ht, rfl⟩ := List.mem_map.1 given
    exact ⟨t, ht, named⟩
  · rintro ⟨t, ht, named⟩
    exact ⟨_, List.mem_map_of_mem ht, named⟩

/-- What a look-up answers after a fetch: the grants, or the first failure if every query failed. -/
def verdict (settings : CacheSettings) (subject : String) (f : Fetched) :
    Except PolicyError (List Grant) :=
  match f.failures with
  | [] => .ok (f.grants.grants subject)
  | failure :: _ =>
    if f.failures.length = settings.handled.length then .error failure
    else .ok (f.grants.grants subject)

/-- What a cache keeps of a fetch: all of it if nothing is missing and there is something. -/
def kept? (f : Fetched) : Option GrantSet :=
  if f.failures = [] ∧ f.grants.isEmpty = false then some f.grants else none

/-- An answer adds no failure if it is none, and takes none away. -/
theorem failures_add {f : Fetched} {answer : Except PolicyError (List String)}
    (h : (f.add subject answer).failures = []) :
    f.failures = [] ∧ ∃ texts, answer = .ok texts := by
  unfold add at h
  cases answer with
  | ok texts => exact ⟨h, texts, rfl⟩
  | error e => exact (List.append_ne_nil_of_right_ne_nil _ (List.cons_ne_nil _ _) h).elim

end Fetched

theorem CacheEntry.resident?_eq_some {e : CacheEntry} {now : Nat} {s : GrantSet} :
    e.resident? now = some s ↔ now < e.expiresAt ∧ e.grants = some s := by
  unfold resident?
  split
  · simp only [reduceCtorEq, false_iff, not_and]
    omega
  · simp only [iff_and_self]
    omega

/-- An entry without grants serves nothing. -/
theorem CacheEntry.resident?_of_none (time now : Nat) :
    (CacheEntry.mk none time).resident? now = none := by
  unfold resident?
  split <;> rfl

/-- The entry of a subject after a fetch that was ready at some moment. -/
def CacheEntry.refetched (settings : CacheSettings) (ready : Nat) (f : Fetched) (e : CacheEntry) :
    CacheEntry :=
  match f.failures with
  | [] =>
    if f.grants.isEmpty then ⟨none, e.expiresAt⟩ else ⟨some f.grants, ready + settings.lifetime⟩
  | _ :: _ => if f.failures.length = settings.handled.length then e else ⟨none, e.expiresAt⟩

/-- What was fetched is kept if nothing failed; else there is no entry, or the old one stays. -/
theorem CacheEntry.refetched_cases (settings : CacheSettings) (ready : Nat) (f : Fetched)
    (e : CacheEntry) :
    (f.failures = [] ∧
      e.refetched settings ready f = ⟨some f.grants, ready + settings.lifetime⟩) ∨
    (∃ time, e.refetched settings ready f = ⟨none, time⟩) ∨ e.refetched settings ready f = e := by
  unfold refetched
  split
  · rename_i complete
    split
    · exact .inr (.inl ⟨_, rfl⟩)
    · exact .inl ⟨complete, rfl⟩
  · split
    · exact .inr (.inr rfl)
    · exact .inr (.inl ⟨_, rfl⟩)

/-- An entry that has expired serves what is kept of the fetch, for as long as an entry lives. -/
theorem CacheEntry.resident?_refetched {settings : CacheSettings} {ready now : Nat} {f : Fetched}
    {e : CacheEntry} (gone : e.resident? now = none) :
    (e.refetched settings ready f).resident? now =
      if ready + settings.lifetime ≤ now then none else f.kept? := by
  unfold refetched Fetched.kept?
  cases f.failures with
  | nil =>
    cases f.grants.isEmpty with
    | true => simp [resident?_of_none]
    | false => rfl
  | cons failure failures =>
    dsimp only
    split
    · simp [gone]
    · simp [resident?_of_none]

namespace GrantCache

variable {c c' : GrantCache} {settings : CacheSettings} {now ready later : Nat} {source : GrantSource}
  {subject j : String} {s : GrantSet} {m : PolicyMethod} {g h : Grant}

/-- The grants in the entry of a subject, served or not. -/
def kept? (c : GrantCache) (subject : String) : Option GrantSet :=
  (c.entries.get? subject).bind CacheEntry.grants

theorem resident?_eq_some :
    c.resident? now subject = some s ↔
      ∃ e, c.entries.get? subject = some e ∧ now < e.expiresAt ∧ e.grants = some s := by
  unfold resident?
  rw [Option.bind_eq_some_iff]
  simp only [CacheEntry.resident?_eq_some]

theorem kept?_of_resident? (hr : c.resident? now subject = some s) : c.kept? subject = some s := by
  obtain ⟨e, he, _, hs⟩ := resident?_eq_some.1 hr
  unfold kept?
  rw [he]
  exact hs

/-- What is served at a moment was served before. -/
theorem resident?_mono (le : now ≤ later) (hr : c.resident? later subject = some s) :
    c.resident? now subject = some s := by
  obtain ⟨e, he, fresh, hs⟩ := resident?_eq_some.1 hr
  exact resident?_eq_some.2 ⟨e, he, by omega, hs⟩

theorem resident?_put (e : CacheEntry) :
    (GrantCache.mk (c.entries.put subject e)).resident? now j =
      if j = subject then e.resident? now else c.resident? now j := by
  unfold resident?
  rw [Table.get?_put]
  split <;> rfl

theorem kept?_put (e : CacheEntry) :
    (GrantCache.mk (c.entries.put subject e)).kept? j =
      if j = subject then e.grants else c.kept? j := by
  unfold kept?
  rw [Table.get?_put]
  split <;> rfl

/-- A subject not seen before is served nothing, and so is its fresh entry. -/
theorem entry_resident? : (c.entry now subject).resident? later = c.resident? later subject := by
  unfold entry resident?
  cases he : c.entries.get? subject with
  | some e => rfl
  | none => exact CacheEntry.resident?_of_none now later

/-! ## Look-ups -/

/-- The cache after the grants of a subject without a current entry were fetched. -/
def settle (settings : CacheSettings) (now : Nat) (f : Fetched) (subject : String)
    (c : GrantCache) : GrantCache :=
  ⟨c.entries.put subject ((c.entry now subject).refetched settings now f)⟩

theorem settle_cases (settings : CacheSettings) (now : Nat) (f : Fetched) (subject : String)
    (c : GrantCache) :
    (f.failures = [] ∧ c.settle settings now f subject =
      ⟨c.entries.put subject ⟨some f.grants, now + settings.lifetime⟩⟩) ∨
    (∃ time, c.settle settings now f subject = ⟨c.entries.put subject ⟨none, time⟩⟩) ∨
    c.settle settings now f subject = ⟨c.entries.put subject (c.entry now subject)⟩ := by
  unfold settle
  rcases (c.entry now subject).refetched_cases settings now f with ⟨complete, h⟩ | ⟨time, h⟩ | h
  all_goals rw [h]
  · exact .inl ⟨complete, rfl⟩
  · exact .inr (.inl ⟨time, rfl⟩)
  · exact .inr (.inr rfl)

/-- **A hit** answers from the entry, which then lives on. -/
theorem serve_of_resident (ready : Nat) (found : Fetched) (hr : c.resident? now subject = some s) :
    c.serve settings now ready found subject =
      ⟨.ok (s.grants subject), ⟨c.entries.put subject ⟨some s, now + settings.lifetime⟩⟩, true,
        []⟩ := by
  unfold serve
  dsimp only
  rw [entry_resident?, hr]

/-- **A miss** answers with what was fetched. -/
theorem serve_of_none (ready : Nat) (found : Fetched) (none : c.resident? now subject = none) :
    c.serve settings now ready found subject =
      ⟨found.verdict settings subject,
        ⟨c.entries.put subject ((c.entry now subject).refetched settings ready found)⟩, false,
        settings.handled⟩ := by
  unfold serve CacheEntry.refetched Fetched.verdict
  dsimp only
  rw [entry_resident?, none]
  obtain ⟨grants, failures⟩ := found
  cases failures with
  | nil => rfl
  | cons failure failures =>
    dsimp only
    split <;> rfl

/-- **A look-up** answers from the resident entry, or fetches. -/
theorem lookup_cases (settings : CacheSettings) (now : Nat) (source : GrantSource) (c : GrantCache)
    (subject : String) :
    let l := c.lookup settings now source subject
    let f := Fetched.ofSource subject settings.handled source
    (∃ s, c.resident? now subject = some s ∧ l.answer = .ok (s.grants subject) ∧
      l.cache = ⟨c.entries.put subject ⟨some s, now + settings.lifetime⟩⟩) ∨
    (c.resident? now subject = none ∧ l.cache = c.settle settings now f subject ∧
      l.answer = f.verdict settings subject) := by
  dsimp only
  unfold lookup
  cases hr : c.resident? now subject with
  | some s =>
    rw [serve_of_resident _ _ hr]
    exact .inl ⟨s, rfl, rfl, rfl⟩
  | none =>
    rw [serve_of_none _ _ hr]
    exact .inr ⟨rfl, rfl, rfl⟩

/-- What is served after a fetch was served before, or was fetched without failures. -/
theorem resident?_settle {f : Fetched} (le : now ≤ later)
    (hr : (c.settle settings now f subject).resident? later j = some s) :
    c.resident? now j = some s ∨ (j = subject ∧ f.failures = [] ∧ s = f.grants) := by
  by_cases hj : j = subject
  · subst hj
    rcases settle_cases settings now f j c with ⟨complete, hc⟩ | ⟨time, hc⟩ | hc
    all_goals rw [hc, resident?_put, if_pos rfl] at hr
    · obtain ⟨_, he⟩ := CacheEntry.resident?_eq_some.1 hr
      cases he
      exact .inr ⟨rfl, complete, rfl⟩
    · obtain ⟨_, he⟩ := CacheEntry.resident?_eq_some.1 hr
      cases he
    · left
      obtain ⟨fresh, he⟩ := CacheEntry.resident?_eq_some.1 hr
      rw [← entry_resident?]
      exact CacheEntry.resident?_eq_some.2 ⟨by omega, he⟩
  · left
    apply resident?_mono le
    rcases settle_cases settings now f subject c with ⟨_, hc⟩ | ⟨_, hc⟩ | hc
    all_goals rwa [hc, resident?_put, if_neg hj] at hr

/-- What is served after a hit was served before. -/
theorem resident?_hit {s' : GrantSet} (le : now ≤ later)
    (hit : c.resident? now subject = some s')
    (hr : (c.lookup settings now source subject).cache.resident? later j = some s) :
    c.resident? now j = some s := by
  rcases lookup_cases settings now source c subject with ⟨s₁, hs, _, hc⟩ | ⟨none, _⟩
  · rw [hc, resident?_put] at hr
    split at hr
    · rename_i hj
      obtain ⟨_, he⟩ := CacheEntry.resident?_eq_some.1 hr
      cases he
      rw [hj]
      exact hs
    · exact resident?_mono le hr
  · rw [hit] at none
    cases none

/-- What is kept after a look-up was kept before, or was fetched on a miss. -/
theorem kept?_serve {found : Fetched}
    (hk : (c.serve settings now ready found subject).cache.kept? j = some s) :
    c.kept? j = some s ∨
      (c.resident? now subject = none ∧ j = subject ∧ s = found.grants) := by
  cases hr : c.resident? now subject with
  | some s' =>
    left
    rw [serve_of_resident _ _ hr, kept?_put] at hk
    split at hk
    · rename_i hj
      cases hk
      rw [hj]
      exact kept?_of_resident? hr
    · exact hk
  | none =>
    rw [serve_of_none _ _ hr, kept?_put] at hk
    split at hk
    · rename_i hj
      subst hj
      rcases (c.entry now j).refetched_cases settings ready found with ⟨_, h⟩ | ⟨_, h⟩ | h
      all_goals rw [h] at hk
      · cases hk
        exact .inr ⟨rfl, rfl, rfl⟩
      · cases hk
      · left
        unfold entry at hk
        unfold kept?
        cases he : c.entries.get? j with
        | none =>
          rw [he] at hk
          cases hk
        | some e =>
          rw [he] at hk
          exact hk
    · exact .inl hk

theorem eq_of_verdict {found : Fetched} {gs : List Grant}
    (hv : found.verdict settings subject = .ok gs) : gs = found.grants.grants subject := by
  unfold Fetched.verdict at hv
  split at hv
  · cases hv
    rfl
  · split at hv
    · cases hv
    · cases hv
      rfl

/-- **The answer of a look-up**, by what is served: the grants, or what was fetched. -/
theorem answer_serve_eq (c : GrantCache) (ready : Nat) (found : Fetched) :
    (c.serve settings now ready found subject).answer =
      (c.resident? now subject).elim (found.verdict settings subject)
        fun s => .ok (s.grants subject) := by
  cases hr : c.resident? now subject with
  | some s => rw [serve_of_resident _ _ hr, Option.elim_some]
  | none => rw [serve_of_none _ _ hr, Option.elim_none]

/-- A look-up answers with what is kept, or fetched on a miss. -/
theorem answer_serve {found : Fetched} {gs : List Grant}
    (ha : (c.serve settings now ready found subject).answer = .ok gs) :
    ∃ s, gs = s.grants subject ∧
      (c.kept? subject = some s ∨ (c.resident? now subject = none ∧ s = found.grants)) := by
  rw [answer_serve_eq] at ha
  cases hr : c.resident? now subject with
  | some s =>
    rw [hr] at ha
    cases ha
    exact ⟨s, rfl, .inl (kept?_of_resident? hr)⟩
  | none =>
    rw [hr] at ha
    exact ⟨_, eq_of_verdict ha, .inr ⟨rfl, rfl⟩⟩

/-- A look-up answers with grants of its subject only, whatever the source names. -/
theorem subject_of_answer {found : Fetched} {gs : List Grant}
    (ha : (c.serve settings now ready found subject).answer = .ok gs) :
    ∀ g ∈ gs, g.subject = subject := by
  obtain ⟨s, rfl, _⟩ := answer_serve ha
  exact fun g hg => (GrantSet.mem_grants.1 hg).1

/-- The source is asked on a miss only, and then for every type. -/
theorem asked_serve (c : GrantCache) (ready : Nat) (found : Fetched) :
    (c.serve settings now ready found subject).asked =
      if (c.resident? now subject).isSome then [] else settings.handled := by
  cases hr : c.resident? now subject with
  | some s => rw [serve_of_resident _ _ hr, if_pos Option.isSome_some]
  | none => rw [serve_of_none _ _ hr, if_neg (by decide)]

/-- What a look-up leaves for its subject: what was served before or else is kept of the fetch, for
as long as an entry lives from now or from when the fetch was ready. -/
def renewed (settings : CacheSettings) (now ready : Nat) (found : Fetched) (later : Nat) :
    Option GrantSet → Option GrantSet
  | some s => if now + settings.lifetime ≤ later then none else some s
  | none => if ready + settings.lifetime ≤ later then none else found.kept?

/-- **What is served after a look-up**: to the subject what was renewed, and to every other one what
was served before. -/
theorem resident?_serve (c : GrantCache) (ready : Nat) (found : Fetched) (le : now ≤ later) :
    (c.serve settings now ready found subject).cache.resident? later j =
      if j = subject then renewed settings now ready found later (c.resident? now subject)
      else c.resident? later j := by
  cases hr : c.resident? now subject with
  | some s =>
    rw [serve_of_resident _ _ hr]
    exact resident?_put _
  | none =>
    -- an entry that has expired stays so
    have gone : c.resident? later subject = none := by
      rw [Option.eq_none_iff_forall_ne_some]
      intro s hs
      rw [resident?_mono le hs] at hr
      cases hr
    rw [serve_of_none _ _ hr, resident?_put, CacheEntry.resident?_refetched]
    · rfl
    · rw [entry_resident?, gone]

/-- **A look-up that is repeated** at once gets the same answer: from the entry, or by the same
fetch. -/
theorem answer_serve_again (lives : 0 < settings.lifetime) (found : Fetched) :
    ((c.serve settings now now found subject).cache.serve settings now now found subject).answer =
      (c.serve settings now now found subject).answer := by
  have alive : ¬now + settings.lifetime ≤ now := by omega
  rw [answer_serve_eq, resident?_serve _ _ _ (Nat.le_refl now), if_pos rfl, answer_serve_eq]
  unfold renewed
  cases c.resident? now subject with
  | some s =>
    dsimp only
    rw [if_neg alive]
  | none =>
    dsimp only
    rw [if_neg alive]
    unfold Fetched.kept?
    split
    · rename_i kept
      unfold Fetched.verdict
      rw [kept.1]
      rfl
    · rfl

/-- A look-up touches the entry of its own subject only. -/
theorem get?_serve_of_ne {found : Fetched} (ne : j ≠ subject) :
    (c.serve settings now ready found subject).cache.entries.get? j = c.entries.get? j := by
  cases hr : c.resident? now subject with
  | some s =>
    rw [serve_of_resident _ _ hr]
    exact Table.get?_put_of_ne ne
  | none =>
    rw [serve_of_none _ _ hr]
    exact Table.get?_put_of_ne ne

/-- A look-up depends on the entry of its own subject only. -/
theorem serve_congr (settings : CacheSettings) (now ready : Nat) (found : Fetched)
    (same : c.entries.get? subject = c'.entries.get? subject) :
    let l := c.serve settings now ready found subject
    let l' := c'.serve settings now ready found subject
    l.answer = l'.answer ∧ l.asked = l'.asked ∧
      l.cache.entries.get? subject = l'.cache.entries.get? subject := by
  have served : c.resident? now subject = c'.resident? now subject := by
    unfold resident?
    rw [same]
  have entry : c.entry now subject = c'.entry now subject := by
    unfold GrantCache.entry
    rw [same]
  dsimp only
  refine ⟨by rw [answer_serve_eq, answer_serve_eq, served], by rw [asked_serve, asked_serve, served],
    ?_⟩
  cases hr : c.resident? now subject with
  | some s =>
    rw [serve_of_resident _ _ hr, serve_of_resident _ _ (served.symm.trans hr)]
    dsimp only
    rw [Table.get?_put_self, Table.get?_put_self]
  | none =>
    rw [serve_of_none _ _ hr, serve_of_none _ _ (served.symm.trans hr)]
    dsimp only
    rw [Table.get?_put_self, Table.get?_put_self, entry]

/-! ## Changes -/

/-- **A change** is applied to a resident entry of a type that is handled, and is of no use
otherwise. -/
theorem update_cases (settings : CacheSettings) (now : Nat) (m : PolicyMethod) (g : Grant)
    (c : GrantCache) :
    (g.resourceType ∉ settings.handled ∧
      c.update settings now m g = .error (.unsupportedType g.resourceType)) ∨
    (g.resourceType ∈ settings.handled ∧ c.resident? now g.subject = none ∧
      c.update settings now m g = .error (.notCached g.subject)) ∨
    (g.resourceType ∈ settings.handled ∧ ∃ e s, c.entries.get? g.subject = some e ∧
      e.resident? now = some s ∧ c.update settings now m g =
        .ok ⟨c.entries.put g.subject ⟨some (s.changed m g), e.expiresAt⟩⟩) := by
  unfold update
  by_cases handled : g.resourceType ∈ settings.handled
  · rw [if_pos (List.contains_iff_mem.2 handled)]
    unfold resident?
    cases he : c.entries.get? g.subject with
    | none => exact .inr (.inl ⟨handled, rfl, rfl⟩)
    | some e =>
      rw [Option.bind_some]
      dsimp only
      cases hs : e.resident? now with
      | none => exact .inr (.inl ⟨handled, rfl, rfl⟩)
      | some s => exact .inr (.inr ⟨handled, e, s, rfl, hs, rfl⟩)
  · rw [if_neg fun h => handled (List.contains_iff_mem.1 h)]
    exact .inl ⟨handled, rfl⟩

/-- A change that is applied adds or removes just its grant in the resident entry of its subject. -/
theorem update_eq_ok (hu : c.update settings now m g = .ok c') :
    g.resourceType ∈ settings.handled ∧
    ∃ e s, c.entries.get? g.subject = some e ∧ e.resident? now = some s ∧
      c' = ⟨c.entries.put g.subject ⟨some (s.changed m g), e.expiresAt⟩⟩ := by
  rcases update_cases settings now m g c with ⟨_, h⟩ | ⟨_, _, h⟩ | ⟨handled, e, s, he, hs, h⟩
  all_goals rw [h] at hu; cases hu
  exact ⟨handled, e, s, he, hs, rfl⟩

/-- **A change is of no use** where its type is not handled or its subject is not resident. -/
theorem update_eq_error_iff {e : PolicyError} :
    c.update settings now m g = .error e ↔
      (g.resourceType ∉ settings.handled ∧ e = .unsupportedType g.resourceType) ∨
      (g.resourceType ∈ settings.handled ∧ c.resident? now g.subject = none ∧
        e = .notCached g.subject) := by
  rcases update_cases settings now m g c with ⟨other, h⟩ | ⟨own, miss, h⟩ | ⟨own, e', s, he, hs, h⟩
  · simp [h, other, eq_comm]
  · simp [h, own, miss, eq_comm]
  · have hit : c.resident? now g.subject = some s := by
      unfold resident?
      rw [he]
      exact hs
    simp [h, own, hit]

/-- **What is served after a change**: the changed grants for its subject, for as long as those
before, and for every other subject what was served before. -/
theorem resident?_update (hu : c.update settings now m g = .ok c') :
    c'.resident? later j =
      if j = g.subject then (c.resident? later j).map (GrantSet.changed m g)
      else c.resident? later j := by
  obtain ⟨_, e, s, he, hs, rfl⟩ := update_eq_ok hu
  rw [resident?_put]
  split
  · rename_i hj
    subst hj
    unfold resident? CacheEntry.resident?
    rw [he, Option.bind_some, (CacheEntry.resident?_eq_some.1 hs).2]
    split <;> rfl
  · rfl

/-- A change touches the entry of its own subject only. -/
theorem get?_update_of_ne (hu : c.update settings now m g = .ok c') (ne : j ≠ g.subject) :
    c'.entries.get? j = c.entries.get? j := by
  obtain ⟨_, e, s, _, _, rfl⟩ := update_eq_ok hu
  exact Table.get?_put_of_ne ne

/-- Whether a change is applied, and else what is wrong with it, depends on what is served. -/
theorem update_of_served (settings : CacheSettings) (m : PolicyMethod)
    (same : c.resident? now g.subject = c'.resident? now g.subject) :
    (∃ e, c.update settings now m g = .error e ∧ c'.update settings now m g = .error e) ∨
    ∃ d d', c.update settings now m g = .ok d ∧ c'.update settings now m g = .ok d' := by
  have errors : ∀ e, c.update settings now m g = .error e ↔ c'.update settings now m g = .error e := by
    intro e
    rw [update_eq_error_iff, update_eq_error_iff, same]
  cases hc : c.update settings now m g with
  | error e => exact .inl ⟨e, rfl, (errors e).1 hc⟩
  | ok d =>
    cases hc' : c'.update settings now m g with
    | error e =>
      rw [(errors e).2 hc'] at hc
      cases hc
    | ok d' => exact .inr ⟨d, d', rfl, rfl⟩

/-- A change depends on the entry of its own subject only. -/
theorem update_congr (settings : CacheSettings) (now : Nat) (m : PolicyMethod)
    (same : c.entries.get? g.subject = c'.entries.get? g.subject) :
    (∃ e, c.update settings now m g = .error e ∧ c'.update settings now m g = .error e) ∨
    ∃ d d', c.update settings now m g = .ok d ∧ c'.update settings now m g = .ok d' ∧
      d.entries.get? g.subject = d'.entries.get? g.subject := by
  have served : c.resident? now g.subject = c'.resident? now g.subject := by
    unfold resident?
    rw [same]
  rcases update_of_served settings m served with errors | ⟨d, d', hc, hc'⟩
  · exact .inl errors
  · obtain ⟨_, e, s, he, hs, rfl⟩ := update_eq_ok hc
    obtain ⟨_, e', s', he', hs', rfl⟩ := update_eq_ok hc'
    rw [same, he'] at he
    cases he
    rw [hs'] at hs
    cases hs
    refine .inr ⟨_, _, hc, hc', ?_⟩
    dsimp only
    rw [Table.get?_put_self, Table.get?_put_self]

/-! ## Sweeps -/

theorem get?_sweep : (c.sweep now).entries.get? subject =
    (c.entries.get? subject).filter fun e => (e.resident? now).isSome :=
  Table.get?_keep _ _ _

/-- A sweep takes away nothing that is served. -/
theorem resident?_sweep (le : now ≤ later) :
    (c.sweep now).resident? later subject = c.resident? later subject := by
  cases hr : c.resident? later subject with
  | some s =>
    obtain ⟨e, he, fresh, hs⟩ := resident?_eq_some.1 hr
    refine resident?_eq_some.2 ⟨e, ?_, fresh, hs⟩
    have : e.resident? now = some s := CacheEntry.resident?_eq_some.2 ⟨by omega, hs⟩
    rw [get?_sweep, he]
    simp [this]
  | none =>
    rw [Option.eq_none_iff_forall_ne_some]
    intro s hs
    obtain ⟨e, he, rest⟩ := resident?_eq_some.1 hs
    rw [get?_sweep, Option.filter_eq_some_iff] at he
    have := resident?_eq_some.2 ⟨e, he.1, rest⟩
    rw [hr] at this
    cases this

/-- The subjects that are served are counted, whatever else the tables hold. -/
theorem residentCount_congr {d : GrantCache}
    (same : ∀ subject, c.resident? now subject = d.resident? now subject) :
    c.residentCount now = d.residentCount now := by
  unfold residentCount
  apply Table.size_congr
  intro subject
  have served : ∀ c : GrantCache, ((c.sweep now).entries.get? subject).isSome =
      (c.resident? now subject).isSome := by
    intro c
    rw [get?_sweep]
    unfold resident?
    cases c.entries.get? subject with
    | none => rfl
    | some e =>
      rw [Option.bind_some, Option.filter_some]
      cases e.resident? now <;> rfl
  rw [served, served, same]

theorem kept?_sweep (hk : (c.sweep now).kept? subject = some s) : c.kept? subject = some s := by
  unfold kept? at hk ⊢
  obtain ⟨e, he, hs⟩ := Option.bind_eq_some_iff.1 hk
  rw [get?_sweep, Option.filter_eq_some_iff] at he
  exact Option.bind_eq_some_iff.2 ⟨e, he.1, hs⟩

end GrantCache

end Marketplace
