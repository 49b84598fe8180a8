import Marketplace.Policy.Guarded
import Marketplace.Proofs.Policy.Cache

/-!
# What a passed check rests on

A check asks a store for the grants of the caller. When the store only ever answers with grants of
some quality, a caller who passes holds a grant of that quality that covers the request, and what a
caller may list is named by such grants. The store in question is a cache in front of a source.

## Results

* `GrantStore.Answers.authorizeAll`: the grants behind a passed check.
* `GrantStore.Answers.resourceFilter`: the grants behind a filter.
* `GrantCache.Only.cached`: a cache answers with what it keeps or fetches.
-/

namespace Marketplace

namespace GrantStore

variable {σ : Type}

theorem mem_appendNew {more : List String} {i : String} : ∀ {ids : List String},
    i ∈ appendNew ids more ↔ i ∈ ids ∨ i ∈ more := by
  unfold appendNew
  induction more with
  | nil => simp
  | cons m more ih =>
    intro ids
    rw [List.foldl_cons, ih]
    split
    · rename_i known
      have known : m ∈ ids := List.contains_iff_mem.1 known
      grind
    · simp [or_assoc]

/-- In a state of a kind, the store answers with grants of the subject and of a quality, and stays
in such a state. -/
structure Answers (store : GrantStore σ) (kind : σ → Prop) (good : Grant → Prop) : Prop where
  keeps : ∀ subject s, kind s → kind (store.grantsOf subject s).2
  answers : ∀ subject s gs, kind s → (store.grantsOf subject s).1 = .ok gs →
    ∀ g ∈ gs, g.subject = subject ∧ good g

namespace Answers

variable {store : GrantStore σ} {kind : σ → Prop} {good : Grant → Prop} {s : σ} {c : Claims}

theorem enforce (h : Answers store kind good) (rule : Matcher) (r : Grant) (hs : kind s) :
    kind (store.enforce rule r.text s).2 ∧
    ((store.enforce rule r.text s).1 = true → ∃ g, good g ∧ rule r g = true) := by
  unfold GrantStore.enforce
  cases hp : Grant.parse r.text with
  | error e => exact ⟨hs, fun pass => nomatch pass⟩
  | ok r' =>
    cases Grant.eq_of_parse_text hp
    dsimp only
    have keeps := h.keeps r.subject s hs
    have answers := h.answers r.subject s
    cases hq : store.grantsOf r.subject s with
    | mk x s' =>
      rw [hq] at keeps answers
      cases x with
      | error e => exact ⟨keeps, fun pass => nomatch pass⟩
      | ok gs =>
        refine ⟨keeps, fun pass => ?_⟩
        obtain ⟨g, hg, covers⟩ := List.any_eq_true.1 pass
        exact ⟨g, (answers gs hs rfl g hg).2, covers⟩

/-- **Whoever passes holds a grant for every permission.** -/
theorem authorizeAll (h : Answers store kind good) : ∀ (needed : List Permission) (s : σ), kind s →
    kind (store.authorizeAll c needed s).2 ∧
    ((store.authorizeAll c needed s).1 = .ok () →
      ∀ p ∈ needed, ∃ g, good g ∧ g.covers (request c p) = true)
  | [], _, hs => ⟨hs, fun _ _ hp => nomatch hp⟩
  | p :: ps, s, hs => by
    unfold GrantStore.authorizeAll authorize
    obtain ⟨keeps, pass⟩ := h.enforce .standard (request c p) hs
    cases he : store.enforce .standard (request c p).text s with
    | mk x s' =>
      rw [he] at keeps pass
      cases x with
      | false => exact ⟨keeps, fun all => nomatch all⟩
      | true =>
        obtain ⟨kept, rest⟩ := authorizeAll h ps s' keeps
        refine ⟨kept, fun all q hq => ?_⟩
        rcases List.mem_cons.1 hq with rfl | hq
        · exact pass rfl
        · exact rest all q hq

/-- The resources that are answered for an action are those of grants for it. -/
theorem resourceIds (h : Answers store kind good) (subject t a : String) (hs : kind s) :
    kind (store.resourceIds subject t a s).2 ∧
    ∀ i ∈ (store.resourceIds subject t a s).1, good ⟨subject, t, a, i⟩ := by
  unfold GrantStore.resourceIds
  have keeps := h.keeps subject s hs
  have answers := h.answers subject s
  cases hq : store.grantsOf subject s with
  | mk x s' =>
    rw [hq] at keeps answers
    cases x with
    | error e => exact ⟨keeps, fun _ hi => nomatch hi⟩
    | ok gs =>
      refine ⟨keeps, ?_⟩
      intro i hi
      obtain ⟨g, hg, rfl⟩ := List.mem_map.1 hi
      obtain ⟨hg, fits⟩ := List.mem_filter.1 hg
      obtain ⟨rfl, quality⟩ := answers gs hs rfl g hg
      simp only [Bool.and_eq_true, decide_eq_true_iff] at fits
      obtain ⟨rfl, rfl⟩ := fits
      exact quality

/-- **What a filter lets through** is named by a grant to do anything or to look, or lies under a
wildcard. -/
theorem resourceFilter (h : Answers store kind good) (t : String) (hs : kind s) :
    kind (store.resourceFilter c t s).2 ∧
    ∀ f, (store.resourceFilter c t s).1 = .ok f → ∀ i, f.allows i = true →
      ∃ a j, (a = Action.any ∨ a = Action.get) ∧ (j = i ∨ j = wildcard) ∧
        good ⟨c.subject, t, a, j⟩ := by
  unfold GrantStore.resourceFilter
  obtain ⟨keeps, all⟩ := h.resourceIds c.subject t Action.any hs
  cases ha : store.resourceIds c.subject t Action.any s with
  | mk forAny s₁ =>
    rw [ha] at keeps all
    obtain ⟨keeps, looks⟩ := h.resourceIds c.subject t Action.get keeps
    dsimp only
    cases hg : store.resourceIds c.subject t Action.get s₁ with
    | mk forGet s₂ =>
      rw [hg] at keeps looks
      have named : ∀ j ∈ appendNew forAny forGet,
          ∃ a, (a = Action.any ∨ a = Action.get) ∧ good ⟨c.subject, t, a, j⟩ := by
        intro j hj
        rcases mem_appendNew.1 hj with hj | hj
        · exact ⟨_, .inl rfl, all j hj⟩
        · exact ⟨_, .inr rfl, looks j hj⟩
      dsimp only
      split
      · exact ⟨keeps, fun _ hf => nomatch hf⟩
      · split
        · rename_i wild
          refine ⟨keeps, fun f _ i _ => ?_⟩
          obtain ⟨a, ha, quality⟩ := named _ (List.contains_iff_mem.1 wild)
          exact ⟨a, wildcard, ha, .inr rfl, quality⟩
        · refine ⟨keeps, fun f hf i hi => ?_⟩
          cases hf
          obtain ⟨a, ha, quality⟩ := named i (List.contains_iff_mem.1 hi)
          exact ⟨a, i, ha, .inl rfl, quality⟩

end Answers

end GrantStore

namespace GrantCache

variable {c c' : GrantCache} {good better : Grant → Prop}

/-- Every grant that the cache keeps, served or not, is of a quality. -/
def Only (good : Grant → Prop) (c : GrantCache) : Prop :=
  ∀ subject s, c.kept? subject = some s → ∀ g ∈ s.grants subject, good g

theorem only_empty : empty.Only good := fun _ _ hk => nomatch hk

theorem Only.mono (h : c.Only good) (le : ∀ g, good g → better g) : c.Only better :=
  fun subject s hk g hg => le g (h subject s hk g hg)

/-- What a fetch from a source holds is what its answers name. -/
theorem good_of_fetched {subject : String} {types : List String} {source : GrantSource}
    (names : ∀ t g, Fetched.Names (source t) g → g.subject = subject → good g) :
    ∀ g ∈ (Fetched.ofSource subject types source).grants.grants subject, good g := by
  intro g hg
  obtain ⟨own, held⟩ := GrantSet.mem_grants.1 hg
  obtain ⟨t, _, named⟩ := (Fetched.holds_ofSource own types).1 held
  exact names t g named own

theorem Only.serve (h : c.Only good) {settings : CacheSettings} {now ready : Nat} {subject : String}
    {found : Fetched}
    (fetched : c.resident? now subject = none → ∀ g ∈ found.grants.grants subject, good g) :
    (c.serve settings now ready found subject).cache.Only good := by
  intro j s hk g hg
  rcases kept?_serve hk with hk | ⟨miss, rfl, rfl⟩
  · exact h j s hk g hg
  · exact fetched miss g hg

/-- A look-up answers with grants of the quality. -/
theorem Only.answer (h : c.Only good) {settings : CacheSettings} {now ready : Nat}
    {subject : String} {found : Fetched}
    (fetched : c.resident? now subject = none → ∀ g ∈ found.grants.grants subject, good g)
    {gs : List Grant}
    (ha : (c.serve settings now ready found subject).answer = .ok gs) :
    ∀ g ∈ gs, g.subject = subject ∧ good g := by
  obtain ⟨s, rfl, from'⟩ := answer_serve ha
  intro g hg
  refine ⟨(GrantSet.mem_grants.1 hg).1, ?_⟩
  rcases from' with hk | ⟨miss, rfl⟩
  · exact h subject s hk g hg
  · exact fetched miss g hg

/-- **A cache answers with what it keeps or fetches.** -/
theorem Only.cached (settings : CacheSettings) (now : Nat) {source : String → GrantSource}
    (names : ∀ subject t g, Fetched.Names (source subject t) g → g.subject = subject → good g) :
    (GrantStore.cached settings now source).Answers (fun s => s.cache.Only good) good where
  keeps subject _ h := h.serve fun _ => good_of_fetched (names subject)
  answers subject _ _ h answer := h.answer (fun _ => good_of_fetched (names subject)) answer

/-- A change adds its grant if it gives one, and nothing else. -/
theorem Only.update (h : c.Only good) {settings : CacheSettings} {now : Nat} {m : PolicyMethod}
    {g : Grant} (hu : c.update settings now m g = .ok c') (put : m = .put → good g) :
    c'.Only good := by
  obtain ⟨_, e, s, he, resident, rfl⟩ := update_eq_ok hu
  intro j set hk k hg
  rw [kept?_put] at hk
  split at hk
  · rename_i hj
    subst hj
    cases hk
    obtain ⟨own, held⟩ := GrantSet.mem_grants.1 hg
    rw [GrantSet.holds_changed own] at held
    split at held
    · rename_i hkg
      rw [hkg]
      exact put held
    · refine h g.subject s ?_ k (GrantSet.mem_grants.2 ⟨own, held⟩)
      unfold kept?
      rw [he]
      exact (CacheEntry.resident?_eq_some.1 resident).2
  · exact h j set hk k hg

theorem Only.sweep (h : c.Only good) (now : Nat) : (c.sweep now).Only good :=
  fun subject s hk => h subject s (kept?_sweep hk)

end GrantCache

end Marketplace
