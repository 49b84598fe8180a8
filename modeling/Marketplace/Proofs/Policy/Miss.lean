import Marketplace.Proofs.Policy.Tidy

/-!
# What a miss answers and keeps

A miss asks the source once for every type. The source may fail for some types, and what it answers
for the others are arbitrary texts: some are no grants, some are grants of other subjects, and some
say the same. The answer of the miss is the first failure if nothing but failures came back, and
otherwise the grants of the subject that were named, each of them once. It is kept if nothing failed
and it is not empty.

## Results

* `Fetched.failures_ofAnswers`: the failures of a fetch are those among the answers, in order.
* `Fetched.isSome_kept?_iff`: when something is kept.
* `GrantCache.miss_exact`: what a miss answers, and what is served after it.
-/

namespace Marketplace

namespace Fetched

variable {subject : String} {answers : List (Except PolicyError (List String))}

/-- The failure that an answer is. -/
def failure? : Except PolicyError (List String) → Option PolicyError
  | .ok _ => none
  | .error e => some e

/-- Nothing failed. -/
def AllAnswered (answers : List (Except PolicyError (List String))) : Prop :=
  ∀ answer ∈ answers, ∃ texts, answer = .ok texts

/-- Everything failed. -/
def AllFailed (answers : List (Except PolicyError (List String))) : Prop :=
  ∀ answer ∈ answers, ∃ e, answer = .error e

theorem failure?_eq_none_iff {answer : Except PolicyError (List String)} :
    failure? answer = none ↔ ∃ texts, answer = .ok texts := by
  cases answer <;> simp [failure?]

theorem isSome_failure?_iff {answer : Except PolicyError (List String)} :
    (failure? answer).isSome = true ↔ ∃ e, answer = .error e := by
  cases answer <;> simp [failure?]

theorem failures_foldl_add : ∀ (answers : List (Except PolicyError (List String))) (f : Fetched),
    (answers.foldl (add subject) f).failures = f.failures ++ answers.filterMap failure?
  | [], f => (List.append_nil _).symm
  | answer :: answers, f => by
    rw [List.foldl_cons, failures_foldl_add answers]
    cases answer with
    | ok texts => rfl
    | error e => exact List.append_assoc _ _ _

/-- **The failures of a fetch** are those among the answers, in order. -/
theorem failures_ofAnswers (subject : String) (answers : List (Except PolicyError (List String))) :
    (ofAnswers subject answers).failures = answers.filterMap failure? :=
  failures_foldl_add answers _

theorem failures_eq_nil_iff :
    (ofAnswers subject answers).failures = [] ↔ AllAnswered answers := by
  rw [failures_ofAnswers, List.filterMap_eq_nil_iff]
  exact forall₂_congr fun _ _ => failure?_eq_none_iff

theorem length_failures_eq_iff :
    (ofAnswers subject answers).failures.length = answers.length ↔ AllFailed answers := by
  rw [failures_ofAnswers, List.filterMap_length_eq_length]
  exact forall₂_congr fun _ _ => isSome_failure?_iff

/-- When nothing failed, the answer is what was found. -/
theorem verdict_of_allAnswered (settings : CacheSettings) (complete : AllAnswered answers) :
    (ofAnswers subject answers).verdict settings subject =
      .ok ((ofAnswers subject answers).grants.grants subject) := by
  unfold verdict
  rw [failures_eq_nil_iff.2 complete]

/-- When everything failed, the answer is the first failure. -/
theorem verdict_of_allFailed {settings : CacheSettings} {e : PolicyError}
    {rest : List (Except PolicyError (List String))}
    (asked : (.error e :: rest).length = settings.handled.length)
    (failed : AllFailed (.error e :: rest)) :
    (ofAnswers subject (.error e :: rest)).verdict settings subject = .error e := by
  have all : (ofAnswers subject (.error e :: rest)).failures.length = settings.handled.length :=
    (length_failures_eq_iff.2 failed).trans asked
  have first : (ofAnswers subject (.error e :: rest)).failures = e :: rest.filterMap failure? :=
    failures_ofAnswers subject _
  unfold verdict
  rw [first] at all ⊢
  exact if_pos all

/-- When something was answered, or nothing was asked, the answer is what was found. -/
theorem verdict_of_answered {settings : CacheSettings}
    (asked : answers.length = settings.handled.length)
    (answered : settings.handled = [] ∨ ¬AllFailed answers) :
    (ofAnswers subject answers).verdict settings subject =
      .ok ((ofAnswers subject answers).grants.grants subject) := by
  unfold verdict
  split
  · rfl
  · rename_i failure failures first
    refine if_neg fun all => ?_
    rcases answered with none | answered
    · rw [none, List.length_nil, first] at all
      cases all
    · exact answered (length_failures_eq_iff.1 (all.trans asked.symm))

/-- **Something is kept** exactly when nothing failed and a grant was found. -/
theorem isSome_kept?_iff :
    (ofAnswers subject answers).kept?.isSome = true ↔
      AllAnswered answers ∧ (ofAnswers subject answers).grants.grants subject ≠ [] := by
  have complete : (ofAnswers subject answers).failures = [] ↔ AllAnswered answers :=
    failures_eq_nil_iff
  have found := (tidy_ofAnswers subject answers).isEmpty_iff subject
  unfold kept?
  rw [← complete, ne_eq, ← found, Bool.not_eq_true]
  split
  · rename_i kept
    exact iff_of_true rfl kept
  · rename_i lost
    exact iff_of_false Bool.false_ne_true lost

theorem kept?_eq_some {f : Fetched} {s : GrantSet} (h : f.kept? = some s) :
    f.failures = [] ∧ s = f.grants := by
  unfold kept? at h
  split at h
  · rename_i kept
    cases h
    exact ⟨kept.1, rfl⟩
  · cases h

/-- **The grants that a fetch finds**: those of the subject that a text of some answer spells. -/
theorem mem_grants_ofAnswers {g : Grant} :
    g ∈ (ofAnswers subject answers).grants.grants subject ↔
      g.subject = subject ∧
        ∃ texts, .ok texts ∈ answers ∧ ∃ text ∈ texts, Grant.parse text = .ok g := by
  rw [GrantSet.mem_grants]
  refine and_congr_right fun own => ?_
  rw [holds_ofAnswers own]
  constructor
  · rintro ⟨_, given, texts, rfl, spelt⟩
    exact ⟨texts, given, spelt⟩
  · rintro ⟨texts, given, spelt⟩
    exact ⟨_, given, texts, rfl, spelt⟩

end Fetched

namespace GrantCache

open Fetched

variable {settings : CacheSettings} {c : GrantCache} {now ready later : Nat} {subject : String}
  {answers : List (Except PolicyError (List String))}

/-- What is served after a miss is what was kept of the fetch. -/
theorem resident?_miss {found : Fetched} (le : now ≤ later)
    (miss : c.resident? now subject = none) :
    (c.serve settings now ready found subject).cache.resident? later subject =
      if ready + settings.lifetime ≤ later then none else found.kept? := by
  rw [resident?_serve _ _ _ le, if_pos rfl, miss]
  rfl

/-- Whatever is served after a miss is the whole of a fetch in which nothing failed. -/
theorem complete_of_resident?_miss {s : GrantSet} (le : now ≤ later)
    (miss : c.resident? now subject = none)
    (hs : (c.serve settings now ready (.ofAnswers subject answers) subject).cache.resident? later
      subject = some s) :
    AllAnswered answers ∧ s = (ofAnswers subject answers).grants := by
  rw [resident?_miss le miss] at hs
  split at hs
  · cases hs
  · obtain ⟨complete, found⟩ := kept?_eq_some hs
    exact ⟨failures_eq_nil_iff.1 complete, found⟩

/-- **A miss is exact.** The source was asked once for every type. If all that came back were
failures, the answer is the first of them and nothing is served afterwards. Otherwise the answer lists
the grants of the subject that some text spells, each of them once; it is kept exactly when nothing
failed and it is not empty, so that whatever is served later is the whole answer. -/
theorem miss_exact (ready : Nat) (le : now ≤ ready) (miss : c.resident? now subject = none)
    (asked : answers.length = settings.handled.length) :
    let l := c.serve settings now ready (.ofAnswers subject answers) subject
    (settings.handled ≠ [] → AllFailed answers →
      ∃ e, answers.head? = some (.error e) ∧ l.answer = .error e ∧
        ∀ later, now ≤ later → l.cache.resident? later subject = none) ∧
    (settings.handled = [] ∨ ¬AllFailed answers →
      ∃ gs, l.answer = .ok gs ∧ gs.Nodup ∧
        (∀ g, g ∈ gs ↔ g.subject = subject ∧
          ∃ texts, .ok texts ∈ answers ∧ ∃ text ∈ texts, Grant.parse text = .ok g) ∧
        (0 < settings.lifetime →
          ((l.cache.resident? ready subject).isSome = true ↔ AllAnswered answers ∧ gs ≠ [])) ∧
        ∀ later, now ≤ later → ∀ s, l.cache.resident? later subject = some s →
          AllAnswered answers ∧ s.grants subject = gs) := by
  have answer : (c.serve settings now ready (.ofAnswers subject answers) subject).answer =
      (ofAnswers subject answers).verdict settings subject := by
    rw [answer_serve_eq, miss]
    rfl
  dsimp only
  rw [answer]
  constructor
  · intro guards failed
    cases answers with
    | nil => exact (guards (List.eq_nil_of_length_eq_zero asked.symm)).elim
    | cons first rest =>
      obtain ⟨e, rfl⟩ := failed first List.mem_cons_self
      refine ⟨e, rfl, verdict_of_allFailed asked failed, fun later hl => ?_⟩
      rw [Option.eq_none_iff_forall_ne_some]
      intro s hs
      obtain ⟨texts, ok⟩ := (complete_of_resident?_miss hl miss hs).1 _ List.mem_cons_self
      cases ok
  · intro answered
    refine ⟨_, verdict_of_answered asked answered, (tidy_ofAnswers subject answers).nodup_grants _,
      fun g => mem_grants_ofAnswers, fun lives => ?_, fun later hl s hs => ?_⟩
    · rw [resident?_miss le miss, if_neg (by omega), isSome_kept?_iff]
    · obtain ⟨complete, rfl⟩ := complete_of_resident?_miss hl miss hs
      exact ⟨complete, rfl⟩

/-! ## A fetch that fails in part -/

def sampleTypes : CacheSettings := ⟨[Resource.orders, Resource.products, Resource.merchants], 10, 0⟩

/-- A grant that is named twice, one of another subject and a text that is none; then a failure. -/
def sampleAnswers : List (Except PolicyError (List String)) :=
  [.ok ["1:orders:get:7", "1:orders:get", "2:orders:get:8", "1:orders:get:7"],
    .error (.unavailable "down"), .ok []]

/-- The one grant is answered, and no later look-up is a hit. -/
theorem miss_exact_of_sampleAnswers :
    let l := GrantCache.empty.serve sampleTypes 0 3 (.ofAnswers "1" sampleAnswers) "1"
    (∃ gs, l.answer = .ok gs ∧ ⟨"1", Resource.orders, Action.get, "7"⟩ ∈ gs ∧ gs.Nodup) ∧
      ∀ later, l.cache.resident? later "1" = none := by
  have partly : ¬AllAnswered sampleAnswers := by
    intro all
    obtain ⟨texts, ok⟩ := all (.error (.unavailable "down")) (by decide)
    cases ok
  have answered : ¬AllFailed sampleAnswers := by
    intro all
    obtain ⟨e, failed⟩ := all (.ok []) (by decide)
    cases failed
  have fetched : empty.resident? 0 "1" = none := rfl
  have asked : sampleAnswers.length = sampleTypes.handled.length := rfl
  obtain ⟨gs, answer, once, spelt, _, whole⟩ :=
    (miss_exact 3 (Nat.zero_le 3) fetched asked).2 (.inr answered)
  have named : Grant.parse "1:orders:get:7" = .ok ⟨"1", Resource.orders, Action.get, "7"⟩ := by
    decide +kernel
  refine ⟨⟨gs, answer, (spelt _).2 ⟨rfl, _, List.mem_cons_self, _, by decide, named⟩, once⟩,
    fun later => ?_⟩
  rw [Option.eq_none_iff_forall_ne_some]
  exact fun s hs => partly (whole later (Nat.zero_le _) s hs).1

end GrantCache

end Marketplace
