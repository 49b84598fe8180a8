import Marketplace.Proofs.Deeds.Commits
import Marketplace.Proofs.Policy.Enforcer

/-!
# A participant at work leaves grants justified

What a participant does at its desk changes one store and one cache. The store changes by operations
that keep the records sound; the cache takes up what the list of grants answers and what is
announced about it. So a caller who passes a check holds a justified grant, however old the entry is
that the check read.

## Results

* `perform_kept`, `performFor_kept`, `handle_kept`: the records, the news and the cache after an
  operation, a call and an event.
* `performFor_granted`: what a caller holds who is not refused.
* `filterFor_only`: the cache after a listing, and what the listing may show.
-/

namespace Marketplace

namespace Deeds

variable {σ α : Type} {dd : Deeds} {d : Desk σ} {p : Participant σ} {g : Grants}

/-- A source names only grants that are justified. -/
def Reliable (dd : Deeds) (g : Grants) : Prop :=
  ∀ subject t x, Fetched.Names (g.source subject t) x → x.subject = subject → Justified dd x

theorem perform_kept {correlation : String} {operation : Operation σ α} (put : σ → Deeds)
    (start : Kept dd (put d.store) [])
    (commit : ∀ c, operation d.supply.stamp.1 d.store = .ok c → Kept dd (put c.store) c.news) :
    Kept dd (put (p.perform correlation operation d).2.store)
      ((p.performed correlation operation d).map Event.payload) :=
  .of_outcome (p.perform_outcome correlation operation d) put start commit

/-- Asking the cache leaves only justified grants in it, and the answer rests on such. -/
theorem consult_only {β : Type} (ask : GrantStore CountedCache → CountedCache → β × CountedCache)
    (good : β → Prop) (reliable : Reliable dd g) (cache : d.cache.Only (Justified dd))
    (asks : ∀ (store : GrantStore CountedCache) s,
      store.Answers (fun s => s.cache.Only (Justified dd)) (Justified dd) →
      s.cache.Only (Justified dd) →
      (ask store s).2.cache.Only (Justified dd) ∧ good (ask store s).1) :
    (p.consult g ask d).2.cache.Only (Justified dd) ∧ good (p.consult g ask d).1 :=
  asks _ ⟨d.cache, []⟩ (GrantCache.Only.cached _ _ reliable) cache

/-- Whoever passes a check holds justified grants that cover what was asked for. -/
theorem authorize_only (p : Participant σ) (caller : Claims) (needed : List Permission)
    (reliable : Reliable dd g) (cache : d.cache.Only (Justified dd)) :
    (p.consult g (fun store s => store.authorizeAll caller needed s) d).2.cache.Only
      (Justified dd) ∧
    ((p.consult g (fun store s => store.authorizeAll caller needed s) d).1 = .ok () →
      ∀ q ∈ needed, ∃ x, Justified dd x ∧ x.covers (GrantStore.request caller q) = true) :=
  consult_only (fun store s => store.authorizeAll caller needed s) (fun x => x = .ok () →
    ∀ q ∈ needed, ∃ x, Justified dd x ∧ x.covers (GrantStore.request caller q) = true)
    reliable cache fun _ _ answers kind => answers.authorizeAll needed _ kind

/-- **A call** is refused, or comes out as its operation does for a caller who holds justified
grants that cover what the call needs. -/
theorem performFor_kept (p : Participant σ) (caller : Claims) (needed : List Permission)
    (correlation : String) (operation : Operation σ α) (put : σ → Deeds)
    (reliable : Reliable dd g) (cache : d.cache.Only (Justified dd))
    (start : Kept dd (put d.store) [])
    (commit : (∀ q ∈ needed, ∃ x, Justified dd x ∧ x.covers (GrantStore.request caller q) = true) →
      ∀ c, operation d.supply.stamp.1 d.store = .ok c → Kept dd (put c.store) c.news) :
    Kept dd (put (p.performFor g caller needed correlation operation d).2.store)
      ((p.performedFor g caller needed correlation operation d).map Event.payload) ∧
    (p.performFor g caller needed correlation operation d).2.cache.Only (Justified dd) := by
  have checked := authorize_only p caller needed reliable cache
  obtain ⟨store, supply, _⟩ :=
    p.consult_cases g (fun store s => store.authorizeAll caller needed s) d
  unfold Participant.performFor Participant.performedFor
  cases hc : p.consult g (fun store s => store.authorizeAll caller needed s) d with
  | mk x d' =>
    rw [hc] at checked store supply
    obtain ⟨only, pass⟩ := checked
    cases x with
    | error e =>
      dsimp only at store only ⊢
      rw [store]
      exact ⟨start, only⟩
    | ok u =>
      dsimp only at store supply only pass ⊢
      constructor
      · apply perform_kept put
        · rw [store]
          exact start
        · rw [store, supply]
          exact commit (pass rfl)
      · rw [Participant.perform_cache]
        exact only

/-- Whoever is not refused for lack of a grant holds justified grants. -/
theorem performFor_granted (p : Participant σ) (caller : Claims) (needed : List Permission)
    (correlation : String) (operation : Operation σ α) (reliable : Reliable dd g)
    (cache : d.cache.Only (Justified dd))
    (passes : ∀ e, (p.performFor g caller needed correlation operation d).1 ≠ .error (.policy e)) :
    ∀ q ∈ needed, ∃ x, Justified dd x ∧ x.covers (GrantStore.request caller q) = true := by
  obtain ⟨_, pass⟩ := authorize_only p caller needed reliable cache
  unfold Participant.performFor at passes
  cases hc : p.consult g (fun store s => store.authorizeAll caller needed s) d with
  | mk x d' =>
    rw [hc] at pass passes
    cases x with
    | error e => exact (passes e rfl).elim
    | ok u => exact pass rfl

/-- **A listing** shows what justified grants name. -/
theorem filterFor_only (p : Participant σ) (caller : Claims) (t : String) (reliable : Reliable dd g)
    (cache : d.cache.Only (Justified dd)) :
    (p.filterFor g caller t d).2.cache.Only (Justified dd) ∧
    ∀ f, (p.filterFor g caller t d).1 = .ok f → ∀ i, f.allows i = true →
      ∃ a j, (a = Action.any ∨ a = Action.get) ∧ (j = i ∨ j = wildcard) ∧
        Justified dd ⟨caller.subject, t, a, j⟩ := by
  have consulted := consult_only (p := p) (d := d)
    (fun store s => store.resourceFilter caller t s)
    (fun x => ∀ f, x = .ok f → ∀ i, f.allows i = true →
      ∃ a j, (a = Action.any ∨ a = Action.get) ∧ (j = i ∨ j = wildcard) ∧
        Justified dd ⟨caller.subject, t, a, j⟩)
    reliable cache fun store s answers kind => answers.resourceFilter t kind
  unfold Participant.filterFor
  cases hc : p.consult g (fun store s => store.resourceFilter caller t s) d with
  | mk x d' =>
    rw [hc] at consulted
    obtain ⟨only, shows⟩ := consulted
    cases x with
    | error e => exact ⟨only, fun _ hf => nomatch hf⟩
    | ok f =>
      refine ⟨only, ?_⟩
      intro f' hf
      cases hf
      exact shows f rfl

/-- **An event** that is backed comes out as the operation that it asks for, or tells the cache of a
justified grant. -/
theorem handle_kept {correlation : String} {payload : Payload} (put : σ → Deeds)
    (cache : d.cache.Only (Justified dd)) (start : Kept dd (put d.store) [])
    (patches : ∀ m x, p.react payload = some (.patch m x) → m = .put → Justified dd x)
    (commit : ∀ operation, p.react payload = some (.perform operation) →
      ∀ c, operation d.supply.stamp.1 d.store = .ok c → Kept dd (put c.store) c.news) :
    Kept dd (put (p.handle g correlation payload d).2.store)
      ((p.handled correlation payload d).map Event.payload) ∧
    (p.handle g correlation payload d).2.cache.Only (Justified dd) := by
  unfold Participant.handle Participant.handled
  cases hr : p.react payload with
  | none => exact ⟨start, cache⟩
  | some reaction =>
    cases reaction with
    | patch m x =>
      obtain ⟨store, _⟩ := p.patch_cases g m x d
      dsimp only
      rw [store]
      refine ⟨start, ?_⟩
      rcases p.patch_cache g m x d with ⟨c, hu, hc⟩ | ⟨e, _, hc⟩
      · rw [hc]
        exact cache.update hu (patches m x hr)
      · rw [hc]
        exact cache
    | perform operation =>
      refine ⟨perform_kept put start (commit operation hr), ?_⟩
      dsimp only
      rw [Participant.perform_cache]
      exact cache

end Deeds

end Marketplace
