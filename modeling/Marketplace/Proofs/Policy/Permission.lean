import Marketplace.Proofs.Identifier
import Marketplace.Proofs.Policy.Enforcer

/-!
# Who may do what

A check prints a request and reads it back before it compares anything, so it has to be said which
requests survive this: those without an empty field or a field with a colon. They pass if and only
if the store, asked for the grants of the subject, answers with one that covers them. A listing never
prints a request. It goes through the grants on its own, and comes to the same result.

## Results

* `enforce_iff`, `enforce_text`: which requests pass.
* `checks_exact`: which texts and which callers pass, and which subject is asked about.
* `listing_agrees`: what a caller may list is what the caller may get.
-/

namespace Marketplace

namespace GrantStore

variable {σ : Type} {store : GrantStore σ} {s : σ} {c : Claims}

/-! ## Checks -/

/-- Whether an answer of the store lets a request pass. -/
def passes (rule : Matcher) (r : Grant) : Except PolicyError (List Grant) → Bool
  | .ok gs => gs.any fun g => rule r g
  | .error _ => false

/-- A text that is no request is denied unseen. -/
theorem enforce_of_error (rule : Matcher) {text : String} {e : PolicyError}
    (hp : Grant.parse text = .error e) : store.enforce rule text s = (false, s) := by
  unfold enforce
  rw [hp]

/-- A request is decided by what the store answers for its subject. -/
theorem enforce_of_ok (rule : Matcher) {text : String} {r : Grant}
    (hp : Grant.parse text = .ok r) :
    store.enforce rule text s =
      (passes rule r (store.grantsOf r.subject s).1, (store.grantsOf r.subject s).2) := by
  unfold enforce
  rw [hp]
  dsimp only
  obtain ⟨answer, s'⟩ := store.grantsOf r.subject s
  cases answer <;> rfl

/-- The store answers with grants of the subject of a request, one of which covers it. -/
def Permits (store : GrantStore σ) (s : σ) (r : Grant) : Prop :=
  ∃ gs, (store.grantsOf r.subject s).1 = .ok gs ∧
    ∃ g ∈ gs, r.subject = g.subject ∧ r.resourceType = g.resourceType ∧
      (g.action = r.action ∨ g.action = wildcard) ∧
      (g.resourceId = r.resourceId ∨ g.resourceId = wildcard)

theorem passes_iff_permits {r : Grant} :
    passes .standard r (store.grantsOf r.subject s).1 = true ↔ store.Permits s r := by
  unfold Permits
  cases (store.grantsOf r.subject s).1 with
  | error e => simp [passes]
  | ok gs => simp [passes, Matcher.standard, Grant.covers_iff]

/-- **Which texts pass**: those of proper requests that the store permits. -/
theorem enforce_iff {text : String} :
    (store.enforce .standard text s).1 = true ↔
      ∃ r : Grant, r.isWellFormed = true ∧ r.text = text ∧ store.Permits s r := by
  cases hp : Grant.parse text with
  | error e =>
    rw [enforce_of_error _ hp]
    refine ⟨nofun, ?_⟩
    rintro ⟨r, proper, reads, _⟩
    rw [Grant.parse_eq_ok_iff.2 ⟨proper, reads⟩] at hp
    cases hp
  | ok r =>
    rw [enforce_of_ok _ hp, passes_iff_permits]
    obtain ⟨proper, reads⟩ := Grant.parse_eq_ok_iff.1 hp
    constructor
    · exact fun permits => ⟨r, proper, reads, permits⟩
    · rintro ⟨r', proper', reads', permits⟩
      have := Grant.parse_eq_ok_iff.2 ⟨proper', reads'⟩
      rw [hp] at this
      cases this
      exact permits

/-- **Whether a printed request passes.** -/
theorem enforce_text (r : Grant) :
    (store.enforce .standard r.text s).1 = true ↔ r.isWellFormed = true ∧ store.Permits s r := by
  rw [enforce_iff]
  constructor
  · rintro ⟨r', proper, reads, permits⟩
    cases Grant.eq_of_parse_text (Grant.parse_eq_ok_iff.2 ⟨proper, reads⟩)
    exact ⟨proper, permits⟩
  · exact fun ⟨proper, permits⟩ => ⟨r, proper, rfl, permits⟩

/-- The request of a caller is proper if what is asked for is. -/
theorem isWellFormed_request {p : Permission} :
    (request c p).isWellFormed = true ↔
      ∀ field ∈ [p.resourceType, p.action, p.resourceId], Grant.isField field = true := by
  rw [Grant.isWellFormed_iff]
  unfold request Claims.subject
  simp [AccountId.isField_subject]

/-- A caller is let pass, or is denied. -/
theorem authorize_eq (store : GrantStore σ) (c : Claims) (p : Permission) (s : σ) :
    store.authorize c p s =
      (if (store.enforce .standard (request c p).text s).1 then .ok () else .error .denied,
        (store.enforce .standard (request c p).text s).2) := by
  unfold authorize
  obtain ⟨pass, s'⟩ := store.enforce .standard (request c p).text s
  cases pass <;> rfl

/-- **Which callers pass**: those who ask for something proper that the store permits them. -/
theorem authorize_eq_ok_iff {p : Permission} :
    (store.authorize c p s).1 = .ok () ↔
      (∀ field ∈ [p.resourceType, p.action, p.resourceId], Grant.isField field = true) ∧
        store.Permits s (request c p) := by
  rw [authorize_eq, ← isWellFormed_request, ← enforce_text]
  simp

theorem authorize_eq_error_iff {p : Permission} {e : PolicyError} :
    (store.authorize c p s).1 = .error e ↔ (store.authorize c p s).1 ≠ .ok () ∧ e = .denied := by
  rw [authorize_eq]
  dsimp only
  split <;> simp [eq_comm]

/-! ## Who is asked about -/

/-- The store, with a record of the subjects that it was asked about. -/
def recorded (store : GrantStore σ) : GrantStore (σ × List String) where
  grantsOf subject s :=
    let l := store.grantsOf subject s.1
    (l.1, l.2, s.2 ++ [subject])

/-- A check asks about the subject of the request once, if the request reads at all. -/
theorem enforce_recorded (rule : Matcher) (r : Grant) (asked : List String) :
    store.recorded.enforce rule r.text (s, asked) =
      ((store.enforce rule r.text s).1, (store.enforce rule r.text s).2,
        asked ++ if r.isWellFormed then [r.subject] else []) := by
  have hp := Grant.parse_text r
  cases proper : r.isWellFormed with
  | true =>
    rw [proper, if_pos rfl] at hp
    rw [enforce_of_ok _ hp, enforce_of_ok _ hp]
    rfl
  | false =>
    rw [proper, if_neg Bool.false_ne_true] at hp
    rw [enforce_of_error _ hp, enforce_of_error _ hp, if_neg Bool.false_ne_true, List.append_nil]

theorem authorize_recorded (p : Permission) (asked : List String) :
    store.recorded.authorize c p (s, asked) =
      ((store.authorize c p s).1, (store.authorize c p s).2,
        asked ++ if (request c p).isWellFormed then [c.subject] else []) := by
  rw [authorize_eq, enforce_recorded, authorize_eq]
  rfl

/-- **Checks are exact.** A text passes if and only if it is made of four fields, none of them empty
or with a colon, and the store permits that. A caller passes if and only if the three fields that the
caller does not vouch for are such and the store permits them, and is denied otherwise. No subject
but the caller is ever asked about. -/
theorem checks_exact (store : GrantStore σ) (s : σ) :
    (∀ text, (store.enforce .standard text s).1 = true ↔
      ∃ subject t a i, (∀ field ∈ [subject, t, a, i], Grant.isField field = true) ∧
        text = subject ++ ":" ++ t ++ ":" ++ a ++ ":" ++ i ∧
        store.Permits s ⟨subject, t, a, i⟩) ∧
    ∀ (c : Claims) (t a i : String),
      let proper := ∀ field ∈ [t, a, i], Grant.isField field = true
      let permitted := store.Permits s ⟨c.subject, t, a, i⟩
      ((store.authorize c ⟨t, a, i⟩ s).1 = .ok () ↔ proper ∧ permitted) ∧
      ((store.authorize c ⟨t, a, i⟩ s).1 = .error .denied ↔ ¬(proper ∧ permitted)) ∧
      ∃ asked, store.recorded.authorize c ⟨t, a, i⟩ (s, []) =
          ((store.authorize c ⟨t, a, i⟩ s).1, (store.authorize c ⟨t, a, i⟩ s).2, asked) ∧
        (proper → asked = [c.subject]) ∧ (¬proper → asked = []) := by
  constructor
  · intro text
    rw [enforce_iff]
    constructor
    · rintro ⟨r, proper, rfl, permits⟩
      rw [Grant.isWellFormed_iff] at proper
      exact ⟨r.subject, r.resourceType, r.action, r.resourceId, by simpa using proper, rfl, permits⟩
    · rintro ⟨subject, t, a, i, proper, rfl, permits⟩
      exact ⟨⟨subject, t, a, i⟩, Grant.isWellFormed_iff.2 (by simpa using proper), rfl, permits⟩
  · intro c t a i
    have denied : (store.authorize c ⟨t, a, i⟩ s).1 = .error .denied ↔
        (store.authorize c ⟨t, a, i⟩ s).1 ≠ .ok () := by simp [authorize_eq_error_iff]
    refine ⟨authorize_eq_ok_iff, denied.trans (not_congr authorize_eq_ok_iff), _,
      authorize_recorded ⟨t, a, i⟩ [], ?_, ?_⟩
    · exact fun proper => if_pos (isWellFormed_request.2 proper)
    · exact fun bad => if_neg fun proper => bad (isWellFormed_request.1 proper)

/-! ## Listings -/

/-- In a state of a kind, the store gives one answer for a subject, and stays in such a state. -/
structure Steady (store : GrantStore σ) (kind : σ → Prop) (subject : String)
    (answer : Except PolicyError (List Grant)) : Prop where
  keeps : ∀ s, kind s → kind (store.grantsOf subject s).2
  answers : ∀ s, kind s → (store.grantsOf subject s).1 = answer

/-- The store is about to give an answer for a subject. -/
def Gives (store : GrantStore σ) (subject : String) (answer : Except PolicyError (List Grant))
    (s : σ) : Prop :=
  (store.grantsOf subject s).1 = answer

/-- The resources that an answer names for a type and an action. -/
def idsIn (t a : String) : Except PolicyError (List Grant) → List String
  | .ok gs => (gs.filter fun g => g.resourceType = t && g.action = a).map Grant.resourceId
  | .error _ => []

theorem resourceIds_eq (store : GrantStore σ) (subject t a : String) (s : σ) :
    store.resourceIds subject t a s =
      (idsIn t a (store.grantsOf subject s).1, (store.grantsOf subject s).2) := by
  unfold resourceIds
  obtain ⟨answer, s'⟩ := store.grantsOf subject s
  cases answer <;> rfl

theorem mem_idsIn {t a i : String} {answer : Except PolicyError (List Grant)} :
    i ∈ idsIn t a answer ↔
      ∃ gs, answer = .ok gs ∧ ∃ g ∈ gs, g.resourceType = t ∧ g.action = a ∧ g.resourceId = i := by
  cases answer with
  | error e => simp [idsIn]
  | ok gs => simp [idsIn, and_assoc]

/-- The filter for some resources. -/
def filterFor (ids : List String) : Except PolicyError ResourceFilter :=
  if ids.isEmpty then .error .denied
  else if ids.contains wildcard then .ok .unrestricted
  else .ok (.only ids)

theorem filterFor_allows {ids : List String} {i : String} :
    (∃ f, filterFor ids = .ok f ∧ f.allows i = true) ↔ i ∈ ids ∨ wildcard ∈ ids := by
  unfold filterFor
  split
  · rename_i none
    rw [List.isEmpty_iff.1 none]
    simp
  · split
    · rename_i wild
      simp [ResourceFilter.allows, List.contains_iff_mem.1 wild]
    · rename_i named
      have named : wildcard ∉ ids := fun h => named (List.contains_iff_mem.2 h)
      simp [ResourceFilter.allows, named]

theorem filterFor_eq_error_iff {ids : List String} {e : PolicyError} :
    filterFor ids = .error e ↔ ids = [] ∧ e = .denied := by
  unfold filterFor
  cases ids with
  | nil => simp [eq_comm]
  | cons i ids =>
    simp only [List.isEmpty_cons, Bool.false_eq_true, if_false, reduceCtorEq, false_and, iff_false]
    split <;> exact nofun

/-- The resources that an answer lets a subject list. -/
def listed (t : String) (answer : Except PolicyError (List Grant)) : List String :=
  appendNew (idsIn t Action.any answer) (idsIn t Action.get answer)

theorem mem_listed {t i : String} {answer : Except PolicyError (List Grant)} :
    i ∈ listed t answer ↔ ∃ gs, answer = .ok gs ∧ ∃ g ∈ gs, g.resourceType = t ∧
      (g.action = Action.get ∨ g.action = Action.any) ∧ g.resourceId = i := by
  unfold listed
  rw [mem_appendNew, mem_idsIn, mem_idsIn]
  constructor
  · rintro (⟨gs, ok, g, hg, type, action, id⟩ | ⟨gs, ok, g, hg, type, action, id⟩)
    · exact ⟨gs, ok, g, hg, type, .inr action, id⟩
    · exact ⟨gs, ok, g, hg, type, .inl action, id⟩
  · rintro ⟨gs, ok, g, hg, type, action | action, id⟩
    · exact .inr ⟨gs, ok, g, hg, type, action, id⟩
    · exact .inl ⟨gs, ok, g, hg, type, action, id⟩

namespace Steady

variable {kind : σ → Prop} {answer : Except PolicyError (List Grant)}

/-- **A filter is made of two look-ups**, which get the same answer. -/
theorem resourceFilter (steady : store.Steady kind c.subject answer) (t : String) (hs : kind s) :
    (store.resourceFilter c t s).1 = filterFor (listed t answer) := by
  have first := steady.answers s hs
  have second := steady.answers _ (steady.keeps s hs)
  unfold GrantStore.resourceFilter filterFor listed
  rw [resourceIds_eq, first]
  dsimp only
  rw [resourceIds_eq, second]
  dsimp only
  split
  · rfl
  · split <;> rfl

/-- **To get a resource** takes a grant that lists it, or lists all. -/
theorem permits_get (steady : store.Steady kind c.subject answer)
    (own : ∀ gs, answer = .ok gs → ∀ g ∈ gs, g.subject = c.subject) {t i : String} (hs : kind s) :
    store.Permits s (request c ⟨t, Action.get, i⟩) ↔
      i ∈ listed t answer ∨ wildcard ∈ listed t answer := by
  unfold Permits request
  rw [steady.answers s hs, mem_listed, mem_listed]
  constructor
  · rintro ⟨gs, ok, g, hg, -, type, action, id | id⟩
    · exact .inl ⟨gs, ok, g, hg, type.symm, action, id⟩
    · exact .inr ⟨gs, ok, g, hg, type.symm, action, id⟩
  · rintro (⟨gs, ok, g, hg, type, action, id⟩ | ⟨gs, ok, g, hg, type, action, id⟩)
    · exact ⟨gs, ok, g, hg, (own gs ok g hg).symm, type.symm, action, .inl id⟩
    · exact ⟨gs, ok, g, hg, (own gs ok g hg).symm, type.symm, action, .inr id⟩

/-- **A cache in front of a source** is steady at one moment, if its entries live at all: what it
answers once it answers again, be it because the answer was kept or because the fetch is repeated. -/
theorem cached {settings : CacheSettings} (lives : 0 < settings.lifetime) (now : Nat)
    (source : String → GrantSource) (subject : String)
    (answer : Except PolicyError (List Grant)) :
    (GrantStore.cached settings now source).Steady
      ((GrantStore.cached settings now source).Gives subject answer) subject answer where
  keeps := by
    rintro s rfl
    exact GrantCache.answer_serve_again lives _
  answers _ hs := hs

end Steady

/-- **Listing and checking agree.** Let a store give one answer, an error or grants of the caller,
however often it is asked for them. Then a caller may list a resource of a proper type if and only if
a check lets the caller get it; and where a listing fails, the caller lacks the permission and no
check lets the caller get anything of the type. -/
theorem listing_agrees {kind : σ → Prop} {answer : Except PolicyError (List Grant)}
    (steady : store.Steady kind c.subject answer)
    (own : ∀ gs, answer = .ok gs → ∀ g ∈ gs, g.subject = c.subject)
    {t : String} (ht : Grant.isField t = true) {listing checking : σ} (hl : kind listing)
    (hc : kind checking) :
    (∀ i, Grant.isField i = true →
      ((∃ f, (store.resourceFilter c t listing).1 = .ok f ∧ f.allows i = true) ↔
        (store.enforce .standard (request c ⟨t, Action.get, i⟩).text checking).1 = true)) ∧
    ∀ e, (store.resourceFilter c t listing).1 = .error e → e = .denied ∧
      ∀ i, (store.enforce .standard (request c ⟨t, Action.get, i⟩).text checking).1 = false := by
  rw [steady.resourceFilter t hl]
  constructor
  · intro i hi
    have proper : (request c ⟨t, Action.get, i⟩).isWellFormed = true := by
      rw [isWellFormed_request]
      have get : Grant.isField Action.get = true := by decide
      simp [ht, get, hi]
    rw [filterFor_allows, enforce_text, steady.permits_get own hc]
    exact (and_iff_right proper).symm
  · intro e fails
    obtain ⟨none, rfl⟩ := filterFor_eq_error_iff.1 fails
    refine ⟨rfl, fun i => ?_⟩
    rw [Bool.eq_false_iff]
    intro pass
    have permits := (enforce_text _).1 pass |>.2
    rw [steady.permits_get own hc, none] at permits
    simp at permits

/-! ## A caller of a cache -/

def sampleCaller : Claims := ⟨⟨2⟩, "2@example.com", .customer⟩

/-- One order is open to the subject for anything, another for looking, and a third for posting. All
orders are open to another subject. -/
def sampleSource : String → GrantSource := fun subject t =>
  .ok [subject ++ ":" ++ t ++ ":*:7", subject ++ ":" ++ t ++ ":get:8",
    subject ++ ":" ++ t ++ ":post:9", "3:" ++ t ++ ":get:*"]

def sampleStore : GrantStore CountedCache := .cached ⟨[Resource.orders], 10, 0⟩ 0 sampleSource

def sampleStart : CountedCache := ⟨.empty, []⟩

def sampleAnswer : Except PolicyError (List Grant) :=
  (sampleStore.grantsOf sampleCaller.subject sampleStart).1

/-- What may be got may be listed, and what may only be posted may not. Of another type nothing may
be listed, so nothing may be got. -/
theorem listing_agrees_of_sampleStore :
    (∃ f, (sampleStore.resourceFilter sampleCaller Resource.orders sampleStart).1 = .ok f ∧
      f.allows "8" = true) ∧
    (¬∃ f, (sampleStore.resourceFilter sampleCaller Resource.orders sampleStart).1 = .ok f ∧
      f.allows "9" = true) ∧
    ∀ i, (sampleStore.enforce .standard
      (request sampleCaller ⟨Resource.products, Action.get, i⟩).text sampleStart).1 = false := by
  have here : sampleStore.Gives sampleCaller.subject sampleAnswer sampleStart := rfl
  have steady : sampleStore.Steady (sampleStore.Gives sampleCaller.subject sampleAnswer)
      sampleCaller.subject sampleAnswer := .cached (by decide) 0 sampleSource _ _
  have own : ∀ gs, sampleAnswer = .ok gs → ∀ g ∈ gs, g.subject = sampleCaller.subject :=
    fun _ => GrantCache.subject_of_answer
  have agrees := fun t (ht : Grant.isField t = true) => listing_agrees steady own ht here here
  have fails : (sampleStore.resourceFilter sampleCaller Resource.products sampleStart).1 =
      .error .denied := by
    rw [steady.resourceFilter Resource.products here]
    exact filterFor_eq_error_iff.2 ⟨by decide +kernel, rfl⟩
  refine ⟨?_, ?_, ?_⟩
  · exact ((agrees Resource.orders (by decide)).1 "8" (by decide)).2 (by decide +kernel)
  · intro listed
    have := ((agrees Resource.orders (by decide)).1 "9" (by decide)).1 listed
    revert this
    decide +kernel
  · exact ((agrees Resource.products (by decide)).2 .denied fails).2

end GrantStore

end Marketplace
