import Mathlib.Logic.Relation
import Marketplace.Proofs.Announcement
import Marketplace.Proofs.Authorization.Store
import Marketplace.Proofs.Policy.Miss

/-!
# Grants survive as texts

Grants leave the authorization service as texts and are read again where they are kept. The printer,
the reader and the check that the service makes were written apart, and agree: the service takes
exactly the grants whose texts read back. So every grant on its list can be told, and a fetch of which
no part is missing finds what is on the list.

## Results

* `invalid_iff`: which grants are refused.
* `Step.proper`, `proper_of_reaches`: only grants that read back are on the list.
* `Proper.fetched_iff`: what a complete fetch finds.
* `grant_text_faithful`: all of it.
-/

namespace Marketplace

namespace GrantBook

/-- Every grant on the list can be told. -/
def Proper (s : GrantBook) : Prop := ∀ g, s.Holds g → g.isWellFormed = true

theorem proper_empty : empty.Proper := fun g held => (not_holds_empty g held).elim

/-- The answers of the list for some types, any of which may be lost on the way. -/
def Relayed (s : GrantBook) (subject : String) (types : List String)
    (answers : List (Except PolicyError (List String))) : Prop :=
  List.Forall₂ (fun t answer => answer = s.source subject t ∨ ∃ e, answer = .error e) types answers

variable {s : GrantBook} {subject : String} {types : List String}
  {answers : List (Except PolicyError (List String))}

theorem relayed_source (s : GrantBook) (subject : String) (types : List String) :
    s.Relayed subject types (types.map (s.source subject)) := by
  unfold Relayed
  rw [List.forall₂_map_right_iff, List.forall₂_same]
  exact fun _ _ => .inl rfl

/-- If no answer was lost, they are what the list says. -/
theorem Relayed.eq_map (h : s.Relayed subject types answers)
    (complete : Fetched.AllAnswered answers) : answers = types.map (s.source subject) := by
  unfold Relayed at h
  induction h with
  | nil => rfl
  | cons head _ ih =>
    obtain ⟨⟨texts, ok⟩, rest⟩ := List.forall_mem_cons.1 complete
    rcases head with given | ⟨e, lost⟩
    · rw [List.map_cons, given, ih rest]
    · rw [ok] at lost
      cases lost

/-- A list that can be reached answers for every type. -/
theorem allAnswered_source (up : s.isDown = false) (subject : String) (types : List String) :
    Fetched.AllAnswered (types.map (s.source subject)) := by
  intro answer given
  obtain ⟨t, _, rfl⟩ := List.mem_map.1 given
  exact ⟨_, source_of_up up t⟩

/-- **What a complete fetch finds** is what is on the list. -/
theorem Proper.fetched_iff (proper : s.Proper) (relayed : s.Relayed subject types answers)
    (complete : Fetched.AllAnswered answers) {g : Grant} :
    g ∈ (Fetched.ofAnswers subject answers).grants.grants subject ↔
      s.Holds g ∧ g.subject = subject ∧ g.resourceType ∈ types := by
  cases relayed.eq_map complete
  rw [GrantSet.mem_grants, ← Fetched.ofSource_eq]
  constructor
  · rintro ⟨own, found⟩
    obtain ⟨t, ht, named⟩ := (Fetched.holds_ofSource own types).1 found
    obtain ⟨_, held, _, rfl, _⟩ := names_source.1 named
    exact ⟨held, own, ht⟩
  · rintro ⟨held, own, ht⟩
    -- the list answered for the type of the grant
    have up : s.isDown = false := by
      by_contra down
      rw [Bool.not_eq_false] at down
      obtain ⟨e, lost⟩ := source_of_down subject down g.resourceType
      obtain ⟨texts, ok⟩ := complete _ (List.mem_map_of_mem ht)
      rw [lost] at ok
      cases ok
    have named : Fetched.Names (s.source subject g.resourceType) g :=
      names_source.2 ⟨up, held, own, rfl, proper g held⟩
    exact ⟨own, (Fetched.holds_ofSource own types).2 ⟨_, ht, named⟩⟩

end GrantBook

namespace Authorization

open Relation

variable {d d' : Desk GrantBook}

/-! ## What is refused -/

/-- **A grant is refused as invalid** exactly when it is not well-formed. -/
theorem invalid_iff (correlation : String) (m : PolicyMethod) (g : Grant) (d : Desk GrantBook) :
    (∃ reason, (participant.perform correlation (alter m g) d).1 = .error (.invalid reason)) ↔
      g.isWellFormed = false := by
  constructor
  · rintro ⟨reason, refused⟩
    by_contra good
    rw [Bool.not_eq_false] at good
    have outcome := participant.perform_outcome correlation (alter m g) d
    rw [refused] at outcome
    -- the cases of an outcome ask for variables
    generalize (participant.perform correlation (alter m g) d).2.store = s at outcome
    generalize (participant.performed correlation (alter m g) d).map Event.payload = said at outcome
    cases outcome with
    | refused e h => cases alter_eq_error h good
  · intro bad
    rw [participant.perform_of_refused correlation (alter_of_malformed m bad)]
    exact ⟨_, rfl⟩

/-- A grant that is refused as invalid changes, sends and counts nothing. -/
theorem unchanged_of_malformed (correlation : String) (m : PolicyMethod) {g : Grant}
    (d : Desk GrantBook) (bad : g.isWellFormed = false) :
    (participant.perform correlation (alter m g) d).2 = { d with supply := d.supply.stamp.2 } := by
  rw [participant.perform_of_refused correlation (alter_of_malformed m bad)]

/-! ## What gets on the list -/

/-- A step of the authorization service at its desk. -/
inductive Step : Desk GrantBook → Desk GrantBook → Prop
  /-- A grant is given or revoked. -/
  | altered (correlation : String) (m : PolicyMethod) (g : Grant) (d : Desk GrantBook) :
    Step d (participant.perform correlation (alter m g) d).2
  /-- An account loses its grants. -/
  | ended (correlation : String) (a : AccountId) (d : Desk GrantBook) :
    Step d (participant.perform correlation (revokeAll a) d).2
  /-- The list becomes unreachable, or reachable again. -/
  | outage (isDown : Bool) (d : Desk GrantBook) : Step d { d with store.isDown := isDown }
  /-- The bus fails or works again, and time passes. -/
  | surroundings (cache : GrantCache) (outlet : Outlet) (supply : Supply) (d : Desk GrantBook) :
    Step d { d with cache := cache, outlet := outlet, supply := supply }

/-- Whatever event comes in, the service makes such a step or does nothing. -/
theorem reaches_handle (grants : Grants) (correlation : String) (payload : Payload)
    (d : Desk GrantBook) :
    ReflTransGen Step d (participant.handle grants correlation payload d).2 := by
  cases payload with
  | upsertPolicy g => exact .single (.altered correlation .put g d)
  | removePolicy g => exact .single (.altered correlation .delete g d)
  | accountDeleted a => exact .single (.ended correlation a d)
  | _ => exact .refl

theorem proper_of_alter {s : GrantBook} (proper : s.Proper) {m : PolicyMethod} {g : Grant}
    {stamp : Stamp} {c : Commit GrantBook Unit} (h : alter m g stamp s = .ok c) :
    c.store.Proper := by
  obtain ⟨good, _, store, _⟩ := alter_eq_ok h
  intro h held
  rw [store, GrantBook.holds_changed] at held
  split at held
  · rename_i same
    exact same ▸ good
  · exact proper h held

theorem proper_of_revokeAll {s : GrantBook} (proper : s.Proper) {a : AccountId} {stamp : Stamp}
    {c : Commit GrantBook Unit} (h : revokeAll a stamp s = .ok c) : c.store.Proper := by
  rcases revokeAll_cases a stamp s with ⟨_, he⟩ | ⟨_, c', hc, store, _⟩
  · cases he.symm.trans h
  · cases hc.symm.trans h
    intro g held
    rw [store] at held
    exact proper g (GrantBook.holds_without.1 held).1

/-- **A step puts no grant on the list that does not read back.** -/
theorem Step.proper (h : Step d d') (proper : d.store.Proper) : d'.store.Proper := by
  cases h with
  | altered correlation m g =>
    have outcome := participant.perform_outcome correlation (alter m g) d
    rcases outcome.store_cases with hs | ⟨c, hc, hs⟩
    · exact hs ▸ proper
    · exact hs ▸ proper_of_alter proper hc
  | ended correlation a =>
    have outcome := participant.perform_outcome correlation (revokeAll a) d
    rcases outcome.store_cases with hs | ⟨c, hc, hs⟩
    · exact hs ▸ proper
    · exact hs ▸ proper_of_revokeAll proper hc
  | outage isDown => exact proper
  | surroundings => exact proper

/-- Only grants that read back are on a list that started empty. -/
theorem proper_of_reaches (start : d.store = GrantBook.empty) (run : ReflTransGen Step d d') :
    d'.store.Proper := by
  induction run with
  | refl =>
    rw [start]
    exact GrantBook.proper_empty
  | tail _ step ih => exact step.proper ih

/-- **The texts of grants are faithful.** What is read as a grant is its text; the texts that are read
are those with three colons and four fields that are not empty. The service refuses as invalid those
grants that their texts do not give back, and then nothing changes and nothing is sent. So on a miss of
which no part is lost, a cache answers with the grants of the subject on its types as they are on the
list of the service, each of them once. -/
theorem grant_text_faithful :
    (∀ text g, Grant.parse text = .ok g → g.text = text) ∧
    (∀ text : String, (∃ g, Grant.parse text = .ok g) ↔
      text.toList.count ':' = 3 ∧ ∃ a b c d : String, a ≠ "" ∧ b ≠ "" ∧ c ≠ "" ∧ d ≠ "" ∧
        text = a ++ ":" ++ b ++ ":" ++ c ++ ":" ++ d) ∧
    (∀ correlation m g d,
      let done := participant.perform correlation (alter m g) d
      ((¬∃ reason, done.1 = .error (.invalid reason)) ↔ Grant.parse g.text = .ok g) ∧
      ((∃ reason, done.1 = .error (.invalid reason)) →
        done.2.store = d.store ∧ done.2.cache = d.cache ∧ done.2.outlet = d.outlet)) ∧
    (∀ d d' : Desk GrantBook, d.store = GrantBook.empty → ReflTransGen Step d d' →
      ∀ (settings : CacheSettings) (subject : String),
        (d'.store.isDown = false →
          Fetched.AllAnswered (settings.handled.map (d'.store.source subject))) ∧
        ∀ answers, d'.store.Relayed subject settings.handled answers →
          Fetched.AllAnswered answers →
          ∀ (c : GrantCache) (now ready : Nat), c.resident? now subject = none →
            ∃ gs, (c.serve settings now ready (.ofAnswers subject answers) subject).answer = .ok gs ∧
              gs.Nodup ∧
              ∀ g, g ∈ gs ↔
                d'.store.Holds g ∧ g.subject = subject ∧ g.resourceType ∈ settings.handled) := by
  refine ⟨fun _ _ hp => (Grant.text_of_parse hp).2, fun _ => Grant.exists_parse_iff, ?_, ?_⟩
  · intro correlation m g d
    dsimp only
    rw [invalid_iff, Grant.parse_text_eq_ok_iff, Bool.not_eq_false]
    refine ⟨Iff.rfl, fun bad => ?_⟩
    rw [unchanged_of_malformed correlation m d bad]
    exact ⟨rfl, rfl, rfl⟩
  · intro d d' start run settings subject
    refine ⟨fun up => GrantBook.allAnswered_source up subject settings.handled, ?_⟩
    intro answers relayed complete c now ready miss
    refine ⟨(Fetched.ofAnswers subject answers).grants.grants subject, ?_,
      (Fetched.tidy_ofAnswers subject answers).nodup_grants subject, fun g => ?_⟩
    · rw [GrantCache.answer_serve_eq, miss]
      exact Fetched.verdict_of_allAnswered settings complete
    · exact (proper_of_reaches start run).fetched_iff relayed complete

/-! ## Two subjects -/

def sampleOpened : Desk GrantBook := ⟨.empty, .empty, .new Bus.standardSettings, ⟨⟨0⟩, 0⟩⟩

def sampleTerms : Grants := ⟨1000, 0, GrantBook.empty.source⟩

def sampleOwn : Grant := ⟨"1", Resource.orders, Action.get, "7"⟩

def sampleOther : Grant := ⟨"2", Resource.orders, Action.get, "7"⟩

/-- A subject that would read as two fields. -/
def sampleJoined : Grant := ⟨"1:2", Resource.orders, Action.get, "7"⟩

/-- Two subjects were given a grant each. -/
def sampleGiven : Desk GrantBook :=
  (participant.handle sampleTerms "r2" (.upsertPolicy sampleOther)
    (participant.handle sampleTerms "r1" (.upsertPolicy sampleOwn) sampleOpened).2).2

/-- A fetch for one of them finds the one grant, and the third grant is refused. -/
theorem grant_text_faithful_of_sampleGiven :
    let settings : CacheSettings := ⟨[Resource.products, Resource.orders], 1000, 0⟩
    let answers := settings.handled.map (sampleGiven.store.source "1")
    (∃ gs, (GrantCache.empty.serve settings 0 0 (.ofAnswers "1" answers) "1").answer = .ok gs ∧
      sampleOwn ∈ gs ∧ sampleOther ∉ gs) ∧
    ∃ reason, (participant.perform "r3" (alter .put sampleJoined) sampleGiven).1 =
      .error (.invalid reason) := by
  have run : ReflTransGen Step sampleOpened sampleGiven :=
    (reaches_handle sampleTerms "r1" _ _).trans (reaches_handle sampleTerms "r2" _ _)
  have up : sampleGiven.store.isDown = false := by decide +kernel
  have held : sampleGiven.store.Holds sampleOwn := by decide +kernel
  obtain ⟨_, _, refusal, fetch⟩ := grant_text_faithful
  obtain ⟨answered, found⟩ := fetch sampleOpened sampleGiven rfl run
    ⟨[Resource.products, Resource.orders], 1000, 0⟩ "1"
  obtain ⟨gs, answer, _, listed⟩ := found _
    (GrantBook.relayed_source sampleGiven.store "1" [Resource.products, Resource.orders])
    (answered up) GrantCache.empty 0 0 rfl
  have unread : Grant.parse sampleJoined.text ≠ .ok sampleJoined := by decide +kernel
  refine ⟨⟨gs, answer, (listed sampleOwn).2 ⟨held, rfl, by decide⟩, fun other => ?_⟩, ?_⟩
  · exact absurd ((listed sampleOther).1 other).2.1 (by decide)
  · exact not_not.1 fun taken => unread ((refusal "r3" .put sampleJoined sampleGiven).1.1 taken)

end Authorization

end Marketplace
