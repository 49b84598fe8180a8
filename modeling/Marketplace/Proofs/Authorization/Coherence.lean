import Marketplace.Market.Orders
import Marketplace.Proofs.Authorization.Link

/-!
# A cache agrees with the list of grants

The invariant is about one grant at a time. Whatever the cache knows about it, the changes on their
way will set it right: they end with what the list says, unless an attempt on that very grant failed
and is to be made again. Attempts follow one another, as `Step` has it: none begins while another is
between its change and its announcement.

## Results

* `Step.inv`: every step keeps the invariant.
* `cache_coherent`: when nothing is on its way, a resident entry holds what the list holds.
-/

namespace Marketplace

namespace Coherence

open Relation Authorization

variable {g h : Grant} {has : Prop}

/-! ## The invariant -/

section Invariant

variable {σ : Type} {p : Participant σ} {l l' : Link σ}

/-- What is known about a grant is set right by the changes on their way, or by an attempt to
come. -/
def Current (l : Link σ) (g : Grant) (has : Prop) : Prop :=
  (∃ m, (m, g) ∈ l.failed) ∨ (after l.underway g has ↔ l.owner.store.Holds g)

/-- What a set of grants says about a subject, on the types that it covers. -/
structure Covers (l : Link σ) (subject : String) (types : List String) (s : GrantSet) : Prop where
  inside : ∀ g, g.subject = subject → s.Holds g → g.resourceType ∈ types
  current : ∀ g, g.subject = subject → g.resourceType ∈ types → Current l g (s.Holds g)

/-- The answers to a fetch are right so far, if none is missing. -/
def Sound (p : Participant σ) (l : Link σ) (f : Fetch) : Prop :=
  f.asked ++ f.left = p.guards ∧
    (f.fetched.failures = [] → Covers l f.subject f.asked f.fetched.grants)

structure Inv (p : Participant σ) (l : Link σ) : Prop where
  wellFormed : ∀ g, l.owner.store.Holds g → g.isWellFormed = true
  proper : ∀ u ∈ l.failed, u.2.isWellFormed = true
  book : ∀ g, Current l g (l.owner.store.Holds g)
  entry : ∀ subject s, l.reader.cache.resident? l.now subject = some s →
    Covers l subject p.guards s
  fetch : ∀ f ∈ l.fetches, Sound p l f

theorem Fresh.inv (h : Fresh l) : Inv p l := by
  refine ⟨h.wellFormed, ?_, ?_, ?_, ?_⟩
  · rw [h.failed]
    exact fun _ hu => nomatch hu
  · intro g
    right
    rw [h.underway]
    rfl
  · rw [h.cache]
    exact fun _ _ hs => nomatch hs
  · rw [h.fetches]
    exact fun _ hf => nomatch hf

/-- At rest, what is known is what the list says. -/
theorem Current.at_rest (h : Current l g has) (idle : l.underway = []) (settled : l.failed = []) :
    has ↔ l.owner.store.Holds g := by
  rcases h with ⟨m, hm⟩ | h
  · rw [settled] at hm
    cases hm
  · rwa [idle] at h

theorem Current.congr {has' : Prop} (same : has' ↔ has) (h : Current l g has) :
    Current l g has' := by
  rwa [propext same]

theorem Current.or {other : Prop} (h : Current l g has) (h' : Current l g other) :
    Current l g (has ∨ other) := by
  by_cases there : has
  · exact h.congr (iff_of_true (.inl there) there)
  · exact h'.congr (or_iff_right there)

/-! ## What the owner does -/

/-- The owner changes some grants: their last announcement tells how, or an attempt is to come.
About every other grant everything is as before. -/
structure Moves (touched : Grant → Prop) (l l' : Link σ) : Prop where
  reader : l'.reader = l.reader
  fetches : l'.fetches = l.fetches
  wellFormed : ∀ g, l'.owner.store.Holds g → l.owner.store.Holds g ∨ g.isWellFormed = true
  proper : ∀ u ∈ l'.failed, u ∈ l.failed ∨ u.2.isWellFormed = true
  frame : ∀ g, ¬touched g → (∀ has, after l'.underway g has = after l.underway g has) ∧
    (l'.owner.store.Holds g ↔ l.owner.store.Holds g) ∧
    ∀ m, (m, g) ∈ l.failed → (m, g) ∈ l'.failed
  own : ∀ g, touched g → (∃ m, (m, g) ∈ l'.failed) ∨
    ∀ has, after l'.underway g has ↔ l'.owner.store.Holds g

variable {touched : Grant → Prop}

theorem Moves.current (h : Moves touched l l') (c : Current l g has) : Current l' g has := by
  by_cases ht : touched g
  · exact (h.own g ht).imp id fun settled => settled has
  · obtain ⟨same, holds, waits⟩ := h.frame g ht
    rcases c with ⟨m, hm⟩ | c
    · exact .inl ⟨m, waits m hm⟩
    · right
      rw [same, holds]
      exact c

theorem Moves.book (h : Moves touched l l') (c : Current l g (l.owner.store.Holds g)) :
    Current l' g (l'.owner.store.Holds g) := by
  by_cases ht : touched g
  · exact (h.own g ht).imp id fun settled => settled _
  · exact (h.current c).congr (h.frame g ht).2.1

theorem Covers.moves {subject : String} {types : List String} {s : GrantSet}
    (c : Covers l subject types s) (h : Moves touched l l') : Covers l' subject types s :=
  ⟨c.inside, fun g hg ht => h.current (c.current g hg ht)⟩

theorem Inv.moves (i : Inv p l) (h : Moves touched l l') : Inv p l' := by
  refine ⟨?_, ?_, fun g => h.book (i.book g), ?_, ?_⟩
  · intro g hg
    rcases h.wellFormed g hg with hg | hg
    · exact i.wellFormed g hg
    · exact hg
  · intro u hu
    rcases h.proper u hu with hu | hu
    · exact i.proper u hu
    · exact hu
  · unfold Link.now
    rw [h.reader]
    exact fun subject s hs => (i.entry subject s hs).moves h
  · rw [h.fetches]
    intro f hf
    obtain ⟨split, covers⟩ := i.fetch f hf
    exact ⟨split, fun complete => (covers complete).moves h⟩

variable {correlation : String} {u : Change} {before rest failed : List Change}

/-- An attempt that does nothing. -/
theorem Moves.of_nothing {payload : Payload}
    (store : (l.attempted correlation payload l.failed).owner.store = l.owner.store)
    (said : l.said correlation payload = []) :
    Moves (fun _ => False) l (l.attempted correlation payload l.failed) := by
  refine ⟨rfl, rfl, ?_, fun _ hu => .inl hu, ?_, fun _ h => h.elim⟩
  · rw [store]
    exact fun _ hg => .inl hg
  · intro g _
    refine ⟨fun has => ?_, by rw [store], fun _ hm => hm⟩
    unfold Link.attempted
    rw [said]
    exact congrArg (fun us => after us g has) (List.append_nil l.underway)

/-- An attempt on a request comes out as the operation that it asks for. -/
theorem request_outcome (l : Link σ) (correlation : String) (u : Change) (failed : List Change) :
    Outcome (alter u.1 u.2 l.owner.supply.stamp.1 l.owner.store) l.owner.store
      (l.fate correlation (request u.1 u.2))
      (l.attempted correlation (request u.1 u.2) failed).owner.store
      (l.said correlation (request u.1 u.2)) := by
  have reacts := react_request u.1 u.2
  rcases participant.handle_outcome l.grants correlation (request u.1 u.2) l.owner with
    ⟨none, _⟩ | ⟨operation, hr, outcome⟩
  · exact (none _ reacts).elim
  · rw [reacts] at hr
    cases hr
    exact outcome

/-- **How a request to change a well-formed grant comes out**: it is to come again, or the change is
made and is the last on its way. -/
theorem request_cases (l : Link σ) (correlation : String) (failed : List Change)
    (good : u.2.isWellFormed = true) :
    let store := (l.attempted correlation (request u.1 u.2) failed).owner.store
    let said := changes (l.said correlation (request u.1 u.2))
    (store = l.owner.store ∨ store = l.owner.store.changed u.1 u.2) ∧
    (∀ v ∈ said, v.2 = u.2) ∧
    (Handler.disposition (l.fate correlation (request u.1 u.2)) = .retry ∨
      store = l.owner.store.changed u.1 u.2 ∧ said = [u]) := by
  have outcome := request_outcome l correlation u failed
  dsimp only
  -- the cases of an outcome ask for variables
  generalize l.fate correlation (request u.1 u.2) = x at outcome ⊢
  generalize (l.attempted correlation (request u.1 u.2) failed).owner.store = s at outcome ⊢
  generalize l.said correlation (request u.1 u.2) = said at outcome ⊢
  cases outcome with
  | refused e h =>
    cases alter_eq_error h good
    refine ⟨.inl rfl, ?_, .inl rfl⟩
    intro v hv
    cases hv
  | done c h =>
    obtain ⟨_, _, store, news⟩ := alter_eq_ok h
    rw [store, news]
    refine ⟨.inr rfl, ?_, .inr ⟨rfl, rfl⟩⟩
    intro v hv
    rw [List.mem_singleton.1 hv]
  | cut c h b said part =>
    obtain ⟨_, _, store, news⟩ := alter_eq_ok h
    rw [store]
    refine ⟨.inr rfl, ?_, .inl rfl⟩
    intro v hv
    obtain ⟨payload, hp, hc⟩ := List.mem_filterMap.1 hv
    rw [news] at part
    rw [List.mem_singleton.1 (part.subset hp)] at hc
    cases hc
    rfl

/-- A request that waits is handled, or a new one; the others wait on. -/
theorem requested_moves (good : u.2.isWellFormed = true)
    (others : ∀ v ∈ l.failed, v.2 ≠ u.2 → v ∈ before ++ rest)
    (known : ∀ v ∈ before ++ rest, v ∈ l.failed) :
    Moves (· = u.2) l (l.requested correlation u before rest) := by
  unfold Link.requested
  obtain ⟨store, news, way⟩ := request_cases l correlation
    (if Handler.disposition (l.fate correlation (request u.1 u.2)) = .retry then
      before ++ u :: rest else before ++ rest) good
  refine ⟨rfl, rfl, ?_, ?_, ?_, ?_⟩
  · intro g hg
    rcases store with hs | hs
    · rw [hs] at hg
      exact .inl hg
    · rw [hs, GrantBook.holds_changed] at hg
      split at hg
      · rename_i hu
        rw [hu]
        exact .inr good
      · exact .inl hg
  · intro v hv
    unfold Link.attempted at hv
    dsimp only at hv
    split at hv
    · rcases List.mem_cons.1 (List.perm_middle.mem_iff.1 hv) with rfl | hv
      · exact .inr good
      · exact .inl (known v hv)
    · exact .inl (known v hv)
  · -- another grant: whatever goes out is about this one
    intro g hg
    refine ⟨fun has => ?_, ?_, ?_⟩
    · unfold Link.attempted
      rw [after_append, after_of_ne]
      intro v hv
      rw [news v hv]
      exact hg
    · rcases store with hs | hs
      · rw [hs]
      · rw [hs, GrantBook.holds_changed, if_neg hg]
    · intro m hm
      have kept := others _ hm hg
      unfold Link.attempted
      dsimp only
      split
      · exact List.perm_middle.mem_iff.2 (List.mem_cons_of_mem _ kept)
      · exact kept
  · -- the grant itself: the request comes again, or its change is the last on its way
    rintro g rfl
    rcases way with again | ⟨hs, hc⟩
    · left
      unfold Link.attempted
      rw [if_pos again]
      exact ⟨u.1, List.mem_append_right _ List.mem_cons_self⟩
    · right
      intro has
      rw [hs, GrantBook.holds_changed]
      unfold Link.attempted
      rw [hc, after_append]
      unfold after
      rw [if_pos rfl, if_pos rfl]
      rfl

/-- A request for a grant that is not well-formed is refused for good. -/
theorem requested_of_malformed (bad : u.2.isWellFormed = false) :
    Moves (fun _ => False) l (l.requested correlation u l.failed []) := by
  have outcome := request_outcome l correlation u l.failed
  rw [alter_of_malformed u.1 bad] at outcome
  have refused : l.fate correlation (request u.1 u.2) =
        .error (.invalid ("invalid grant: " ++ u.2.text)) ∧
      (l.attempted correlation (request u.1 u.2) l.failed).owner.store = l.owner.store ∧
      l.said correlation (request u.1 u.2) = [] := by
    generalize l.fate correlation (request u.1 u.2) = x at outcome ⊢
    generalize (l.attempted correlation (request u.1 u.2) l.failed).owner.store = s at outcome ⊢
    generalize l.said correlation (request u.1 u.2) = said at outcome ⊢
    cases outcome with
    | refused e h =>
      cases h
      exact ⟨rfl, rfl, rfl⟩
    | done c h => cases h
    | cut c h b said part => cases h
  obtain ⟨fate, store, said⟩ := refused
  unfold Link.requested
  rw [fate, if_neg (fun h => nomatch h), List.append_nil]
  exact .of_nothing store said

/-- **The end of an account**: its grants are gone and announced, or the list was not reached. -/
theorem ended_moves {a : AccountId}
    (carried : ∀ e, l.fate correlation (.accountDeleted a) ≠ .error (.event e)) :
    ∃ touched, Moves touched l (l.attempted correlation (.accountDeleted a) l.failed) := by
  rcases attempt_cases l.grants correlation a l.owner with
    ⟨_, store, none⟩ | ⟨store, ⟨_, all⟩ | ⟨b, hx, _⟩⟩
  · exact ⟨_, .of_nothing store none⟩
  · have holds : ∀ g, (l.attempted correlation (.accountDeleted a) l.failed).owner.store.Holds g ↔
        l.owner.store.Holds g ∧ g.subject ≠ a.subject := by
      intro g
      show (attempt l.grants correlation a l.owner).2.store.Holds g ↔ _
      rw [store, GrantBook.holds_without]
    have ends : ∀ g has, after (l.attempted correlation (.accountDeleted a) l.failed).underway g has
        = after ((l.owner.store.select a.subject none).map (PolicyMethod.delete, ·)) g
          (after l.underway g has) := by
      intro g has
      rw [← changes_revocations, ← all]
      exact after_append
    refine ⟨(· ∈ l.owner.store.select a.subject none), rfl, rfl, ?_, fun _ hu => .inl hu, ?_, ?_⟩
    · intro g hg
      exact .inl ((holds g).1 hg).1
    · intro g hg
      refine ⟨fun has => ?_, ?_, fun _ hm => hm⟩
      · rw [ends, after_of_ne]
        rintro _ hu rfl
        obtain ⟨h, hh, he⟩ := List.mem_map.1 hu
        rw [← he] at hg
        exact hg hh
      · rw [holds]
        rw [GrantBook.mem_select_none] at hg
        exact ⟨fun h => h.1, fun h => ⟨h, fun own => hg ⟨h, own⟩⟩⟩
    · intro g hg
      right
      intro has
      rw [ends, holds]
      refine iff_of_false ?_ fun h => h.2 (GrantBook.mem_select_none.1 hg).2
      exact not_after_deletes hg
  · exact (carried _ hx).elim

/-! ## What the reader does -/

/-- The list, the changes on their way and the requests that wait are the same. -/
structure Same (l l' : Link σ) : Prop where
  grants : l'.owner.store.grants = l.owner.store.grants
  underway : l'.underway = l.underway
  failed : l'.failed = l.failed

theorem Same.holds (s : Same l l') : l'.owner.store.Holds g ↔ l.owner.store.Holds g := by
  unfold GrantBook.Holds
  rw [s.grants]

theorem Same.current (s : Same l l') (c : Current l g has) : Current l' g has := by
  unfold Current
  rwa [s.failed, s.underway, s.holds]

theorem Covers.same {subject : String} {types : List String} {set : GrantSet}
    (c : Covers l subject types set) (s : Same l l') : Covers l' subject types set :=
  ⟨c.inside, fun g hg ht => s.current (c.current g hg ht)⟩

/-- The reader may serve and fetch what it did before, and what is right anyway. -/
theorem Inv.same (i : Inv p l) (s : Same l l')
    (served : ∀ subject set, l'.reader.cache.resident? l'.now subject = some set →
      l.reader.cache.resident? l.now subject = some set ∨ Covers l subject p.guards set)
    (fetch : ∀ f ∈ l'.fetches, f ∈ l.fetches ∨ Sound p l f) : Inv p l' := by
  refine ⟨?_, ?_, ?_, ?_, ?_⟩
  · intro g hg
    exact i.wellFormed g (s.holds.1 hg)
  · rw [s.failed]
    exact i.proper
  · intro g
    exact (s.current (i.book g)).congr s.holds
  · intro subject set hs
    rcases served subject set hs with hs | covers
    · exact (i.entry subject set hs).same s
    · exact covers.same s
  · intro f hf
    have sound : Sound p l f := (fetch f hf).elim (i.fetch f) id
    exact ⟨sound.1, fun complete => (sound.2 complete).same s⟩

/-- An answer that the list gives now is right now. -/
theorem Sound.next (i : Inv p l) {f : Fetch} {t : String} {left : List String}
    {x : Except PolicyError (List String)} (sound : Sound p l f) (isNext : f.left = t :: left)
    (given : (∃ e, x = .error e) ∨ x = l.grants.source f.subject t) :
    Sound p l (f.next t left x) := by
  refine ⟨?_, fun complete => ?_⟩
  · rw [← sound.1, isNext]
    exact List.append_assoc _ _ _
  · obtain ⟨before, texts, hx⟩ := Fetched.failures_add complete
    have answer : x = l.owner.store.source f.subject t := by
      rcases given with ⟨e, he⟩ | he
      · rw [he] at hx
        cases hx
      · exact he
    obtain ⟨inside, current⟩ := sound.2 before
    -- the list answered
    have up : l.owner.store.isDown = false := by
      cases hd : l.owner.store.isDown with
      | false => rfl
      | true =>
        obtain ⟨e, he⟩ := GrantBook.source_of_down f.subject hd t
        rw [answer, he] at hx
        cases hx
    have holds : ∀ g, g.subject = f.subject → ((f.next t left x).fetched.grants.Holds g ↔
        f.fetched.grants.Holds g ∨ l.owner.store.Holds g ∧ g.resourceType = t) := by
      intro g hg
      show (f.fetched.add f.subject x).grants.Holds g ↔ _
      rw [Fetched.holds_add hg, answer, GrantBook.names_source]
      constructor
      · exact fun h => h.imp id fun h => ⟨h.2.1, h.2.2.2.1⟩
      · exact fun h => h.imp id fun h => ⟨up, h.1, hg, h.2, i.wellFormed g h.1⟩
    refine ⟨?_, ?_⟩
    · intro g hg ht
      rcases (holds g hg).1 ht with ht | ⟨_, ht⟩
      · exact List.mem_append_left _ (inside g hg ht)
      · exact List.mem_append_right _ (List.mem_singleton.2 ht)
    · intro g hg ht
      refine Current.congr (holds g hg) ?_
      by_cases known : g.resourceType ∈ f.asked
      · -- a type may be asked for twice
        by_cases hl : g.resourceType = t
        · exact (current g hg known).or ((i.book g).congr (and_iff_left hl))
        · exact (current g hg known).congr (or_iff_left fun h => hl h.2)
      · -- all that is known of the type is this answer
        have hl : g.resourceType = t :=
          List.mem_singleton.1 ((List.mem_append.1 ht).resolve_left known)
        have none : ¬f.fetched.grants.Holds g := fun h => known (inside g hg h)
        exact (i.book g).congr ((or_iff_right none).trans (and_iff_left hl))

section Delivery

variable {us : List Change} {reader : Desk σ}

theorem Current.delivered (reader : Desk σ) (first : l.underway = u :: us)
    (c : Current l g has) :
    Current (delivered l reader us) g (if g = u.2 then u.1 = .put else has) := by
  unfold Current at c
  rw [first] at c
  exact c

/-- What the list says needs no telling. -/
theorem Current.book_delivered (first : l.underway = u :: us)
    (c : Current l g (l.owner.store.Holds g)) :
    Current (Coherence.delivered l reader us) g (l.owner.store.Holds g) := by
  rcases Current.delivered reader first c with waits | right
  · exact .inl waits
  · right
    rcases after_cases us g with same | ⟨m, ends⟩
    · exact same _
    · rw [ends] at right
      exact (ends _).trans right

theorem Covers.delivered {subject : String} {types : List String} {set : GrantSet}
    (first : l.underway = u :: us) (c : Covers l subject types set)
    (other : ∀ g, g.subject = subject → g.resourceType ∈ types → g ≠ u.2) :
    Covers (Coherence.delivered l reader us) subject types set := by
  refine ⟨c.inside, ?_⟩
  intro g hg ht
  have known := Current.delivered reader first (c.current g hg ht)
  rwa [if_neg (other g hg ht)] at known

/-- **A delivery** tells the cache of its change, or the cache has no use for it. -/
theorem Inv.delivered (i : Inv p l) (first : l.underway = u :: us)
    (free : u.2.resourceType ∈ p.guards → l.Free u.2.subject) :
    Inv p (delivered l (p.patch l.grants u.1 u.2 l.reader).2 us) := by
  obtain ⟨_, outlet⟩ := p.patch_cases l.grants u.1 u.2 l.reader
  refine ⟨i.wellFormed, i.proper, fun g => (i.book g).book_delivered first, ?_, ?_⟩
  · intro subject set hs
    unfold Link.now at hs
    rw [outlet] at hs
    rcases p.patch_cache l.grants u.1 u.2 l.reader with ⟨c, hu, hc⟩ | ⟨e, hu, hc⟩
    · rw [hc] at hs
      obtain ⟨handled, e, s, he, resident, rfl⟩ := GrantCache.update_eq_ok hu
      rw [GrantCache.resident?_put] at hs
      split at hs
      · -- the entry of the subject, as the cache rewrote it
        rename_i own
        subst own
        obtain ⟨_, hset⟩ := CacheEntry.resident?_eq_some.1 hs
        cases hset
        have covers : Covers l u.2.subject p.guards s := by
          apply i.entry
          unfold GrantCache.resident?
          rw [he]
          exact resident
        refine ⟨?_, ?_⟩
        · intro g hg ht
          rw [GrantSet.holds_changed hg] at ht
          split at ht
          · rename_i hu
            rw [hu]
            exact handled
          · exact covers.inside g hg ht
        · intro g hg ht
          exact ((covers.current g hg ht).delivered _ first).congr (GrantSet.holds_changed hg)
      · rename_i other
        apply (i.entry subject set hs).delivered first
        rintro g hg - rfl
        exact other hg.symm
    · -- the cache does not guard the type or has no entry, so none of its grants is meant
      rw [hc] at hs
      apply (i.entry subject set hs).delivered first
      rintro g hg ht rfl
      rcases GrantCache.update_eq_error_iff.1 hu with ⟨unhandled, _⟩ | ⟨_, none, _⟩
      · exact unhandled ht
      · rw [hg] at none
        exact absurd (none.symm.trans hs) nofun
  · -- no fetch of the subject is under way
    intro f hf
    obtain ⟨split, covers⟩ := i.fetch f hf
    refine ⟨split, fun complete => (covers complete).delivered first ?_⟩
    rintro g hg ht rfl
    have handled : u.2.resourceType ∈ p.guards := by
      rw [← split]
      exact List.mem_append_left _ ht
    exact free handled f hf hg.symm

end Delivery

/-- **Every step keeps the invariant.** -/
theorem Step.inv (step : Step p l l') (i : Inv p l) : Inv p l' := by
  cases step with
  | request correlation u =>
    cases good : u.2.isWellFormed with
    | true =>
      refine i.moves (requested_moves good ?_ ?_)
      · exact fun v hv _ => List.mem_append_left _ hv
      · exact fun v hv => (List.mem_append.1 hv).resolve_right List.not_mem_nil
    | false => exact i.moves (requested_of_malformed good)
  | again correlation before rest u _ waits =>
    have good : u.2.isWellFormed = true := by
      apply i.proper
      rw [waits]
      exact List.mem_append_cons_self
    refine i.moves (requested_moves good ?_ ?_)
    · intro v hv other
      rw [waits] at hv
      rcases List.mem_cons.1 (List.perm_middle.mem_iff.1 hv) with rfl | hv
      · exact (other rfl).elim
      · exact hv
    · intro v hv
      rw [waits]
      exact List.perm_middle.mem_iff.2 (List.mem_cons_of_mem _ hv)
  | ended correlation a _ carried =>
    obtain ⟨_, moves⟩ := ended_moves carried
    exact i.moves moves
  | hit subject s _ resident =>
    refine i.same ⟨rfl, rfl, rfl⟩ ?_ fun _ hf => .inl hf
    exact fun _ _ hs => .inl (GrantCache.resident?_hit (Nat.le_refl _) resident hs)
  | ask subject _ miss free =>
    refine i.same ⟨rfl, rfl, rfl⟩ (fun _ _ hs => .inl hs) ?_
    intro f hf
    rcases List.mem_append.1 hf with hf | hf
    · exact .inl hf
    · cases List.mem_singleton.1 hf
      refine .inr ⟨rfl, fun _ => ⟨?_, fun _ _ ht => nomatch ht⟩⟩
      exact fun g _ ht => (GrantSet.not_holds_empty g ht).elim
  | answer before rest f t left x _ isOpen next given =>
    refine i.same ⟨rfl, rfl, rfl⟩ (fun _ _ hs => .inl hs) ?_
    have asked : f ∈ l.fetches := by
      rw [isOpen]
      exact List.mem_append_cons_self
    intro k hk
    rcases List.mem_cons.1 (List.perm_middle.mem_iff.1 hk) with rfl | hk
    · exact .inr ((i.fetch f asked).next i next given)
    · left
      rw [isOpen]
      exact List.perm_middle.mem_iff.2 (List.mem_cons_of_mem _ hk)
  | finish before rest f _ isOpen all =>
    have asked : f ∈ l.fetches := by
      rw [isOpen]
      exact List.mem_append_cons_self
    refine i.same ⟨rfl, rfl, rfl⟩ ?_ ?_
    · intro subject set hs
      rcases GrantCache.resident?_settle (Nat.le_refl _) hs with hs | ⟨rfl, complete, rfl⟩
      · exact .inl hs
      · right
        obtain ⟨split, covers⟩ := i.fetch f asked
        rw [all, List.append_nil] at split
        rw [← split]
        exact covers complete
    · intro k hk
      left
      rw [isOpen]
      exact List.perm_middle.mem_iff.2 (List.mem_cons_of_mem _ hk)
  | deliver u us _ first free => exact i.delivered first free
  | sweep =>
    refine i.same ⟨rfl, rfl, rfl⟩ ?_ fun _ hf => .inl hf
    intro subject set hs
    left
    rwa [← GrantCache.resident?_sweep (Nat.le_refl _)]
  | surroundings owner reader _ same cache later =>
    refine i.same ⟨same, rfl, rfl⟩ ?_ fun _ hf => .inl hf
    intro subject set hs
    left
    unfold Link.now at hs
    rw [cache] at hs
    exact GrantCache.resident?_mono later hs

end Invariant

/-- **Caches agree with the list of grants.** When no change is on its way and no request waits, an
entry that is served holds exactly the grants of its subject that are on the list, on the types that
the reader guards. -/
theorem cache_coherent {σ : Type} {p : Participant σ} {start l : Link σ} (fresh : Fresh start)
    (run : ReflTransGen (Step p) start l) (idle : l.underway = []) (settled : l.failed = [])
    {subject : String} {set : GrantSet}
    (resident : l.reader.cache.resident? l.now subject = some set) (g : Grant) :
    g ∈ set.grants subject ↔
      l.owner.store.Holds g ∧ g.subject = subject ∧ g.resourceType ∈ p.guards := by
  have i : Inv p l := by
    clear idle settled resident
    induction run with
    | refl => exact fresh.inv
    | tail _ step ih => exact step.inv ih
  obtain ⟨inside, current⟩ := i.entry subject set resident
  rw [GrantSet.mem_grants]
  constructor
  · rintro ⟨hg, held⟩
    have ht := inside g hg held
    exact ⟨((current g hg ht).at_rest idle settled).1 held, hg, ht⟩
  · rintro ⟨held, hg, ht⟩
    exact ⟨hg, ((current g hg ht).at_rest idle settled).2 held⟩

/-! ## A fetch between a failed attempt and the next -/

def sampleGrant : Grant := ⟨"7", Resource.orders, Action.post, wildcard⟩

/-- The first event of the owner will not be carried. -/
def sampleLink : Link OrderStore where
  lifetime := 1000
  sweepPeriod := 0
  owner := ⟨.empty, .empty, ⟨{ Bus.new Bus.standardSettings with failOn := some 1 }, .empty⟩,
    ⟨⟨0⟩, 0⟩⟩
  reader := ⟨.empty, .empty, .new Bus.standardSettings, ⟨⟨0⟩, 0⟩⟩
  underway := []
  failed := []
  fetches := []

/-- The grant is on the list and was not announced. -/
def sampleFailed : Link OrderStore := sampleLink.requested "r1" (.put, sampleGrant) [] []

/-- The reader has fetched it. -/
def sampleRead : Link OrderStore :=
  sampleFailed.withCache (sampleFailed.reader.cache.lookup
    (Orders.participant.cacheSettings sampleFailed.grants) sampleFailed.now
    (sampleFailed.grants.source "7") "7").cache

/-- The attempt was made again. -/
def sampleAgain : Link OrderStore := sampleRead.requested "r1" (.put, sampleGrant) [] []

def sampleDelivered : Link OrderStore :=
  delivered sampleAgain
    (Orders.participant.patch sampleAgain.grants .put sampleGrant sampleAgain.reader).2 []

theorem sampleRun : ReflTransGen (Step Orders.participant) sampleLink sampleDelivered := by
  have waits : sampleRead.failed = [(.put, sampleGrant)] := by decide +kernel
  have said : sampleAgain.underway = [(.put, sampleGrant)] := by decide +kernel
  have failed : ReflTransGen (Step Orders.participant) sampleLink sampleFailed :=
    .single (.request "r1" (.put, sampleGrant) sampleLink)
  have read : ReflTransGen (Step Orders.participant) sampleFailed sampleRead :=
    lookup_run (fun _ => .inr rfl) fun _ hf => nomatch hf
  have again : Step Orders.participant sampleRead sampleAgain := .again "r1" [] [] _ _ waits
  have told : Step Orders.participant sampleAgain sampleDelivered :=
    .deliver (.put, sampleGrant) [] _ said fun _ _ hf => nomatch hf
  exact ((failed.trans read).tail again).tail told

/-- The reader serves the grant that it fetched and was told of. -/
theorem cache_coherent_of_sampleRun : ∃ set,
    sampleDelivered.reader.cache.resident? sampleDelivered.now "7" = some set ∧
    sampleGrant ∈ set.grants "7" := by
  have fresh : Fresh sampleLink := ⟨(fun _ hg => nomatch hg), rfl, rfl, rfl, rfl⟩
  have settled : sampleDelivered.failed = [] := by decide +kernel
  have served : (sampleDelivered.reader.cache.resident? sampleDelivered.now "7").isSome := by
    decide +kernel
  obtain ⟨set, resident⟩ := Option.isSome_iff_exists.1 served
  refine ⟨set, resident, ?_⟩
  rw [cache_coherent fresh sampleRun rfl settled resident]
  decide +kernel

end Coherence

end Marketplace
