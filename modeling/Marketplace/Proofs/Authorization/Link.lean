import Mathlib.Logic.Relation
import Marketplace.Proofs.Authorization.Revocation

/-!
# The list of grants and a cache that reads it

The authorization service and one reader whose cache is filled from its list. Changes are announced
after they are made and reach the cache in the order of the announcements; a fetch asks for one type
after the other and may see changes that are announced later, or not at all so far. While a fetch is
under way its subject is locked: changes that concern it wait.

What the owner of the list does about one event is one step here: the change, and the announcements
that go with it. It hears of requests to grant, of requests to revoke and of the ends of accounts by
three subscriptions. Each of them has a task of its own, which handles its events one after the
other, but one task may change the list while another has yet to announce what it did. Runs in which
two of them overlap in this way are not among those of this module.

## Results

* `after_cases`: what some changes make of a grant.
* `lookup_run`: a look-up at one go is a run of the steps of a fetch.
-/

namespace Marketplace

namespace Coherence

open Relation Authorization

/-! ## Changes on their way -/

abbrev Change := PolicyMethod × Grant

/-- Whether a grant is there after some changes, given whether it was before. -/
def after : List Change → Grant → Prop → Prop
  | [], _, has => has
  | u :: us, h, has => after us h (if h = u.2 then u.1 = .put else has)

variable {us vs : List Change} {g h : Grant} {has : Prop}

theorem after_append : after (us ++ vs) h has = after vs h (after us h has) := by
  induction us generalizing has with
  | nil => rfl
  | cons u us ih => exact ih

theorem after_of_ne (other : ∀ u ∈ us, h ≠ u.2) : after us h has = has := by
  induction us generalizing has with
  | nil => rfl
  | cons u us ih =>
    unfold after
    rw [if_neg (other u List.mem_cons_self)]
    exact ih fun v hv => other v (List.mem_cons_of_mem u hv)

/-- The changes say nothing about a grant, or say how it ends. -/
theorem after_cases (us : List Change) (h : Grant) :
    (∀ has, after us h has ↔ has) ∨ ∃ m : PolicyMethod, ∀ has, after us h has ↔ m = .put := by
  induction us with
  | nil => exact .inl fun _ => Iff.rfl
  | cons u us ih =>
    unfold after
    rcases ih with same | ⟨m, ends⟩
    · by_cases hu : h = u.2
      · exact .inr ⟨u.1, fun has => by rw [same, if_pos hu]⟩
      · exact .inl fun has => by rw [same, if_neg hu]
    · exact .inr ⟨m, fun has => ends _⟩

/-- A grant that was taken away is not there. -/
theorem not_after_deletes {gs : List Grant} (gone : g ∈ gs) :
    ¬after (gs.map (PolicyMethod.delete, ·)) g has := by
  induction gs generalizing has with
  | nil => cases gone
  | cons h gs ih =>
    by_cases rest : g ∈ gs
    · exact ih rest
    · have hg : g = h := (List.mem_cons.1 gone).resolve_right rest
      rw [List.map_cons]
      unfold after
      rw [if_pos hg, after_of_ne]
      · exact nofun
      · rintro u hu rfl
        obtain ⟨k, hk, he⟩ := List.mem_map.1 hu
        rw [← he] at rest
        exact rest hk

/-- The changes of grants among some news. -/
def changes (news : List Payload) : List Change :=
  news.filterMap fun
    | .policyUpdated m g => some (m, g)
    | _ => none

theorem changes_revocations (subject : String) (s : GrantBook) :
    changes (revocations subject s) = (s.select subject none).map (PolicyMethod.delete, ·) := by
  unfold changes revocations
  rw [List.filterMap_map, ← List.filterMap_eq_map]
  rfl

/-! ## The two ends -/

/-- A fetch under way: the types that were asked for so far and those that are left. -/
structure Fetch where
  subject : String
  asked : List String
  left : List String
  fetched : Fetched

/-- The fetch after the next type was asked for. -/
def Fetch.next (f : Fetch) (t : String) (left : List String)
    (answer : Except PolicyError (List String)) : Fetch :=
  ⟨f.subject, f.asked ++ [t], left, f.fetched.add f.subject answer⟩

/-- The authorization service, a reader of its list, the changes that have been announced and not
delivered, the requests that failed and are to come again, and the fetches under way. -/
structure Link (σ : Type) where
  lifetime : Nat
  sweepPeriod : Nat
  owner : Desk GrantBook
  reader : Desk σ
  underway : List Change
  failed : List Change
  fetches : List Fetch

/-- The link after the oldest change reached the reader. -/
abbrev delivered {σ : Type} (l : Link σ) (reader : Desk σ) (us : List Change) : Link σ :=
  { l with reader := reader, underway := us }

namespace Link

variable {σ : Type}

/-- Where the reader's cache is filled from. -/
def grants (l : Link σ) : Grants := ⟨l.lifetime, l.sweepPeriod, l.owner.store.source⟩

/-- The time at the reader. -/
def now (l : Link σ) : Nat := l.reader.outlet.bus.now

/-- How an attempt on a message comes out. -/
def fate (correlation : String) (payload : Payload) (l : Link σ) : Except ServiceError Unit :=
  (participant.handle l.grants correlation payload l.owner).1

/-- What goes out at an attempt on a message. -/
def said (correlation : String) (payload : Payload) (l : Link σ) : List Payload :=
  (participant.handled correlation payload l.owner).map Event.payload

/-- After an attempt on a message. -/
def attempted (correlation : String) (payload : Payload) (failed : List Change) (l : Link σ) :
    Link σ :=
  { l with
    owner := (participant.handle l.grants correlation payload l.owner).2
    underway := l.underway ++ changes (l.said correlation payload)
    failed := failed }

/-- After an attempt on a request to change a grant: it waits among the others if it is to come
again. -/
def requested (correlation : String) (u : Change) (before rest : List Change) (l : Link σ) :
    Link σ :=
  l.attempted correlation (request u.1 u.2)
    (if Handler.disposition (l.fate correlation (request u.1 u.2)) = .retry then
      before ++ u :: rest
    else before ++ rest)

/-- With another cache at the reader. -/
def withCache (c : GrantCache) (l : Link σ) : Link σ := { l with reader.cache := c }

/-- No fetch has locked a subject. -/
def Free (subject : String) (l : Link σ) : Prop := ∀ f ∈ l.fetches, f.subject ≠ subject

end Link

section Runs

variable {σ : Type} (p : Participant σ)

/-- A step of the two ends and of what is between them. An attempt of the owner is one step, from
its change to its last announcement. -/
inductive Step : Link σ → Link σ → Prop
  /-- A request to give or to revoke a grant is handled for the first time. -/
  | request (correlation : String) (u : Change) (l : Link σ) :
    Step l (l.requested correlation u l.failed [])
  /-- A request that failed is handled again. -/
  | again (correlation : String) (before rest : List Change) (u : Change) (l : Link σ)
    (waits : l.failed = before ++ u :: rest) : Step l (l.requested correlation u before rest)
  /-- The end of an account is handled, and the bus does not fail. -/
  | ended (correlation : String) (a : AccountId) (l : Link σ)
    (carried : ∀ e, l.fate correlation (.accountDeleted a) ≠ .error (.event e)) :
    Step l (l.attempted correlation (.accountDeleted a) l.failed)
  /-- The reader looks a subject up that is resident. -/
  | hit (subject : String) (s : GrantSet) (l : Link σ)
    (resident : l.reader.cache.resident? l.now subject = some s) :
    Step l (l.withCache (l.reader.cache.lookup (p.cacheSettings l.grants) l.now
      (l.grants.source subject) subject).cache)
  /-- The reader looks a subject up that is not resident, and begins to fetch. -/
  | ask (subject : String) (l : Link σ)
    (miss : l.reader.cache.resident? l.now subject = none) (free : l.Free subject) :
    Step l { l with fetches := l.fetches ++ [⟨subject, [], p.guards, ⟨.empty, []⟩⟩] }
  /-- The list answers for the next type, or the query fails. -/
  | answer (before rest : List Fetch) (f : Fetch) (t : String) (left : List String)
    (x : Except PolicyError (List String)) (l : Link σ)
    (isOpen : l.fetches = before ++ f :: rest) (next : f.left = t :: left)
    (given : (∃ e, x = .error e) ∨ x = l.grants.source f.subject t) :
    Step l { l with fetches := before ++ f.next t left x :: rest }
  /-- Every type was asked for, and the look-up ends. -/
  | finish (before rest : List Fetch) (f : Fetch) (l : Link σ)
    (isOpen : l.fetches = before ++ f :: rest) (all : f.left = []) :
    Step l { l.withCache (l.reader.cache.settle (p.cacheSettings l.grants) l.now f.fetched
      f.subject) with fetches := before ++ rest }
  /-- The oldest change on its way reaches the reader; it waits while its subject is locked. -/
  | deliver (u : Change) (us : List Change) (l : Link σ) (first : l.underway = u :: us)
    (free : u.2.resourceType ∈ p.guards → l.Free u.2.subject) :
    Step l (delivered l (p.patch l.grants u.1 u.2 l.reader).2 us)
  /-- The cache is swept. -/
  | sweep (l : Link σ) : Step l (l.withCache (l.reader.cache.sweep l.now))
  /-- Time passes, stores go down and up, buses and clocks do as they like. -/
  | surroundings (owner : Desk GrantBook) (reader : Desk σ) (l : Link σ)
    (same : owner.store.grants = l.owner.store.grants) (cache : reader.cache = l.reader.cache)
    (later : l.now ≤ reader.outlet.bus.now) :
    Step l { l with owner := owner, reader := reader }

variable {p} in
/-- The types that are left are asked for one after the other. -/
theorem answers_run {l : Link σ} {subject : String} {source : GrantSource}
    (given : ∀ t, (∃ e, source t = .error e) ∨ source t = l.grants.source subject t) :
    ∀ (types asked : List String) (f : Fetched),
      ReflTransGen (Step p) { l with fetches := l.fetches ++ [⟨subject, asked, types, f⟩] }
        { l with fetches := l.fetches ++ [⟨subject, asked ++ types, [],
          types.foldl (fun f t => f.add subject (source t)) f⟩] }
  | [], asked, f => by
    rw [List.append_nil]
    exact .refl
  | t :: types, asked, f => by
    have rest := answers_run given types (asked ++ [t]) (f.add subject (source t))
    rw [List.append_assoc] at rest
    exact .head (.answer l.fetches [] _ t types (source t) _ rfl rfl (given t)) rest

variable {p} in
/-- **A look-up at one go** is a run of steps, whichever of its queries fail. -/
theorem lookup_run {l : Link σ} {subject : String} {source : GrantSource}
    (given : ∀ t, (∃ e, source t = .error e) ∨ source t = l.grants.source subject t)
    (free : l.Free subject) :
    ReflTransGen (Step p) l (l.withCache
      (l.reader.cache.lookup (p.cacheSettings l.grants) l.now source subject).cache) := by
  rcases GrantCache.lookup_cases (p.cacheSettings l.grants) l.now source l.reader.cache subject with
    ⟨s, hs, _, hc⟩ | ⟨none, hc, _⟩
  · rcases GrantCache.lookup_cases (p.cacheSettings l.grants) l.now (l.grants.source subject)
      l.reader.cache subject with ⟨s', hs', _, hc'⟩ | ⟨none, _⟩
    · rw [hs] at hs'
      cases hs'
      rw [hc, ← hc']
      exact .single (.hit subject s l hs)
    · rw [hs] at none
      cases none
  · have answers := answers_run (p := p) given p.guards [] ⟨.empty, []⟩
    have ends := Step.finish (p := p) l.fetches [] ⟨subject, p.guards, [],
      Fetched.ofSource subject p.guards source⟩ { l with fetches := l.fetches ++ [_] } rfl rfl
    rw [hc]
    refine .head (.ask subject l none free) (answers.tail ?_)
    rw [List.append_nil] at ends
    exact ends

/-- Any list of well-formed grants, and a cache that holds nothing. -/
structure Fresh (l : Link σ) : Prop where
  wellFormed : ∀ g, l.owner.store.Holds g → g.isWellFormed = true
  cache : l.reader.cache = .empty
  underway : l.underway = []
  failed : l.failed = []
  fetches : l.fetches = []

end Runs

end Coherence

end Marketplace
