import Marketplace.Proofs.Policy.Enforcer

/-!
# A cache of grants in use

Look-ups, announced changes and sweeps, one call after the other. The source behind the cache may
take its time and answer as it likes: what it answers to a query may depend on the moment and on
every query that it was asked before, so the same query may be answered differently each time.

## Results

* `perform_log`: what is new to the source is what the call asked.
* `perform_get_of_source`: with a source that answers at once and by the type alone, the look-ups of
  a session are those of the cache.
-/

namespace Marketplace

namespace CacheSession

/-! ## Calls -/

inductive Request where
  | get (subject : String)
  | update (m : PolicyMethod) (g : Grant)
  | sweep

/-- The subject that a request is about; a sweep is about none. -/
def Request.subject? : Request → Option String
  | get subject => some subject
  | update _ g => some g.subject
  | sweep => none

/-- A request at a moment. It is done at another, which is later if the source has to be asked and
takes its time. -/
structure Call where
  time : Nat
  request : Request
  done : Nat
  time_le_done : time ≤ done

namespace Call

/-- A request that is done at once. -/
def atOnce (time : Nat) (request : Request) : Call := ⟨time, request, time, Nat.le_refl time⟩

def isSweep (c : Call) : Bool := c.request.subject? = none

def isAbout (subject : String) (c : Call) : Bool := c.request.subject? = some subject

/-- A call about a subject, or a sweep. -/
def isFor (subject : String) (c : Call) : Bool := c.isSweep || c.isAbout subject

end Call

/-- Calls that are made one after the other, from a moment on. -/
def InTurn (time : Nat) (calls : List Call) : Prop :=
  (∀ c ∈ calls, time ≤ c.time) ∧ calls.Pairwise fun c d => c.done ≤ d.time

theorem InTurn.cons {time : Nat} {c : Call} {calls : List Call} (h : InTurn time (c :: calls)) :
    time ≤ c.time ∧ InTurn c.done calls := by
  obtain ⟨from', ordered⟩ := h
  rw [List.pairwise_cons] at ordered
  exact ⟨from' c List.mem_cons_self, ordered⟩

/-- Something happened, and since then only what is allowed. -/
def Since {α : Type} (happened allowed : α → Prop) (xs : List α) : Prop :=
  ∃ before x since, xs = before ++ x :: since ∧ happened x ∧ ∀ y ∈ since, allowed y

section Since

variable {α : Type} {happened allowed : α → Prop} {xs : List α} {x : α}

theorem not_since_nil : ¬Since happened allowed [] := by
  rintro ⟨before, x, since, split, _⟩
  exact List.append_ne_nil_of_right_ne_nil before (List.cons_ne_nil x since) split.symm

/-- Either it happens now, or it happened before and what happens now is allowed. -/
theorem since_concat :
    Since happened allowed (xs ++ [x]) ↔ happened x ∨ (Since happened allowed xs ∧ allowed x) := by
  constructor
  · rintro ⟨before, y, since, split, hy, rest⟩
    rcases List.eq_nil_or_concat since with rfl | ⟨since, z, rfl⟩
    · obtain ⟨-, last⟩ := List.append_inj' split rfl
      cases last
      exact .inl hy
    · rw [List.concat_eq_append, ← List.cons_append, ← List.append_assoc] at split
      obtain ⟨rfl, last⟩ := List.append_inj' split rfl
      cases last
      rw [List.concat_eq_append, List.forall_mem_append] at rest
      exact .inr ⟨⟨before, y, since, rfl, hy, rest.1⟩, rest.2 x List.mem_cons_self⟩
  · rintro (now | ⟨⟨before, y, since, rfl, hy, rest⟩, now⟩)
    · exact ⟨xs, x, [], rfl, now, fun _ h => nomatch h⟩
    · refine ⟨before, y, since ++ [x], List.append_assoc _ _ _, hy, ?_⟩
      rw [List.forall_mem_append]
      exact ⟨rest, List.forall_mem_singleton.2 now⟩

end Since

/-! ## The source -/

/-- A query to the source and what it answered. -/
structure Exchange where
  time : Nat
  subject : String
  resourceType : String
  answer : Except PolicyError (List String)

/-- What a source answers at a moment to a query for a subject and a type of resource, given all
exchanges before. -/
abbrev Upstream :=
  List Exchange → (time : Nat) → (subject resourceType : String) → Except PolicyError (List String)

/-- The exchanges of a fetch: one for each type, in order. -/
def exchanges (u : Upstream) (time : Nat) (subject : String) :
    List String → List Exchange → List Exchange
  | [], _ => []
  | t :: types, log =>
    let x : Exchange := ⟨time, subject, t, u log time subject t⟩
    x :: exchanges u time subject types (log ++ [x])

/-- What a fetch finds. -/
def fetched (u : Upstream) (time : Nat) (subject : String) (types : List String)
    (log : List Exchange) : Fetched :=
  .ofAnswers subject ((exchanges u time subject types log).map Exchange.answer)

theorem subject_of_mem_exchanges {u : Upstream} {time : Nat} {subject : String} {x : Exchange} :
    ∀ {types : List String} {log : List Exchange},
      x ∈ exchanges u time subject types log → x.subject = subject
  | [], _, hx => nomatch hx
  | t :: types, log, hx => by
    unfold exchanges at hx
    rcases List.mem_cons.1 hx with rfl | hx
    · rfl
    · exact subject_of_mem_exchanges hx

/-- A fetch asks for every type once, in order. -/
theorem map_resourceType_exchanges (u : Upstream) (time : Nat) (subject : String) :
    ∀ (types : List String) (log : List Exchange),
      (exchanges u time subject types log).map Exchange.resourceType = types
  | [], _ => rfl
  | t :: types, log => by
    unfold exchanges
    rw [List.map_cons, map_resourceType_exchanges u time subject types]

/-! ## Runs -/

inductive Reply where
  | granted (answer : Except PolicyError (List Grant))
  | updated (answer : Except PolicyError Unit)
  | swept (count : Nat)

/-- A call, what came of it, and what it asked the source. -/
structure Row where
  call : Call
  reply : Reply
  asked : List Exchange

/-- The cache, and all exchanges with the source so far. -/
structure State where
  cache : GrantCache
  log : List Exchange

/-- Nothing was asked yet. -/
def State.start : State := ⟨.empty, []⟩

section Runs

variable (settings : CacheSettings) (u : Upstream)

/-- A call is made. -/
def perform (s : State) (c : Call) : Row × State :=
  match c.request with
  | .get subject =>
    let found := fetched u c.time subject settings.handled s.log
    let l := s.cache.serve settings c.time c.done found subject
    let asked := exchanges u c.time subject l.asked s.log
    (⟨c, .granted l.answer, asked⟩, ⟨l.cache, s.log ++ asked⟩)
  | .update m g =>
    match s.cache.update settings c.time m g with
    | .ok cache => (⟨c, .updated (.ok ()), []⟩, { s with cache := cache })
    | .error e => (⟨c, .updated (.error e), []⟩, s)
  | .sweep =>
    (⟨c, .swept (s.cache.expiredCount c.time), []⟩, { s with cache := s.cache.sweep c.time })

/-- After some calls. -/
def after (s : State) (calls : List Call) : State :=
  calls.foldl (fun s c => (perform settings u s c).2) s

/-- What came of some calls. -/
def history : State → List Call → List Row
  | _, [] => []
  | s, c :: calls => (perform settings u s c).1 :: history (perform settings u s c).2 calls

variable {settings u}

theorem history_cons (s : State) (c : Call) (calls : List Call) :
    history settings u s (c :: calls) =
      (perform settings u s c).1 :: history settings u (perform settings u s c).2 calls :=
  rfl

theorem perform_call (s : State) (c : Call) : (perform settings u s c).1.call = c := by
  unfold perform
  split
  · rfl
  · split <;> rfl
  · rfl

/-- The exchanges of a call are those that are new. -/
theorem perform_log (s : State) (c : Call) :
    (perform settings u s c).2.log = s.log ++ (perform settings u s c).1.asked := by
  unfold perform
  split
  · rfl
  · split <;> exact (List.append_nil _).symm
  · exact (List.append_nil _).symm

section Calls

variable {s : State} {now done later : Nat} {taken : now ≤ done} {subject : String}

theorem perform_get_of_resident {set : GrantSet} (hit : s.cache.resident? now subject = some set) :
    (perform settings u s ⟨now, .get subject, done, taken⟩).1 =
      ⟨⟨now, .get subject, done, taken⟩, .granted (.ok (set.grants subject)), []⟩ := by
  unfold perform
  dsimp only
  rw [GrantCache.serve_of_resident _ _ hit]
  rfl

/-- **A miss** asks for every type, and its answer is made of what comes back. -/
theorem perform_get_of_none (miss : s.cache.resident? now subject = none) :
    (perform settings u s ⟨now, .get subject, done, taken⟩).1 =
      ⟨⟨now, .get subject, done, taken⟩,
        .granted ((fetched u now subject settings.handled s.log).verdict settings subject),
        exchanges u now subject settings.handled s.log⟩ := by
  unfold perform
  dsimp only
  rw [GrantCache.serve_of_none _ _ miss]

/-- What is served after a look-up. -/
theorem resident?_get (u : Upstream) (s : State) (j : String) (hl : now ≤ later) :
    (perform settings u s ⟨now, .get j, done, taken⟩).2.cache.resident? later subject =
      if subject = j then
        GrantCache.renewed settings now done (fetched u now j settings.handled s.log) later
          (s.cache.resident? now j)
      else s.cache.resident? later subject :=
  GrantCache.resident?_serve _ _ _ hl

/-- A change that is applied asks nothing. -/
theorem perform_update_of_ok {m : PolicyMethod} {g : Grant} {d : GrantCache}
    (hu : s.cache.update settings now m g = .ok d) :
    perform settings u s ⟨now, .update m g, done, taken⟩ =
      (⟨⟨now, .update m g, done, taken⟩, .updated (.ok ()), []⟩, { s with cache := d }) := by
  unfold perform
  dsimp only
  rw [hu]

/-- A change that is of no use leaves everything as it is. -/
theorem perform_update_of_error {m : PolicyMethod} {g : Grant} {e : PolicyError}
    (hu : s.cache.update settings now m g = .error e) :
    perform settings u s ⟨now, .update m g, done, taken⟩ =
      (⟨⟨now, .update m g, done, taken⟩, .updated (.error e), []⟩, s) := by
  unfold perform
  dsimp only
  rw [hu]

/-- Only a look-up of a subject changes how long the subject is served. -/
theorem isSome_resident?_other {c : Call} (other : c.request ≠ .get subject) (hl : c.time ≤ later) :
    ((perform settings u s c).2.cache.resident? later subject).isSome =
      (s.cache.resident? later subject).isSome := by
  obtain ⟨now, request, done, taken⟩ := c
  cases request with
  | get j =>
    have ne : subject ≠ j := by
      rintro rfl
      exact other rfl
    rw [resident?_get u s j hl, if_neg ne]
  | update m g =>
    cases hu : s.cache.update settings now m g with
    | error e => rw [perform_update_of_error hu]
    | ok d =>
      rw [perform_update_of_ok hu, GrantCache.resident?_update hu]
      split
      · exact Option.isSome_map
      · rfl
  | sweep => exact congrArg Option.isSome (GrantCache.resident?_sweep hl)

end Calls

theorem exchanges_answers {time : Nat} {subject : String} {source : GrantSource}
    (steady : ∀ log t, u log time subject t = source t) :
    ∀ (types : List String) (log : List Exchange),
      (exchanges u time subject types log).map Exchange.answer = types.map source
  | [], _ => rfl
  | t :: types, log => by
    unfold exchanges
    rw [List.map_cons, exchanges_answers steady types, steady, List.map_cons]

/-- **A look-up of a session** is that of the cache, where the source answers at once and by the
type alone. -/
theorem perform_get_of_source {time : Nat} {subject : String} {source : GrantSource}
    (steady : ∀ log t, u log time subject t = source t) (s : State) :
    (perform settings u s (.atOnce time (.get subject))).1.reply =
        .granted (s.cache.lookup settings time source subject).answer ∧
      (perform settings u s (.atOnce time (.get subject))).2.cache =
        (s.cache.lookup settings time source subject).cache := by
  have found : fetched u time subject settings.handled s.log =
      Fetched.ofSource subject settings.handled source := by
    unfold fetched
    rw [exchanges_answers steady, Fetched.ofSource_eq]
  unfold perform Call.atOnce
  dsimp only
  rw [found]
  exact ⟨rfl, rfl⟩

end Runs

/-- Two types of resource, and entries that do not live long. -/
def sampleSettings : CacheSettings := ⟨[Resource.orders, Resource.products], 10, 0⟩

end CacheSession

end Marketplace
