import Marketplace.Event.Batch
import Marketplace.Listing
import Marketplace.Policy.Guarded
import Marketplace.ServiceError

/-!
# Operations

An operation changes the store of one participant: it fails and changes nothing, or it commits, and
then says what it did, what it announces and what it counts. What it announces is sent after the
commit; a failure to send does not undo the change.

A call of a client is checked against the grants of the caller first. An event is either a request
to perform an operation or the news of a changed grant, by which the cache is patched.
-/

namespace Marketplace

/-- What a successful operation leaves behind. -/
structure Commit (σ α : Type) where
  store : σ
  answer : α
  /-- What is announced, in order. -/
  news : List Payload
  counts : Counts

/-- A step of a store, given an identifier and a moment to use. -/
abbrev Operation (σ α : Type) := Stamp → σ → Except ServiceError (Commit σ α)

/-- A request for a grant. -/
def Payload.grant (subject resourceType resourceId action : String) : Payload :=
  .upsertPolicy ⟨subject, resourceType, action, resourceId⟩

/-- What the reaction of a participant to an event is. -/
inductive Reaction (σ : Type) where
  /-- The cache takes up a change of a grant. -/
  | patch (method : PolicyMethod) (target : Grant)
  | perform (operation : Operation σ Unit)

/-- One of the services, with a store of type `σ`. -/
structure Participant (σ : Type) where
  service : Service
  /-- The types of resource that it guards. -/
  guards : List String
  /-- The kinds of event that it subscribes to, in order. -/
  topics : List Topic
  /-- What it does about an event. -/
  react : Payload → Option (Reaction σ)

/-- A participant at work: its store and cache, the outlet for its news, and the supply of
identifiers and moments. -/
structure Desk (σ : Type) where
  store : σ
  cache : GrantCache
  outlet : Outlet
  supply : Supply

/-- Where a cache is filled from, and how long its entries live. -/
structure Grants where
  lifetime : Nat
  sweepPeriod : Nat
  /-- Answers with the grants of a subject on a type of resource. -/
  source : (subject : String) → GrantSource

namespace Participant

variable {σ α : Type}

/-- The names of the events that it subscribes to. -/
def names (p : Participant σ) : List String := p.topics.map Topic.name

/-- The payloads that it reacts to. -/
def accepts (p : Participant σ) (payload : Payload) : Bool := (p.react payload).isSome

/-- How its cache is set up. -/
def cacheSettings (p : Participant σ) (g : Grants) : CacheSettings :=
  ⟨p.guards, g.lifetime, g.sweepPeriod⟩

/-- Asks its cache for something. -/
def consult {β : Type} (p : Participant σ) (g : Grants)
    (ask : GrantStore CountedCache → CountedCache → β × CountedCache) (d : Desk σ) : β × Desk σ :=
  match ask (.cached (p.cacheSettings g) d.outlet.bus.now g.source) ⟨d.cache, []⟩ with
  | (answer, s) => (answer, { d with cache := s.cache, outlet := d.outlet.count s.counts })

/-- The events that announce some news. -/
def events (service : Service) (correlation : String) :
    List Payload → Supply → Except EventError (List Event) × Supply
  | [], supply => (.ok [], supply)
  | payload :: news, supply =>
    let (stamp, supply) := supply.stamp
    match Registry.standard.create stamp service.name correlation payload.topic.name payload with
    | .error e => (.error e, supply)
    | .ok event =>
      match events service correlation news supply with
      | (.ok rest, supply) => (.ok (event :: rest), supply)
      | (.error e, supply) => (.error e, supply)

/-- Sends what was committed out to the others. -/
def announce (p : Participant σ) (correlation : String) (news : List Payload) (d : Desk σ) :
    Except ServiceError Unit × Desk σ :=
  match events p.service correlation news d.supply with
  | (.error e, supply) => (.error (.event e), { d with supply := supply })
  | (.ok batch, supply) =>
    match Registry.standard.sendAll true batch d.outlet with
    | (.ok (), outlet) => (.ok (), { d with outlet := outlet, supply := supply })
    | (.error e, outlet) => (.error (.event e), { d with outlet := outlet, supply := supply })

/-- Performs an operation and announces what it did. -/
def perform (p : Participant σ) (correlation : String) (operation : Operation σ α) (d : Desk σ) :
    Except ServiceError α × Desk σ :=
  let (stamp, supply) := d.supply.stamp
  let d := { d with supply := supply }
  match operation stamp d.store with
  | .error e => (.error e, d)
  | .ok c =>
    let d := { d with store := c.store, outlet := d.outlet.count c.counts }
    match p.announce correlation c.news d with
    | (.ok (), d) => (.ok c.answer, d)
    | (.error e, d) => (.error e, d)

/-- Performs an operation for a caller who holds all of some permissions. -/
def performFor (p : Participant σ) (g : Grants) (caller : Claims) (needed : List Permission)
    (correlation : String) (operation : Operation σ α) (d : Desk σ) :
    Except ServiceError α × Desk σ :=
  match p.consult g (fun store s => store.authorizeAll caller needed s) d with
  | (.error e, d) => (.error (.policy e), d)
  | (.ok (), d) => p.perform correlation operation d

/-- What a caller may list of a type of resource. -/
def filterFor (p : Participant σ) (g : Grants) (caller : Claims) (resourceType : String)
    (d : Desk σ) : Except ServiceError ResourceFilter × Desk σ :=
  match p.consult g (fun store s => store.resourceFilter caller resourceType s) d with
  | (.error e, d) => (.error (.policy e), d)
  | (.ok f, d) => (.ok f, d)

/-- Applies a change of a grant to the cache; a change that the cache has no use for is none. -/
def patch (p : Participant σ) (g : Grants) (method : PolicyMethod) (target : Grant) (d : Desk σ) :
    Except ServiceError Unit × Desk σ :=
  match d.cache.update (p.cacheSettings g) d.outlet.bus.now method target with
  | .ok cache => (.ok (), { d with cache := cache })
  | .error e => if e.isBenign then (.ok (), d) else (.error (.policy e), d)

/-- Handles an event. -/
def handle (p : Participant σ) (g : Grants) (correlation : String) (payload : Payload)
    (d : Desk σ) : Except ServiceError Unit × Desk σ :=
  match p.react payload with
  | none => (.ok (), d)
  | some (.patch method target) => p.patch g method target d
  | some (.perform operation) => p.perform correlation operation d

end Participant

end Marketplace
