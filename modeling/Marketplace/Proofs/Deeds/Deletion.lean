import Marketplace.Proofs.Deeds.Course

/-!
# What is left of a deleted account

The five participants without failures. Every event that is published becomes one message for each
service that subscribes to it. Messages to one service about one kind of event arrive in order, all
others in any order. When an account is deleted, its grants are taken off the list as soon as the
authorization service hears of it, and a request for a grant that it hears after that is granted all
the same.

## Results

* `Authorization.handle_holds`: what an event does to a grant.
* `Feed.grants_outlive_account_iff`: when no message is pending, the grants of a deleted account are
  those that were requested after the last news of its end.
* `Feed.grant_outlives_account`: there may be such grants.
-/

namespace Marketplace

open Relation

/-! ## What the authorization service hears -/

/-- Whether a grant stands after an event, if it stood before or did not. -/
def Payload.leaves (p : Payload) (g : Grant) (stood : Prop) : Prop :=
  match p with
  | .upsertPolicy x => g = x ∨ stood
  | .removePolicy x => stood ∧ g ≠ x
  | .accountDeleted a => stood ∧ g.subject ≠ a.subject
  | _ => stood

namespace Authorization

variable {g : Grant} {a : AccountId}

/-- Whether a grant stands after some events. -/
def standing (heard : List Payload) (g : Grant) (stood : Prop) : Prop :=
  heard.foldl (fun stood p => p.leaves g stood) stood

theorem standing_append (heard more : List Payload) (g : Grant) (stood : Prop) :
    standing (heard ++ more) g stood ↔ standing more g (standing heard g stood) := by
  unfold standing
  rw [List.foldl_append]

/-- **After its end an account has the grants that are asked for later**, and those that it had. -/
theorem standing_of_living {heard : List Payload} (own : g.subject = a.subject)
    (lives : .accountDeleted a ∉ heard) (kept : ∀ x, .removePolicy x ∉ heard) (stood : Prop) :
    standing heard g stood ↔ stood ∨ .upsertPolicy g ∈ heard := by
  induction heard generalizing stood with
  | nil => simp [standing]
  | cons p heard ih =>
    have later := ih (fun h => lives (List.mem_cons_of_mem _ h))
      (fun x h => kept x (List.mem_cons_of_mem _ h)) (p.leaves g stood)
    change standing heard g (p.leaves g stood) ↔ _
    rw [later, List.mem_cons]
    cases p with
    | upsertPolicy x =>
      unfold Payload.leaves
      rw [Payload.upsertPolicy.injEq]
      exact or_assoc.trans or_left_comm
    | removePolicy x => exact (kept x List.mem_cons_self).elim
    | accountDeleted b =>
      -- the end of another account
      have other : g.subject ≠ b.subject := by
        rw [own]
        intro same
        cases AccountId.subject_injective same
        exact lives List.mem_cons_self
      unfold Payload.leaves
      simp [other]
    | _ => simp [Payload.leaves]

/-- **What an event does to a grant**, when the store is up. -/
theorem handle_holds (grants : Grants) (correlation : String) {d : Desk GrantBook}
    (up : d.store.isDown = false) {p : Payload}
    (proper : ∀ m x, p = request m x → x.isWellFormed = true) (g : Grant) :
    (participant.handle grants correlation p d).2.store.Holds g ↔
      p.leaves g (d.store.Holds g) := by
  have altered : ∀ m x, p = request m x →
      ((participant.handle grants correlation p d).2.store.Holds g ↔
        if g = x then m = .put else d.store.Holds g) := by
    rintro m x rfl
    obtain ⟨c, hc⟩ := alter_of_up m d.supply.stamp.1 (proper m x rfl) up
    obtain ⟨_, _, store, _⟩ := alter_eq_ok hc
    rw [participant.handle_eq_commit grants correlation (react_request m x) hc, store]
    exact GrantBook.holds_changed
  cases p with
  | upsertPolicy x =>
    rw [altered .put x rfl]
    unfold Payload.leaves
    split <;> simp_all
  | removePolicy x =>
    rw [altered .delete x rfl]
    unfold Payload.leaves
    split <;> simp_all
  | accountDeleted a =>
    rcases revokeAll_cases a d.supply.stamp.1 d.store with ⟨down, _⟩ | ⟨_, c, hc, store, _⟩
    · cases up.symm.trans down
    · rw [participant.handle_eq_commit grants correlation rfl hc, store]
      exact GrantBook.holds_without
  | _ => exact Iff.rfl

end Authorization

namespace Call

/-- A call that changes the list of grants by hand. -/
def IsEdit : Call → Prop
  | .revokeGrant _ => True
  | .revokeGrants _ => True
  | _ => False

variable {g : Grants} {correlation : String} {caller : Claims} {m : Market}

/-- No other call changes the list. -/
theorem run_book {c : Call} (asked : ¬c.IsEdit) :
    (c.run g correlation caller m).1.authorization.store = m.authorization.store := by
  cases c with
  | revokeGrant x => exact (asked trivial).elim
  | revokeGrants account => exact (asked trivial).elim
  | listProducts q =>
    unfold run
    dsimp only
    split <;> rfl
  | _ => rfl

end Call

/-! ## Queues -/

/-- A course of the market, the messages that are pending, in the order in which they were sent, and
what the authorization service heard. -/
structure Feed where
  course : Course
  pending : List Saga.Message
  heard : List Payload

namespace Feed

/-- The services that subscribe to an event. -/
def subscribers (settings : MarketSettings) (e : Event) : List Service :=
  Service.all.filter fun v => (Market.handler settings v).names.contains e.name

/-- One message for every service that subscribes to an event. -/
def messages (settings : MarketSettings) (events : List Event) : List Saga.Message :=
  events.flatMap fun e => (subscribers settings e).map fun v => ⟨v, e⟩

/-- Before anything has happened. -/
def start (settings : MarketSettings) (outlet : Outlet) (supply : Supply) : Feed :=
  ⟨.start settings outlet supply, [], []⟩

/-- Every store can be reached, and so can the list of grants, and the bus carries every event. -/
def Healthy (m : Market) : Prop :=
  m.identity.store.isDown = false ∧ m.authorization.store.isDown = false ∧
    m.inventory.store.isDown = false ∧ m.orders.store.isDown = false ∧
    m.payments.store.isDown = false ∧ m.settings.grantsReachable = true ∧
    m.outlet.bus.failOn = none ∧ m.outlet.bus.isClosed = false

/-- The feed after a step. -/
def next (f : Feed) (m : Market) (events : List Event) (left : List Saga.Message)
    (heard : List Payload) : Feed :=
  ⟨f.course.next m events, left ++ messages m.settings events, f.heard ++ heard⟩

/-- After a call of a client. -/
def called (correlation : String) (caller : Claims) (c : Call) (f : Feed) : Feed :=
  let after := c.run f.course.market.grants correlation caller f.course.market
  f.next after.1 after.2 f.pending []

/-- After an attempt on a message, which is settled unless it is to come again. -/
def delivered (before : List Saga.Message) (a : Saga.Message) (rest : List Saga.Message)
    (f : Feed) : Feed :=
  f.next (f.course.market.deliver a.receiver a.event).2
    (f.course.market.handled a.receiver a.event)
    (if (f.course.market.deliver a.receiver a.event).1 = .retry then f.pending else before ++ rest)
    (if a.receiver = .authorization then [a.event.payload] else [])

/-- No message of those before goes to the same service about the same kind of event. -/
def First (before : List Saga.Message) (a : Saga.Message) : Prop :=
  ∀ b ∈ before, ¬(b.receiver = a.receiver ∧ b.event.name = a.event.name)

/-- A step of the feed. -/
inductive Step : Feed → Feed → Prop
  /-- A client calls, but not to change the list of grants. -/
  | call (correlation : String) (caller : Claims) (c : Call) (f : Feed) (asked : ¬c.IsEdit)
    (healthy : Healthy f.course.market) (ready : f.course.Ready) :
    Step f (f.called correlation caller c)
  /-- The first message of a queue arrives. -/
  | deliver (before : List Saga.Message) (a : Saga.Message) (rest : List Saga.Message) (f : Feed)
    (queued : f.pending = before ++ a :: rest) (first : First before a)
    (healthy : Healthy f.course.market) (ready : f.course.Ready) :
    Step f (f.delivered before a rest)
  /-- Time passes, caches are swept, and identifiers run on. -/
  | surroundings (m : Market) (f : Feed) (same : Course.SameStores f.course.market m) :
    Step f (f.next m [] f.pending [])

/-! ## The invariant -/

variable {f f' : Feed}

/-- The list is what the authorization service heard, and it heard of every end of an account or has
a message about it. -/
structure Inv (f : Feed) : Prop where
  course : f.course.Inv
  pending : ∀ a ∈ f.pending, a.event.payload ∈ f.course.published
  heard : ∀ p ∈ f.heard, p ∈ f.course.published
  ends : ∀ a, .accountDeleted a ∈ f.course.published → .accountDeleted a ∈ f.heard ∨
    ∃ b ∈ f.pending, b.receiver = .authorization ∧ b.event.payload = .accountDeleted a
  book : ∀ g, f.course.market.authorization.store.Holds g ↔
    Authorization.standing f.heard g False

theorem inv_start (settings : MarketSettings) (outlet : Outlet) (supply : Supply) :
    Inv (start settings outlet supply) :=
  ⟨Course.inv_start settings outlet supply, (fun _ ha => nomatch ha), (fun _ hp => nomatch hp),
    (fun _ ha => nomatch ha), fun g => iff_of_false (GrantBook.not_holds_empty g) id⟩

theorem mem_messages {settings : MarketSettings} {events : List Event} {a : Saga.Message} :
    a ∈ messages settings events ↔
      a.event ∈ events ∧ a.receiver ∈ subscribers settings a.event := by
  unfold messages
  rw [List.mem_flatMap]
  constructor
  · rintro ⟨e, he, ha⟩
    obtain ⟨v, hv, rfl⟩ := List.mem_map.1 ha
    exact ⟨he, hv⟩
  · rintro ⟨he, hv⟩
    exact ⟨a.event, he, List.mem_map.2 ⟨a.receiver, hv, rfl⟩⟩

/-- The authorization service gets a message about every end of an account. -/
theorem message_of_end {settings : MarketSettings} {events : List Event} {e : Event} {a : AccountId}
    (sent : e ∈ events) (standard : e.IsStandard) (ends : e.payload = .accountDeleted a) :
    ⟨.authorization, e⟩ ∈ messages settings events := by
  have service : Service.authorization ∈ Service.all := by decide
  refine mem_messages.2 ⟨sent, List.mem_filter.2 ⟨service, ?_⟩⟩
  unfold Event.IsStandard at standard
  dsimp only
  rw [standard, ends]
  rfl

/-- The invariant, from what is pending and heard before a step to that after it. -/
theorem Inv.next (i : Inv f) {m : Market} {events : List Event} {left : List Saga.Message}
    {heard : List Payload} (course : (f.course.next m events).Inv)
    (standard : ∀ e ∈ events, e.IsStandard) (sub : ∀ a ∈ left, a ∈ f.pending)
    (done : ∀ a ∈ f.pending, a ∈ left ∨ (a.receiver = .authorization → a.event.payload ∈ heard))
    (known : ∀ p ∈ heard, p ∈ f.course.published)
    (book : ∀ g, m.authorization.store.Holds g ↔
      Authorization.standing heard g (f.course.market.authorization.store.Holds g)) :
    Inv (f.next m events left heard) := by
  refine ⟨course, ?_, ?_, ?_, ?_⟩
  · intro a ha
    rcases List.mem_append.1 ha with ha | ha
    · exact List.mem_append_left _ (i.pending a (sub a ha))
    · exact List.mem_append_right _ (List.mem_map_of_mem (mem_messages.1 ha).1)
  · intro p hp
    apply List.mem_append_left
    rcases List.mem_append.1 hp with hp | hp
    · exact i.heard p hp
    · exact known p hp
  · intro a ha
    rcases List.mem_append.1 ha with ha | ha
    · rcases i.ends a ha with told | ⟨b, hb, here, is⟩
      · exact .inl (List.mem_append_left _ told)
      · rcases done b hb with waits | told
        · exact .inr ⟨b, List.mem_append_left _ waits, here, is⟩
        · exact .inl (List.mem_append_right _ (is ▸ told here))
    · obtain ⟨e, he, is⟩ := List.mem_map.1 ha
      exact .inr ⟨⟨.authorization, e⟩,
        List.mem_append_right _ (message_of_end he (standard e he) is), rfl, is⟩
  · intro g
    show m.authorization.store.Holds g ↔ Authorization.standing (f.heard ++ heard) g False
    rw [book g, Authorization.standing_append, propext (i.book g)]

/-- Only the authorization service changes the list. -/
theorem deliver_book {v : Service} (elsewhere : v ≠ .authorization) (e : Event) (m : Market) :
    (m.deliver v e).2.authorization.store = m.authorization.store := by
  cases v with
  | authorization => exact (elsewhere rfl).elim
  | _ => rfl

theorem Step.inv (h : Step f f') (i : Inv f) : Inv f' := by
  cases h with
  | call correlation caller c f asked healthy ready =>
    refine i.next (i.course.call (Course.reads_grants _) ready c) c.run_standard (fun _ ha => ha)
      (fun _ ha => .inl ha) (fun _ hp => nomatch hp) ?_
    intro g
    rw [Call.run_book asked]
    rfl
  | deliver before a rest f queued first healthy ready =>
    have waiting : a ∈ f.pending := by
      rw [queued]
      exact List.mem_append_cons_self
    have sent := i.pending a waiting
    refine i.next (i.course.arrive a.receiver sent ready)
      (f.course.market.handled_standard a.receiver a.event) ?_ ?_ ?_ ?_
    · intro b hb
      split at hb
      · exact hb
      · rw [queued]
        exact List.perm_middle.mem_iff.2 (List.mem_cons_of_mem _ hb)
    · intro b hb
      rw [queued] at hb
      rcases List.mem_cons.1 (List.perm_middle.mem_iff.1 hb) with rfl | hb
      · right
        intro here
        rw [if_pos here]
        exact List.mem_cons_self
      · left
        split
        · rw [queued]
          exact List.perm_middle.mem_iff.2 (List.mem_cons_of_mem _ hb)
        · exact hb
    · intro p hp
      split at hp
      · cases List.mem_singleton.1 hp
        exact sent
      · cases hp
    · intro g
      split
      · rename_i here
        have backed := i.course.published _ sent
        rw [here]
        refine Authorization.handle_holds _ _ healthy.2.1 ?_ g
        -- what is asked for is justified, and nobody asks to take a grant away
        intro m x asks
        rw [asks] at backed
        cases m with
        | put => exact backed.isWellFormed
        | delete => exact backed.elim
      · rename_i elsewhere
        rw [deliver_book elsewhere]
        rfl
  | surroundings m f same =>
    obtain ⟨_, book⟩ := same.authorization
    refine i.next (i.course.surroundings same) (fun _ he => nomatch he) (fun _ ha => ha)
      (fun _ ha => .inl ha) (fun _ hp => nomatch hp) ?_
    intro g
    rw [book]
    rfl

variable {settings : MarketSettings} {outlet : Outlet} {supply : Supply}

theorem inv_of_run (run : ReflTransGen Step (start settings outlet supply) f) : Inv f := by
  induction run with
  | refl => exact inv_start settings outlet supply
  | tail _ step ih => exact step.inv ih

/-- The last place of an element in a list. -/
theorem eq_append_of_mem {α : Type} {x : α} {xs : List α} (h : x ∈ xs) :
    ∃ before after, xs = before ++ x :: after ∧ x ∉ after := by
  obtain ⟨after, before, split, new⟩ := List.eq_append_cons_of_mem (List.mem_reverse.2 h)
  refine ⟨before.reverse, after.reverse, ?_, ?_⟩
  · rw [← List.reverse_reverse xs, split]
    simp
  · rwa [List.mem_reverse]

/-- **The grants that outlive an account**: when no message is pending, a deleted account has the
grants that were asked for after the authorization service last heard of its end, and no others. -/
theorem grants_outlive_account_iff (run : ReflTransGen Step (start settings outlet supply) f)
    (idle : f.pending = []) {a : AccountId}
    (deleted : .accountDeleted a ∈ f.course.published) :
    ∃ before after, f.heard = before ++ .accountDeleted a :: after ∧ .accountDeleted a ∉ after ∧
      ∀ g, g.subject = a.subject →
        (f.course.market.authorization.store.Holds g ↔ .upsertPolicy g ∈ after) := by
  have i := inv_of_run run
  have told : .accountDeleted a ∈ f.heard := by
    rcases i.ends a deleted with told | ⟨b, hb, _⟩
    · exact told
    · rw [idle] at hb
      cases hb
  obtain ⟨before, after, split, last⟩ := eq_append_of_mem told
  refine ⟨before, after, split, last, ?_⟩
  intro g own
  have kept : ∀ x, .removePolicy x ∉ after := by
    intro x hx
    have heard : .removePolicy x ∈ f.heard := by
      rw [split]
      exact List.mem_append_right _ (List.mem_cons_of_mem _ hx)
    exact i.course.published _ (i.heard _ heard)
  rw [i.book g, split, Authorization.standing_append]
  change Authorization.standing after g (_ ∧ g.subject ≠ a.subject) ↔ _
  rw [Authorization.standing_of_living own last kept]
  constructor
  · rintro (⟨_, other⟩ | asked)
    · exact (other own).elim
    · exact asked
  · exact .inr

/-! ## A grant that is requested too late -/

instance (d : Deeds) (id : Uuid) : Decidable (d.Fresh id) :=
  decidable_of_iff (d.inventory.merchants.get? ⟨id⟩ = none ∧ d.inventory.products.get? ⟨id⟩ = none ∧
    ∀ t ∈ d.payments.ledger, t.id ≠ ⟨id⟩)
    ⟨fun ⟨merchant, product, entry⟩ => ⟨merchant, product, entry⟩,
      fun h => ⟨h.merchant, h.product, h.entry⟩⟩

instance (t : Course) : Decidable t.Ready :=
  inferInstanceAs (Decidable (t.deeds.Fresh _))

instance (m : Market) : Decidable (Healthy m) :=
  inferInstanceAs (Decidable (_ ∧ _))

instance (before : List Saga.Message) (a : Saga.Message) : Decidable (First before a) :=
  inferInstanceAs (Decidable (∀ b ∈ before, ¬(_ ∧ _)))

/-- After an attempt on the message at a place in the line, if that is the first of its queue. -/
def attempt (place : Nat) (f : Feed) : Feed :=
  match f.pending[place]? with
  | none => f
  | some a =>
    if First (f.pending.take place) a ∧ Healthy f.course.market ∧ f.course.Ready then
      f.delivered (f.pending.take place) a (f.pending.drop (place + 1))
    else f

theorem attempt_run (place : Nat) (f : Feed) : ReflTransGen Step f (f.attempt place) := by
  unfold attempt
  split
  · exact .refl
  · rename_i a ha
    split
    · rename_i can
      obtain ⟨first, healthy, ready⟩ := can
      obtain ⟨inside, rfl⟩ := List.getElem?_eq_some_iff.1 ha
      refine .single (.deliver _ _ _ f ?_ first healthy ready)
      rw [List.getElem_cons_drop, List.take_append_drop]
    · exact .refl

/-- After attempts on the messages at some places, each in the line as it is then. -/
def attempts (places : List Nat) (f : Feed) : Feed :=
  places.foldl (fun f place => f.attempt place) f

theorem attempts_run (places : List Nat) (f : Feed) : ReflTransGen Step f (f.attempts places) := by
  induction places generalizing f with
  | nil => exact .refl
  | cons place places ih => exact (f.attempt_run place).trans (ih (f.attempt place))

def sampleStart : Feed :=
  start ⟨1000, 1000, .ofUnits 10, true⟩ (.new Bus.standardSettings) ⟨⟨0⟩, 0⟩

def sampleSeller : Claims := ⟨⟨1⟩, "ana@x", .seller⟩

/-- The seller registers and may control the account. -/
def sampleRegistered : Feed :=
  (sampleStart.called "r1" sampleSeller (.createAccount "ana" "ana@x" .seller)).attempts [3]

/-- The seller is gone before the inventory hears of the account. -/
def sampleDeleted : Feed :=
  (sampleRegistered.called "r2" sampleSeller (.deleteAccount sampleSeller.account)).attempts [7]

/-- All messages are delivered. -/
def sampleFeed : Feed := sampleDeleted.attempts (List.replicate 16 0)

def sampleGrant : Grant := ⟨sampleSeller.subject, Resource.merchants, Action.post, wildcard⟩

theorem sampleFeed_run : ReflTransGen Step sampleStart sampleFeed := by
  have registers : Step sampleStart
      (sampleStart.called "r1" sampleSeller (.createAccount "ana" "ana@x" .seller)) :=
    .call _ _ _ _ id (by decide +kernel) (by decide +kernel)
  have leaves : Step sampleRegistered
      (sampleRegistered.called "r2" sampleSeller (.deleteAccount sampleSeller.account)) :=
    .call _ _ _ _ id (by decide +kernel) (by decide +kernel)
  exact ((((ReflTransGen.single registers).trans (attempts_run [3] _)).tail leaves).trans
    (attempts_run [7] _)).trans (attempts_run _ _)

/-- **A grant outlives its account**, in a run without failures in which all queues are in order. -/
theorem grant_outlives_account :
    ReflTransGen Step sampleStart sampleFeed ∧ sampleFeed.pending = [] ∧
    .accountDeleted sampleSeller.account ∈ sampleFeed.course.published ∧
    sampleFeed.course.market.authorization.store.Holds sampleGrant :=
  ⟨sampleFeed_run, by decide +kernel, by decide +kernel, by decide +kernel⟩

/-- The grant was asked for after the news that the account is gone. -/
theorem grants_outlive_account_iff_of_sampleFeed : ∃ before after,
    sampleFeed.heard = before ++ .accountDeleted sampleSeller.account :: after ∧
    .upsertPolicy sampleGrant ∈ after := by
  have idle : sampleFeed.pending = [] := by decide +kernel
  have deleted : .accountDeleted sampleSeller.account ∈ sampleFeed.course.published := by
    decide +kernel
  have held : sampleFeed.course.market.authorization.store.Holds sampleGrant := by decide +kernel
  obtain ⟨before, after, split, _, stands⟩ :=
    grants_outlive_account_iff sampleFeed_run idle deleted
  exact ⟨before, after, split, (stands sampleGrant rfl).1 held⟩

end Feed

end Marketplace
