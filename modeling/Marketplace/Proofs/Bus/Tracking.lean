import Marketplace.Event.Bus

/-!
# Copies tracked on their way

The parcels on a bus have no identity: two copies of one message look alike. A *tracked* bus is a
bus with a label on each parcel, the number of its message in the log and its subscription, and
with the history of every copy. The bus itself goes its own way; the labels only follow it.

A `Journey` is a history as it should be: attempts are numbered from one, an attempt is handed out
after it was queued, and the next one queues after the refusal of this one and the delay, unless
this one was the last.
-/

namespace Marketplace

namespace Bus

/-- What can be done with a bus. -/
inductive Call where
  | subscribe (subject consumer : String)
  | publish (subject : String) (octets : ByteArray)
  /-- A receiver asks for the next message of its subscription. -/
  | next (id : Nat)
  | ack (receipt : Nat)
  | nak (receipt : Nat)
  | unsubscribe (id : Nat)
  | pass (duration : Nat)
  /-- A call to publish is chosen to fail. -/
  | failOn (attempt : Nat)
  | close

/-- The bus after a call. -/
def after (b : Bus) : Call → Bus
  | .subscribe subject consumer => (b.subscribe subject consumer).2
  | .publish subject octets => (b.publish subject octets).2
  | .next id => (b.next id).2
  | .ack receipt => b.ack receipt
  | .nak receipt => (b.nak receipt).2
  | .unsubscribe id => b.unsubscribe id
  | .pass duration => b.pass duration
  | .failOn attempt => { b with failOn := some attempt }
  | .close => b.close

end Bus

/-- A copy of a message: the number of the message among those published, and the subscription that
the copy is for. -/
structure Copy where
  message : Nat
  subscription : Nat
  deriving DecidableEq

/-- What happens to a copy. -/
inductive Stage where
  /-- It was put into the queue of its subscription, for an attempt and at a time. -/
  | queued (attempt time : Nat)
  /-- It was handed out against a receipt. -/
  | handed (attempt receipt time : Nat)
  /-- It was refused and is to come back. -/
  | refused (attempt time : Nat)
  | acked
  /-- It was refused after the last attempt. -/
  | exhausted
  /-- It was refused when nobody sent to its subscription any more. -/
  | lost
  /-- Its receiver was gone. -/
  | discarded
  deriving DecidableEq

namespace Stage

/-- More is to happen. -/
def isMoving : Stage → Bool
  | queued .. => true
  | handed .. => true
  | refused .. => true
  | _ => false

def time : Stage → Nat
  | queued _ t => t
  | handed _ _ t => t
  | refused _ t => t
  | _ => 0

/-- The attempt with which a copy was handed out. -/
def delivery? : Stage → Option Nat
  | handed k _ _ => some k
  | _ => none

/-- The number of deliveries so far, as the latest stage has it. -/
def Agrees (n : Nat) : Stage → Prop
  | queued k _ => k = n + 1
  | handed k _ _ => k = n
  | refused k _ => k = n
  | _ => True

end Stage

/-- No further attempt is made after this one. -/
def BusSettings.isLast (settings : BusSettings) (attempt : Nat) : Bool :=
  settings.limit.any fun limit => decide (limit ≤ attempt)

theorem BusSettings.isLast_eq_false {settings : BusSettings} {attempt : Nat}
    (h : settings.isLast attempt = false) : ∀ limit ∈ settings.limit, attempt < limit := by
  intro limit hl
  unfold isLast at h
  rw [Option.mem_def.1 hl] at h
  simpa using h

/-! ## Journeys -/

/-- The histories that the copies on a bus may have, the latest stage first. -/
inductive Journey (settings : BusSettings) : List Stage → Prop
  | sent (t : Nat) : Journey settings [.queued 1 t]
  | handed {k t : Nat} {h : List Stage} (r u : Nat) (past : Journey settings (.queued k t :: h))
      (order : t ≤ u) : Journey settings (.handed k r u :: .queued k t :: h)
  | acked {k r t : Nat} {h : List Stage} (past : Journey settings (.handed k r t :: h)) :
      Journey settings (.acked :: .handed k r t :: h)
  | refused {k r t : Nat} {h : List Stage} (u : Nat) (past : Journey settings (.handed k r t :: h))
      (order : t ≤ u) (more : settings.isLast k = false) :
      Journey settings (.refused k u :: .handed k r t :: h)
  | exhausted {k r t : Nat} {h : List Stage} (past : Journey settings (.handed k r t :: h))
      (last : settings.isLast k = true) : Journey settings (.exhausted :: .handed k r t :: h)
  | lost {k r t : Nat} {h : List Stage} (past : Journey settings (.handed k r t :: h))
      (more : settings.isLast k = false) : Journey settings (.lost :: .handed k r t :: h)
  /-- A refused copy queues again when the delay is over. -/
  | returned {k t : Nat} {h : List Stage} (past : Journey settings (.refused k t :: h)) :
      Journey settings (.queued (k + 1) (t + settings.delay) :: .refused k t :: h)
  | dropped {k t : Nat} {h : List Stage} (past : Journey settings (.queued k t :: h)) :
      Journey settings (.discarded :: .queued k t :: h)
  | forgotten {k t : Nat} {h : List Stage} (past : Journey settings (.refused k t :: h)) :
      Journey settings (.discarded :: .refused k t :: h)

namespace Journey

variable {settings : BusSettings} {s : Stage} {h : List Stage}

/-- The attempts that were handed out are numbered from one, without a gap or a repetition. -/
theorem deliveries_eq (j : Journey settings h) : ∃ n, h.filterMap Stage.delivery? =
    (List.range' 1 n).reverse ∧ ∀ s ∈ h.head?, s.Agrees n := by
  induction j with
  | sent t => exact ⟨0, rfl, by simp [Stage.Agrees]⟩
  | @handed k t h r u past order ih =>
    obtain ⟨n, attempts, now⟩ := ih
    have hk : k = n + 1 := now _ rfl
    refine ⟨n + 1, ?_, by simpa [Stage.Agrees] using hk⟩
    have next : Stage.delivery? (.handed k r u) = some k := rfl
    rw [List.filterMap_cons_some next, attempts, List.range'_concat, List.reverse_append, hk]
    simp [Nat.add_comm]
  | refused u past order more ih =>
    obtain ⟨n, attempts, now⟩ := ih
    exact ⟨n, attempts, by simpa [Stage.Agrees] using now⟩
  | returned past ih =>
    obtain ⟨n, attempts, now⟩ := ih
    exact ⟨n, attempts, by simpa [Stage.Agrees] using now⟩
  | acked past ih | exhausted past last ih | lost past more ih | dropped past ih
  | forgotten past ih =>
    obtain ⟨n, attempts, -⟩ := ih
    exact ⟨n, attempts, by simp [Stage.Agrees]⟩

theorem one_le_of_refused {k t : Nat} (j : Journey settings (.refused k t :: h)) : 1 ≤ k := by
  cases j with
  | refused u past order more =>
    cases past with
    | handed r u past order =>
      cases past with
      | sent t => exact Nat.le_refl 1
      | returned past => exact Nat.le_add_left 1 _

/-- Only the latest stage can be an end. -/
theorem isMoving_of_mem_tail (j : Journey settings h) : ∀ s ∈ h.tail, s.isMoving = true := by
  induction j with
  | sent t => exact fun _ hs => nomatch hs
  | handed r u past order ih | acked past ih | refused u past order more ih
  | exhausted past last ih | lost past more ih | returned past ih | dropped past ih
  | forgotten past ih => exact List.forall_mem_cons.2 ⟨rfl, ih⟩

/-- **A later attempt comes after an earlier one that was refused**, was not the last, and whose
delay has passed since. -/
theorem again (j : Journey settings h) {k r t : Nat} (later : .handed (k + 1) r t ∈ h)
    (hk : 0 < k) : ∃ r' t' u, .handed k r' t' ∈ h ∧ .refused k u ∈ h ∧ t' ≤ u ∧
      u + settings.delay ≤ t ∧ ∀ limit ∈ settings.limit, k < limit := by
  induction j with
  | sent t => simp at later
  | handed r u past order ih =>
    rcases List.mem_cons.1 later with he | later
    · cases he
      cases past with
      | sent t => omega
      | @returned _ u _ past =>
        cases past with
        | @refused _ r' t' h' _ past before more =>
          exact ⟨r', t', u, .tail _ (.tail _ (.tail _ (.head h'))), .tail _ (.tail _ (.head _)),
            before, order, settings.isLast_eq_false more⟩
    · obtain ⟨r', t', u, delivered, refused, rest⟩ := ih later
      exact ⟨r', t', u, List.mem_cons_of_mem _ delivered, List.mem_cons_of_mem _ refused, rest⟩
  | acked past ih | refused u past order more ih | exhausted past last ih | lost past more ih
  | returned past ih | dropped past ih | forgotten past ih =>
    have later := (List.mem_cons.1 later).resolve_left (fun he => nomatch he)
    obtain ⟨r', t', u, delivered, refused, rest⟩ := ih later
    exact ⟨r', t', u, List.mem_cons_of_mem _ delivered, List.mem_cons_of_mem _ refused, rest⟩

/-- A copy that was never handed out still waits for it, or its receiver is gone. -/
theorem first_cases (j : Journey settings h) :
    (∃ r t, Stage.handed 1 r t ∈ h) ∨ ∃ t, h = [.queued 1 t] ∨ h = [.discarded, .queued 1 t] := by
  have keep {h : List Stage} (s : Stage) : (∃ r t, Stage.handed 1 r t ∈ h) →
      ∃ r t, Stage.handed 1 r t ∈ s :: h
    | ⟨r, t, hm⟩ => ⟨r, t, List.mem_cons_of_mem s hm⟩
  induction j with
  | sent t => exact .inr ⟨t, .inl rfl⟩
  | handed r u past order ih =>
    rcases ih with ih | ⟨t, ih | ih⟩
    · exact .inl (keep _ ih)
    · cases ih
      exact .inl ⟨r, u, List.mem_cons_self⟩
    · cases ih
  | dropped past ih =>
    rcases ih with ih | ⟨t, ih | ih⟩
    · exact .inl (keep _ ih)
    · cases ih
      exact .inr ⟨_, .inr rfl⟩
    · cases ih
  | acked past ih | refused u past order more ih | exhausted past last ih | lost past more ih
  | returned past ih | forgotten past ih =>
    rcases ih with ih | ⟨t, ih | ih⟩
    · exact .inl (keep _ ih)
    · cases ih
    · cases ih

/-- What came before the latest stage is a journey, too. -/
theorem tail (j : Journey settings (s :: h)) (sent : h ≠ []) : Journey settings h := by
  cases j with
  | sent t => exact (sent rfl).elim
  | handed r u past order | acked past | refused u past order more | exhausted past last
  | lost past more | returned past | dropped past | forgotten past => exact past

/-- A copy in the hands of its receiver does not queue. -/
theorem eq_nil_of_queued {news : List Stage} {k r t : Nat}
    (j : Journey settings (news ++ .handed k r t :: h)) (queued : ∀ s ∈ news, ∃ k u, s = .queued k u) :
    news = [] := by
  induction news with
  | nil => rfl
  | cons s news ih =>
    obtain ⟨k', u, rfl⟩ := queued s List.mem_cons_self
    obtain rfl := ih (j.tail (by simp)) fun s hs => queued s (List.mem_cons_of_mem _ hs)
    cases j

/-- An attempt is handed out once. -/
theorem not_mem_of_handed {k r t r' t' : Nat} (j : Journey settings (.handed k r t :: h)) :
    Stage.handed k r' t' ∉ h := by
  intro again
  obtain ⟨n, attempts, -⟩ := j.deliveries_eq
  have nodup : ((Stage.handed k r t :: h).filterMap Stage.delivery?).Nodup := by
    rw [attempts, List.Nodup, List.pairwise_reverse]
    exact List.Pairwise.imp Ne.symm List.nodup_range'
  rw [List.filterMap_cons_some (show Stage.delivery? (.handed k r t) = some k from rfl),
    List.nodup_cons] at nodup
  exact nodup.1 (List.mem_filterMap.2 ⟨_, again, rfl⟩)

end Journey

/-! ## The tracked bus -/

/-- A bus with the copy that every parcel on it is, and the history of every copy. -/
structure Tracked where
  bus : Bus
  queued : List (Parcel × Copy)
  held : List (Held × Copy)
  delayed : List (Delayed × Copy)
  /-- The latest stage first. -/
  history : Copy → List Stage

/-- Enters a stage into the histories of some copies. -/
def note (cs : List Copy) (s : Stage) (history : Copy → List Stage) : Copy → List Stage :=
  fun c => if c ∈ cs then s :: history c else history c

section Note

variable {cs : List Copy} {s u : Stage} {history : Copy → List Stage} {c : Copy}

theorem note_of_mem (h : c ∈ cs) : note cs s history c = s :: history c := if_pos h

theorem note_of_not_mem (h : c ∉ cs) : note cs s history c = history c := if_neg h

theorem note_one_self : note [c] s history c = s :: history c :=
  note_of_mem (List.mem_singleton_self c)

theorem note_one_of_ne {d : Copy} (h : d ≠ c) : note [c] s history d = history d :=
  note_of_not_mem fun hd => h (List.mem_singleton.1 hd)

theorem mem_note : u ∈ note cs s history c ↔ (c ∈ cs ∧ u = s) ∨ u ∈ history c := by
  unfold note
  split <;> simp [*]

theorem note_ne_nil : note cs s history c ≠ [] ↔ history c ≠ [] ∨ c ∈ cs := by
  unfold note
  split <;> simp [*]

end Note

namespace Tracked

/-- A bus on which nothing has happened. -/
def new (settings : BusSettings) : Tracked := ⟨.new settings, [], [], [], fun _ => []⟩

def publish (subject : String) (octets : ByteArray) (t : Tracked) : Tracked :=
  match t.bus.publish subject octets with
  | (.ok (), b) =>
    let sent := (t.bus.copies subject octets).map fun p =>
      (p, (⟨t.bus.log.length, p.subscription⟩ : Copy))
    { t with
      bus := b
      queued := t.queued ++ sent
      history := note (sent.map Prod.snd) (.queued 1 t.bus.now) t.history }
  | (.error _, b) => { t with bus := b }

def next (id : Nat) (t : Tracked) : Tracked :=
  let b := (t.bus.next id).2
  match t.queued.find? fun x => x.1.subscription == id with
  | some (p, c) =>
    { t with
      bus := b
      queued := t.queued.eraseP fun x => x.1.subscription == id
      held := t.held ++ [(⟨t.bus.receipts, p⟩, c)]
      history := note [c] (.handed p.attempt t.bus.receipts t.bus.now) t.history }
  | none => { t with bus := b }

def ack (receipt : Nat) (t : Tracked) : Tracked :=
  let b := t.bus.ack receipt
  match t.held.find? fun x => x.1.receipt == receipt with
  | some (_, c) =>
    { t with
      bus := b
      held := t.held.eraseP fun x => x.1.receipt == receipt
      history := note [c] .acked t.history }
  | none => { t with bus := b }

def nak (receipt : Nat) (t : Tracked) : Tracked :=
  let b := (t.bus.nak receipt).2
  match t.held.find? fun x => x.1.receipt == receipt with
  | some (⟨_, p⟩, c) =>
    let released := { t with bus := b, held := t.held.eraseP fun x => x.1.receipt == receipt }
    if t.bus.settings.isLast p.attempt then
      { released with history := note [c] .exhausted t.history }
    else if t.bus.hasSender p.subscription then
      { released with
        delayed := t.delayed ++
          [(⟨t.bus.now + t.bus.settings.delay, { p with attempt := p.attempt + 1 }⟩, c)]
        history := note [c] (.refused p.attempt t.bus.now) t.history }
    else { released with history := note [c] .lost t.history }
  | none => { t with bus := b }

def unsubscribe (id : Nat) (t : Tracked) : Tracked :=
  let gone := t.queued.filter fun x => x.1.subscription == id
  { t with
    bus := t.bus.unsubscribe id
    queued := t.queued.filter fun x => x.1.subscription != id
    history := note (gone.map Prod.snd) .discarded t.history }

/-- Lets the first delayed copy queue again. -/
def requeue (d : Delayed) (c : Copy) (rest : List (Delayed × Copy)) (t : Tracked) : Tracked :=
  let b := t.bus.requeue d (rest.map Prod.fst)
  if (t.bus.subscriber? d.parcel.subscription).any Subscriber.isOpen then
    { t with
      bus := b
      queued := t.queued ++ [(d.parcel, c)]
      delayed := rest
      history := note [c] (.queued d.parcel.attempt d.due) t.history }
  else { t with bus := b, delayed := rest, history := note [c] .discarded t.history }

def requeueUntil (time : Nat) : Nat → Tracked → Tracked
  | 0, t => t
  | count + 1, t =>
    match t.delayed with
    | (d, c) :: rest =>
      if d.due ≤ time then requeueUntil time count (t.requeue d c rest) else t
    | [] => t

def pass (duration : Nat) (t : Tracked) : Tracked :=
  let time := t.bus.now + duration
  { t with bus := { t.bus with now := time } }.requeueUntil time t.delayed.length

/-- The tracked bus after a call. -/
def after (t : Tracked) : Bus.Call → Tracked
  | .publish subject octets => t.publish subject octets
  | .next id => t.next id
  | .ack receipt => t.ack receipt
  | .nak receipt => t.nak receipt
  | .unsubscribe id => t.unsubscribe id
  | .pass duration => t.pass duration
  | call => { t with bus := t.bus.after call }

end Tracked

end Marketplace
