import Marketplace.Event.Registry

/-!
# The bus

Whoever subscribes to a subject gets a copy of every message that is published on it from then on.
A copy waits in the queue of its subscription, is handed out against a receipt, and is settled: an
acknowledgement ends it, a refusal lets it wait for a delay and then queue again with the next
attempt number, up to a limit. Every copy is in one place at a time: waiting, handed out or delayed.

A subscription is *listed* as long as the bus sends to it, and *open* as long as its receiver is
there. The bus finds out that a receiver is gone when it next sends to it. A closed bus lists
nobody and takes no traffic, but what is waiting can still be received. Times are milliseconds.
-/

namespace Marketplace

/-- How a bus treats refused messages. -/
structure BusSettings where
  /-- How long a refused message waits before it queues again. -/
  delay : Nat
  /-- The attempt after which a refused message is given up, if any. -/
  limit : Option Nat

/-- One subscription. -/
structure Subscriber where
  id : Nat
  subject : String
  consumer : String
  /-- The bus still sends to it. -/
  listed : Bool
  /-- Its receiver still takes messages. -/
  isOpen : Bool
  deriving DecidableEq

namespace Subscriber

/-- Where its copies are addressed. -/
def address (s : Subscriber) : String := Registry.address s.subject s.consumer

/-- It gets what is published. -/
def isLive (s : Subscriber) : Bool := s.listed && s.isOpen

end Subscriber

/-- One copy of a message, on its way to one subscription. -/
structure Parcel where
  subscription : Nat
  address : String
  octets : ByteArray
  /-- One for the first delivery. -/
  attempt : Nat

/-- A refused copy and the time at which it queues again. -/
structure Delayed where
  due : Nat
  parcel : Parcel

/-- A copy that was handed out and not settled. -/
structure Held where
  receipt : Nat
  parcel : Parcel

/-- The state of a bus. -/
structure Bus where
  settings : BusSettings
  now : Nat
  /-- In the order of subscription. -/
  subscribers : List Subscriber
  /-- In the order of arrival, those of all subscriptions in one list. -/
  waiting : List Parcel
  delayed : List Delayed
  held : List Held
  /-- The number of the next receipt. -/
  receipts : Nat
  /-- Everything published, with its subject. -/
  log : List (String × ByteArray)
  /-- The number of calls to publish while the bus was not closed. -/
  attempts : Nat
  /-- The call to publish that is made to fail. -/
  failOn : Option Nat
  isClosed : Bool
  acked : Nat
  naked : Nat

namespace Bus

/-- A bus on which nothing has happened. -/
def new (settings : BusSettings) : Bus where
  settings := settings
  now := 0
  subscribers := []
  waiting := []
  delayed := []
  held := []
  receipts := 0
  log := []
  attempts := 0
  failOn := none
  isClosed := false
  acked := 0
  naked := 0

/-- Redelivery after ten milliseconds, without a limit. -/
def standardSettings : BusSettings := ⟨10, none⟩

instance : Inhabited Bus := ⟨new standardSettings⟩

/-- The subscription of a number. -/
def subscriber? (b : Bus) (id : Nat) : Option Subscriber := b.subscribers.find? fun s => s.id == id

/-- The consumers that get what is published on a subject. -/
def consumers (b : Bus) (subject : String) : List String :=
  (b.subscribers.filter fun s => s.isLive && s.subject == subject).map Subscriber.consumer

/-! ## Publishing -/

/-- The copies of a message, one for each live subscription to its subject. -/
def copies (b : Bus) (subject : String) (octets : ByteArray) : List Parcel :=
  (b.subscribers.filter fun s => s.isLive && s.subject == subject).map fun s =>
    ⟨s.id, s.address, octets, 1⟩

/-- Takes a subscription off the list when a message on its subject finds its receiver gone. -/
def unlistGone (subject : String) (s : Subscriber) : Subscriber :=
  if s.subject = subject ∧ s.isOpen = false then { s with listed := false } else s

/-- Sends a message to everyone who subscribed to its subject. -/
def publish (subject : String) (octets : ByteArray) (b : Bus) : Except BusError Unit × Bus :=
  if b.isClosed then (.error .closed, b)
  else
    let b := { b with attempts := b.attempts + 1 }
    if b.failOn = some b.attempts then
      (.error (.transport ("injected failure publishing to " ++ subject)), b)
    else
      (.ok (), { b with
        log := b.log ++ [(subject, octets)]
        waiting := b.waiting ++ b.copies subject octets
        subscribers := b.subscribers.map (unlistGone subject) })

/-! ## Subscribing -/

/-- Opens a subscription and answers its number. -/
def subscribe (subject consumer : String) (b : Bus) : Except BusError Nat × Bus :=
  if b.isClosed then (.error .closed, b)
  else
    let id := b.subscribers.length
    (.ok id, { b with subscribers := b.subscribers ++ [⟨id, subject, consumer, true, true⟩] })

/-- Drops the receiver of a subscription, and with it what waits there. -/
def unsubscribe (id : Nat) (b : Bus) : Bus :=
  { b with
    subscribers := b.subscribers.map fun s => if s.id = id then { s with isOpen := false } else s
    waiting := b.waiting.filter fun p => p.subscription != id }

/-- Whether something can still arrive in the queue of a subscription. -/
def hasSender (b : Bus) (id : Nat) : Bool :=
  (b.subscribers.any fun s => s.id == id && s.listed) ||
    b.delayed.any fun d => d.parcel.subscription == id

/-- What asking for the next message finds. -/
inductive Next where
  | message (receipt : Nat) (parcel : Parcel)
  | pending
  /-- Nothing waits and nothing will arrive. -/
  | ended

/-- Hands out the oldest message that waits for a subscription. -/
def next (id : Nat) (b : Bus) : Next × Bus :=
  match b.waiting.find? fun p => p.subscription == id with
  | some p =>
    let b' := { b with
      waiting := b.waiting.eraseP fun p => p.subscription == id
      held := b.held ++ [⟨b.receipts, p⟩]
      receipts := b.receipts + 1 }
    (.message b.receipts p, b')
  | none => (if b.hasSender id then .pending else .ended, b)

/-! ## Settling -/

/-- The copy that was handed out against a receipt. -/
def held? (b : Bus) (receipt : Nat) : Option Parcel :=
  (b.held.find? fun h => h.receipt == receipt).map Held.parcel

/-- Takes a copy out of the hands of its receiver. -/
def release (receipt : Nat) (b : Bus) : Bus :=
  { b with held := b.held.eraseP fun h => h.receipt == receipt }

/-- Settles a copy for good. -/
def ack (receipt : Nat) (b : Bus) : Bus :=
  match b.held? receipt with
  | some _ => { b.release receipt with acked := b.acked + 1 }
  | none => b

/-- Refuses a copy. It comes back after the delay, unless it was the last attempt or nobody sends to
its subscription any more. -/
def nak (receipt : Nat) (b : Bus) : Except BusError Unit × Bus :=
  match b.held? receipt with
  | none => (.ok (), b)
  | some p =>
    let b := { b.release receipt with naked := b.naked + 1 }
    if b.settings.limit.any fun limit => decide (limit ≤ p.attempt) then (.ok (), b)
    else if b.hasSender p.subscription then
      let again : Delayed := ⟨b.now + b.settings.delay, { p with attempt := p.attempt + 1 }⟩
      (.ok (), { b with delayed := b.delayed ++ [again] })
    else (.error .closed, b)

/-! ## Time -/

/-- The delayed copy that is due first, and the others; of several, the one that was refused
first. -/
def takeEarliest : List Delayed → Option (Delayed × List Delayed)
  | [] => none
  | d :: ds =>
    match takeEarliest ds with
    | some (e, rest) => if e.due < d.due then some (e, d :: rest) else some (d, ds)
    | none => some (d, [])

/-- When the next delayed copy is due. -/
def nextDue? (b : Bus) : Option Nat := (takeEarliest b.delayed).map fun d => d.1.due

/-- Lets a delayed copy queue again; it is lost if its receiver is gone. -/
def requeue (d : Delayed) (rest : List Delayed) (b : Bus) : Bus :=
  let taken := (b.subscriber? d.parcel.subscription).any Subscriber.isOpen
  { b with
    delayed := rest
    waiting := if taken then b.waiting ++ [d.parcel] else b.waiting }

/-- Lets the copies that are due by a time queue again, those due earlier first. -/
def requeueUntil (time : Nat) : Nat → Bus → Bus
  | 0, b => b
  | count + 1, b =>
    match takeEarliest b.delayed with
    | some (d, rest) => if d.due ≤ time then requeueUntil time count (b.requeue d rest) else b
    | none => b

/-- Lets time pass up to a moment. -/
def passTo (time : Nat) (b : Bus) : Bus :=
  { b.requeueUntil time b.delayed.length with now := time }

/-- Lets time pass. -/
def pass (duration : Nat) (b : Bus) : Bus := b.passTo (b.now + duration)

/-! ## Closing -/

/-- Closes the bus: it sends to nobody from now on. -/
def close (b : Bus) : Bus :=
  { b with
    isClosed := true
    subscribers := b.subscribers.map fun s => { s with listed := false } }

end Bus

end Marketplace
