import Marketplace.Event.Batch
import Marketplace.Event.Handler

/-!
# Consumers

A consumer subscribes to every name that its handler takes and hands each message to it. Either all
of the subscriptions come about or none. The messages of one subscription are handled one after the
other; among several subscriptions, the one whose message has waited longest is served first and
until its queue is empty.
-/

namespace Marketplace

/-- A state with an outlet in it. -/
class Connected (σ : Type) where
  outlet : σ → Outlet
  withOutlet : Outlet → σ → σ

namespace Connected

variable {σ : Type} [Connected σ]

def bus (s : σ) : Bus := (outlet s).bus

/-- Changes the bus. -/
def onBus (f : Bus → Bus) (s : σ) : σ :=
  withOutlet { outlet s with bus := f (outlet s).bus } s

/-- Raises a counter by one. -/
def count (c : Counter) (s : σ) : σ := withOutlet ((outlet s).count [(c, 1)]) s

end Connected

open Connected

/-- The subscriptions of a handler. -/
structure Consumer where
  subscriptions : List Nat

namespace Consumer

/-- Gives up subscriptions. -/
def dropAll (ids : List Nat) (b : Bus) : Bus := ids.foldl (fun b id => b.unsubscribe id) b

/-- Subscribes to names in order, after the subscriptions that are open already. When one fails, all
of them are given up. -/
def subscribeAll (r : Registry) (consumer : String) :
    List String → List Nat → Bus → Except EventError Consumer × Bus
  | [], opened, b => (.ok ⟨opened⟩, b)
  | name :: names, opened, b =>
    match r.subject name with
    | .error e => (.error e, dropAll opened b)
    | .ok subject =>
      match b.subscribe subject consumer with
      | (.ok id, b) => subscribeAll r consumer names (opened ++ [id]) b
      | (.error e, b) => (.error (.bus e), dropAll opened b)

/-- Subscribes to every name. -/
def start (r : Registry) (names : List String) (consumer : String) (b : Bus) :
    Except EventError Consumer × Bus :=
  subscribeAll r consumer names [] b

/-- Stops taking messages. -/
def stop (c : Consumer) (b : Bus) : Bus := dropAll c.subscriptions b

/-- The number of subscriptions. -/
def size (c : Consumer) : Nat := c.subscriptions.length

end Consumer

/-- The running handlers, by subscription. -/
abbrev Staff (σ ε : Type) := Nat → Option (Handler σ ε)

namespace Staff

variable {σ ε : Type} [Connected σ] [Retryable ε]

/-- Settles a message. -/
def settle (receipt : Nat) : Disposition → Bus → Bus
  | .ack, b => b.ack receipt
  | .drop, b => b.ack receipt
  | .retry, b => (b.nak receipt).2

/-- Takes the next message of a subscription, handles and settles it. -/
def serve (h : Handler σ ε) (id : Nat) (s : σ) : σ :=
  match (bus s).next id with
  | (.message receipt parcel, b) =>
    let d := h.dispatch parcel.octets (onBus (fun _ => b) s)
    onBus (settle receipt d.disposition) (count d.counter d.state)
  | _ => s

/-- The subscription to serve next: the one served last while messages wait for it, else that of
the oldest message that somebody handles. -/
def pick (staff : Staff σ ε) (last : Option Nat) (b : Bus) : Option (Nat × Handler σ ε) :=
  let served := b.waiting.filterMap fun p => (staff p.subscription).map fun h => (p.subscription, h)
  match served.find? fun p => last = some p.1 with
  | some p => some p
  | none => served.head?

/-- Handles messages until none is waiting, at most as many as the first number says. -/
def work (staff : Staff σ ε) : Nat → Option Nat → σ → σ
  | 0, _, s => s
  | budget + 1, last, s =>
    match pick staff last (bus s) with
    | none => s
    | some (id, h) => work staff budget (some id) (serve h id s)

/-- Lets time pass up to a moment and handles the messages that are redelivered meanwhile, each at
its own time. The first number bounds the redeliveries, `budget` the messages after each. -/
def elapse (staff : Staff σ ε) (budget : Nat) (moment : Nat) : Nat → σ → σ
  | 0, s => onBus (Bus.passTo moment) s
  | count + 1, s =>
    match (bus s).nextDue? with
    | none => onBus (Bus.passTo moment) s
    | some due =>
      if due ≤ moment then
        elapse staff budget moment count (work staff budget none (onBus (Bus.passTo due) s))
      else onBus (Bus.passTo moment) s

/-- How many messages are handled at most in one go. -/
def patience : Nat := 100000

/-- Handles everything that waits, and what is redelivered while time passes. -/
def run (staff : Staff σ ε) (duration : Nat) (s : σ) : σ :=
  let s := work staff patience none s
  elapse staff patience ((bus s).now + duration) patience s

end Staff

end Marketplace
