import Marketplace.Event.Bus
import Marketplace.Metrics

/-!
# Sending events

Events are collected in a batch and sent in order, once the change that they announce is made. The
first event that cannot be sent ends the sending; the events before it are out, and the batch stays
as it is, so that sending it again starts with its first event.
-/

namespace Marketplace

/-- Where events are sent: a bus, and the counts of what was sent. -/
structure Outlet where
  bus : Bus
  tally : Tally

namespace Outlet

/-- An unused bus, and nothing counted. -/
def new (settings : BusSettings) : Outlet := ⟨.new settings, .empty⟩

instance : Inhabited Outlet := ⟨new Bus.standardSettings⟩

/-- Raises counters. -/
def count (counts : Counts) (o : Outlet) : Outlet := { o with tally := o.tally.addAll counts }

end Outlet

namespace Registry

/-- Sends an event to the address of its name. -/
def send (r : Registry) (connected : Bool) (e : Event) (o : Outlet) :
    Except EventError Unit × Outlet :=
  if !connected then (.error .noConnection, o)
  else
    match r.subject e.name with
    | .error err => (.error err, o)
    | .ok subject =>
      match o.bus.publish subject e.octets with
      | (.ok (), bus) => (.ok (), ⟨bus, o.tally.add (.eventPublished e.name) 1⟩)
      | (.error err, bus) => (.error (.bus err), ⟨bus, o.tally.add (.eventNotPublished e.name) 1⟩)

/-- Sends events in order up to the first that cannot be sent. -/
def sendAll (r : Registry) (connected : Bool) : List Event → Outlet →
    Except EventError Unit × Outlet
  | [], o => (.ok (), o)
  | e :: es, o =>
    match r.send connected e o with
    | (.ok (), o) => r.sendAll connected es o
    | (.error err, o) => (.error err, o)

end Registry

/-- Events of one sender on behalf of one request. -/
structure Batch where
  registry : Registry
  source : String
  correlation : String
  events : List Event

namespace Batch

/-- A batch without events. -/
def new (registry : Registry) (source correlation : String) : Batch :=
  ⟨registry, source, correlation, []⟩

/-- Adds an event at the end; an event that cannot be made leaves the batch as it is. -/
def add (stamp : Stamp) (name : String) (payload : Payload) (b : Batch) :
    Except EventError Unit × Batch :=
  match b.registry.create stamp b.source b.correlation name payload with
  | .ok e => (.ok (), { b with events := b.events ++ [e] })
  | .error err => (.error err, b)

def names (b : Batch) : List String := b.events.map Event.name

def size (b : Batch) : Nat := b.events.length

def isEmpty (b : Batch) : Bool := b.events.isEmpty

/-- Sends the events of the batch. -/
def publish (b : Batch) (connected : Bool) (o : Outlet) : Except EventError Unit × Outlet :=
  b.registry.sendAll connected b.events o

end Batch

end Marketplace
