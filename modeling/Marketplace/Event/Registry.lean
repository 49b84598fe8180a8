import Marketplace.Event.Envelope
import Marketplace.Table
import Marketplace.Time.Supply

/-!
# The registry of events

An event can be made and sent only under a registered name. A registration says where events of
the name are addressed, if anywhere, and which payloads they may carry. Registering a name again
replaces its registration.
-/

namespace Marketplace

/-- What is known about the events of one name. -/
structure Registration where
  /-- Where they are addressed; an event without a subject cannot be sent. -/
  subject : Option String
  /-- Which payloads they may carry. -/
  accepts : Payload → Bool

/-- Registrations by name. -/
structure Registry where
  entries : Table String Registration

namespace Registry

/-- No names. -/
def empty : Registry := ⟨.empty⟩

instance : Inhabited Registry := ⟨empty⟩

def register (r : Registry) (name : String) (entry : Registration) : Registry :=
  ⟨r.entries.put name entry⟩

/-- The registration of a kind of event: its own subject, and its own payload only. -/
def ofTopic (t : Topic) : Registration := ⟨some t.subject, fun p => p.topic = t⟩

/-- The nine kinds of event. -/
def standard : Registry := Topic.all.foldl (fun r t => r.register t.name (ofTopic t)) empty

def isRegistered (r : Registry) (name : String) : Bool := r.entries.contains name

/-- The registration of a name. -/
def entry (r : Registry) (name : String) : Except EventError Registration :=
  match r.entries.get? name with
  | some e => .ok e
  | none => .error (.unregistered name)

/-- Where events of a name are addressed. -/
def subject (r : Registry) (name : String) : Except EventError String :=
  match r.entry name with
  | .error e => .error e
  | .ok e =>
    match e.subject with
    | some s => .ok s
    | none => .error (.noSubject name)

/-- The address of one consumer's copies of a message. -/
def address (subject consumer : String) : String := subject ++ "." ++ consumer

/-- Where one consumer receives events of a name. -/
def consumerSubject (r : Registry) (name consumer : String) : Except EventError String :=
  match r.subject name with
  | .ok s => .ok (address s consumer)
  | .error e => .error e

/-- Makes an event. -/
def create (r : Registry) (stamp : Stamp) (source correlation name : String) (payload : Payload) :
    Except EventError Event :=
  match r.entry name with
  | .error e => .error e
  | .ok e =>
    if e.accepts payload then
      .ok ⟨⟨envelopeVersion, source, stamp.time.timestamp, name, stamp.id, correlation⟩, payload⟩
    else .error (.invalidPayload name)

end Registry

end Marketplace
