import Marketplace.Market.Basic

/-!
# A market with one line of messages

Every event that is published becomes one letter for each service that takes it, and all letters
wait in one line until they are delivered by hand. A letter that is to be tried again goes to the
end of the line, three times at most; the letters that a delivery gives rise to come after it.
-/

namespace Marketplace

/-- An event on its way to one service. -/
structure Letter where
  octets : ByteArray
  topic : Topic
  receiver : Service
  attempt : Nat

/-- A market, and the letters that wait. -/
structure Relay where
  market : Market
  line : List Letter

/-- What was published: a subject and the octets of an event. -/
abbrev Published := String × ByteArray

namespace Published

/-- The event that was published, if it is one. -/
def event? (p : Published) : Option Sealed := (Sealed.ofOctets p.2).toOption

/-- Where the event went, who sent it on whose request, and what it says. -/
def toJson (p : Published) : Json :=
  let fields : List (String × Json) := match p.event? with
    | some e =>
      [("source", .text e.header.source), ("cid", .text e.header.correlation),
        ("payload", e.payload)]
    | none => []
  .record (("subject", .text p.1) :: fields)

instance : ToJson Published := ⟨toJson⟩

end Published

/-- What became of a letter. -/
structure Delivered where
  letter : Letter
  disposition : Disposition
  published : List Published

def Delivered.toJson (d : Delivered) : Json :=
  .record [("event", .text d.letter.topic.name), ("to", .text d.letter.receiver.name),
    ("attempt", .ofNat d.letter.attempt), ("disposition", .text d.disposition.name),
    ("published", .list (d.published.map Published.toJson))]

instance : ToJson Delivered := ⟨Delivered.toJson⟩

namespace Relay

/-- A letter is delivered at most this often. -/
def maxAttempts : Nat := 3

/-- The services that take a kind of event. -/
def takers (m : Market) (t : Topic) : List Service :=
  Service.all.filter fun v => (Market.handler m.settings v).names.contains t.name

/-- The kind of event that a subject stands for. -/
def topicOf? (subject : String) : Option Topic := Topic.all.find? fun t => t.subject = subject

/-- The letters for a published event. -/
def letters (m : Market) (p : Published) : List Letter :=
  match topicOf? p.1 with
  | none => []
  | some t => (takers m t).map fun v => ⟨p.2, t, v, 1⟩

/-- What has been published since the log had some length. -/
def publishedSince (length : Nat) (m : Market) : List Published := m.outlet.bus.log.drop length

/-- Lets something happen at the market, and puts what it publishes at the end of the line. -/
def act {α : Type} (work : Market → α × Market) (r : Relay) : α × List Published × Relay :=
  match work r.market with
  | (answer, m) =>
    let published := publishedSince r.market.outlet.bus.log.length m
    (answer, published, ⟨m, r.line ++ published.flatMap (letters m)⟩)

/-- The letter to put back in line after a delivery. -/
def again (l : Letter) : Disposition → List Letter
  | .retry => if l.attempt < maxAttempts then [{ l with attempt := l.attempt + 1 }] else []
  | _ => []

/-- Delivers the letter at a place in the line. -/
def deliver (place : Nat) (r : Relay) : Option Delivered × Relay :=
  match r.line[place]? with
  | none => (none, r)
  | some l =>
    match r.market.dispatch l.receiver l.octets with
    | (disposition, m) =>
      let published := publishedSince r.market.outlet.bus.log.length m
      let line := r.line.eraseIdx place ++ again l disposition ++ published.flatMap (letters m)
      (some ⟨l, disposition, published⟩, ⟨m, line⟩)

/-- Delivers letters from the head of the line, as many as asked for or until none waits. -/
def pump : Nat → Relay → List Delivered × Relay
  | 0, r => ([], r)
  | count + 1, r =>
    match r.deliver 0 with
    | (none, r) => ([], r)
    | (some d, r) =>
      match pump count r with
      | (ds, r) => (d :: ds, r)

/-- Puts new letters for the last event of a name in line; the answer tells whether there is one. -/
def redeliver (name : String) (r : Relay) : Bool × Relay :=
  let found := r.market.outlet.bus.log.reverse.find? fun p =>
    (topicOf? p.1).any fun t => t.name = name
  match found with
  | none => (false, r)
  | some p => (true, { r with line := r.line ++ letters r.market p })

end Relay

end Marketplace
