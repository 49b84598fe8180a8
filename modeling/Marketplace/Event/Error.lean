/-!
# What can go wrong with an event
-/

namespace Marketplace

/-- Failures of the bus. -/
inductive BusError where
  /-- The bus is closed and takes no more traffic. -/
  | closed
  /-- A message could not be carried. -/
  | transport (reason : String)
  deriving DecidableEq

def BusError.message : BusError → String
  | .closed => "bus connection is closed"
  | .transport reason => "transport error: " ++ reason

/-- Failures of making, sending and reading events. -/
inductive EventError where
  /-- Nothing is registered under this name. -/
  | unregistered (name : String)
  /-- The payload may not be sent under this name. -/
  | invalidPayload (name : String)
  /-- There is no bus to send on. -/
  | noConnection
  /-- The event of this name has no address. -/
  | noSubject (name : String)
  /-- The octets are no event. -/
  | malformed
  /-- The receiver does not handle events of this name. -/
  | unexpected (name : String)
  | bus (error : BusError)
  deriving DecidableEq

namespace EventError

def message : EventError → String
  | unregistered name => "unregistered event: " ++ name
  | invalidPayload name => "invalid payload for event: " ++ name
  | noConnection => "no bus connection"
  | noSubject name => "subject not configured for event: " ++ name
  | malformed => "malformed event"
  | unexpected name => "unexpected event for this consumer: " ++ name
  | bus e => e.message

/-- A failure that may be over when the message is delivered again: one of the transport. -/
def isRetryable : EventError → Bool
  | noConnection => true
  | bus _ => true
  | _ => false

end EventError

end Marketplace
