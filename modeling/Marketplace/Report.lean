import Marketplace.Config
import Marketplace.ServiceError

/-!
# Error reports

An error as a record: the kind of it, what it says, and what may be done about it.
-/

namespace Marketplace

/-- Errors that can be reported. -/
class Reported (ε : Type) where
  report : ε → Json

instance : Reported IdentifierError where
  report e := .record [("error", .text "ParseIdError"), ("message", .text e.message)]

namespace NameError

/-- The kind of an error. -/
def kind : NameError → String
  | role _ => "ParseRoleError"
  | service _ => "ParseServiceError"

instance : Reported NameError where
  report e := .record [("error", .text e.kind), ("message", .text e.message)]

end NameError

instance : Reported ConfigError where
  report e :=
    .record [("error", .text "ConfigError"), ("message", .text e.message), ("key", .text e.key),
      ("value", .text e.value)]

namespace PolicyError

/-- The kind of an error. -/
def kind : PolicyError → String
  | unsupportedType _ => "UnsupportedRtype"
  | notCached _ => "SubNotCached"
  | invalidGrant _ => "InvalidPolicy"
  | denied => "InsufficientPermission"
  | unavailable _ => "Upstream"
  | requestFailed _ => "Http"

def report (e : PolicyError) : Json :=
  .record [("error", .text e.kind), ("message", .text e.message), ("benign", .bool e.isBenign),
    ("transient", .bool e.isTransient)]

instance : Reported PolicyError := ⟨report⟩

end PolicyError

namespace BusError

/-- The kind of an error. -/
def kind : BusError → String
  | closed => "Closed"
  | transport _ => "Transport"

/-- Whatever fails on the bus may be tried again. -/
def report (e : BusError) : Json :=
  .record [("error", .text e.kind), ("message", .text e.message), ("retryable", .bool true)]

instance : Reported BusError := ⟨report⟩

end BusError

namespace EventError

/-- The kind of an error. -/
def kind : EventError → String
  | unregistered _ => "UnregisteredEvent"
  | invalidPayload _ => "InvalidPayload"
  | noConnection => "NoConnection"
  | noSubject _ => "SubjectNotConfigured"
  | malformed => "Malformed"
  | unexpected _ => "UnexpectedEvent"
  | bus e => "Bus." ++ e.kind

/-- The fields of a report; there is nothing to say about octets that are no event. -/
def reportFields (e : EventError) : List (String × Json) :=
  let said := if e = .malformed then [] else [("message", .text e.message)]
  ("error", .text e.kind) :: ("retryable", .bool e.isRetryable) :: said

def report (e : EventError) : Json := .record e.reportFields

instance : Reported EventError := ⟨report⟩

end EventError

namespace ServiceError

/-- The kind of an error. -/
def kind : ServiceError → String
  | policy e => "Policy." ++ e.kind
  | invalid _ => "Validation"
  | conflict _ => "Conflict"
  | notFound _ _ => "NotFound"
  | storeUnavailable _ => "StoreUnavailable"
  | event e => "Event." ++ e.kind

def report (e : ServiceError) : Json :=
  .record [("error", .text e.kind), ("message", .text e.message),
    ("retryable", .bool e.isRetryable), ("denied", .bool e.isDenied)]

instance : Reported ServiceError := ⟨report⟩

end ServiceError

end Marketplace
