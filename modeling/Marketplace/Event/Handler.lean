import Marketplace.Event.Envelope
import Marketplace.Metrics
import Marketplace.ServiceError

/-!
# Handling a message

A handler names the events it takes and narrows their payloads. A message that is no event, has
another name or carries another payload never reaches it and is dropped; a message that does is
acknowledged, dropped or to be retried by how the handler fares.
-/

namespace Marketplace

/-- Takes events and changes a state. -/
structure Handler (σ ε : Type) where
  /-- The names of the events it takes. -/
  names : List String
  /-- The payloads it takes. -/
  accepts : Payload → Bool
  /-- Handles a payload on behalf of a request. -/
  handle : (correlation : String) → Payload → σ → Except ε Unit × σ

/-- What a message is to a handler. -/
inductive Reading where
  | malformed
  /-- An event, but not one for this handler. -/
  | foreign (name : String)
  | taken (event : Event)

/-- What becomes of a message, how it is counted, and the state after it. -/
structure Dispatched (σ : Type) where
  disposition : Disposition
  counter : Counter
  state : σ

namespace Handler

variable {σ ε : Type}

/-- Reads a message. -/
def read (h : Handler σ ε) (octets : ByteArray) : Reading :=
  match Sealed.ofOctets octets with
  | .error _ => .malformed
  | .ok s =>
    if h.names.contains s.header.name then
      match s.decode with
      | .error _ => .foreign s.header.name
      | .ok e => if h.accepts e.payload then .taken e else .foreign s.header.name
    else .foreign s.header.name

/-- What becomes of a message that was handled. -/
def disposition [Retryable ε] : Except ε Unit → Disposition
  | .ok () => .ack
  | .error e => if Retryable.isRetryable e then .retry else .drop

/-- Reads a message and handles it if it is for this handler. -/
def dispatch [Retryable ε] (h : Handler σ ε) (octets : ByteArray) (s : σ) : Dispatched σ :=
  match h.read octets with
  | .malformed => ⟨.drop, .eventConsumed "malformed" .drop, s⟩
  | .foreign name => ⟨.drop, .eventConsumed name .drop, s⟩
  | .taken e =>
    match h.handle e.header.correlation e.payload s with
    | (r, s) => ⟨disposition r, .eventConsumed e.name (disposition r), s⟩

end Handler

end Marketplace
