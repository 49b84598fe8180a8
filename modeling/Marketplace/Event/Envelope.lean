import Marketplace.Event.Error
import Marketplace.Event.Payload

/-!
# Events on the wire

An event is a payload in an envelope that says where, when and on whose request it arose. On the
wire it is compact JSON in UTF-8. Reading takes two steps: `Sealed.ofOctets` reads the envelope and
keeps the payload as plain JSON, `Sealed.decode` reads the payload by the name on the envelope.
-/

namespace Marketplace

open Json Time

/-- The version that new envelopes carry. -/
def envelopeVersion : String := "1.0"

/-- The envelope of an event. -/
structure Meta where
  version : String
  /-- The service that sent the event. -/
  source : String
  time : Timestamp
  name : String
  id : Uuid
  /-- The request that the event goes back to. -/
  correlation : String
  deriving DecidableEq

namespace Meta

def toJson (m : Meta) : Json :=
  .record [("version", .text m.version), ("source", .text m.source), ("time", m.time.toJson),
    ("name", .text m.name), ("id", m.id.toJson), ("req_id", .text m.correlation)]

instance : ToJson Meta := ⟨toJson⟩

def read : Reader Meta := fun v => do
  let seen ← readFields
    [field "version" readText, field "source" readText, field "time" Timestamp.read,
      field "name" readText, field "id" Uuid.read, field "req_id" readText] v
  return ⟨← required "version" readText seen, ← required "source" readText seen,
    ← required "time" Timestamp.read seen, ← required "name" readText seen,
    ← required "id" Uuid.read seen, ← required "req_id" readText seen⟩

end Meta

/-- An event, ready to be sent or handled. -/
structure Event where
  header : Meta
  payload : Payload
  deriving DecidableEq

namespace Event

def name (e : Event) : String := e.header.name

def toJson (e : Event) : Json :=
  .record [("meta", e.header.toJson), ("payload", e.payload.toJson)]

/-- The text of an event on the wire. -/
def wire (e : Event) : String := e.toJson.compact

/-- The octets of an event on the wire. -/
def octets (e : Event) : ByteArray := e.wire.toUTF8

end Event

/-- Reads the payload of an event of some name. -/
def Payload.decode (name : String) (body : Json) : Except EventError Payload :=
  match Topic.ofName? name with
  | none => .error (.unregistered name)
  | some t =>
    match t.readPayload body with
    | .ok p => .ok p
    | .error _ => .error .malformed

/-- An event whose payload has not been looked at. -/
structure Sealed where
  header : Meta
  payload : Json

namespace Sealed

/-- How deep the payload may be nested inside of the envelope. -/
def payloadDepth : Nat := 126

/-- A payload is any plain JSON. -/
def readPlain : Reader Json := fun v =>
  match v.plain? payloadDepth with
  | some w => .ok w
  | none => .error .malformed

def read : Reader Sealed := fun v => do
  let seen ← readFields [field "meta" Meta.read, field "payload" readPlain] v
  return ⟨← required "meta" Meta.read seen, ← required "payload" readPlain seen⟩

/-- Reads the envelope off the wire. -/
def ofOctets (bytes : ByteArray) : Except EventError Sealed :=
  match decodeOctets read bytes with
  | .ok e => .ok e
  | .error _ => .error .malformed

/-- Reads the payload by the name on the envelope. -/
def decode (s : Sealed) : Except EventError Event :=
  (Payload.decode s.header.name s.payload).map fun p => ⟨s.header, p⟩

end Sealed

end Marketplace
