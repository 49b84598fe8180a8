import Marketplace.Json.Printer
import Marketplace.Json.Reader
import Marketplace.Money
import Marketplace.Participant
import Marketplace.Policy.Grant
import Marketplace.Time.Supply

/-!
# The vocabulary in JSON

How the words that every message uses are written and read: numbers of accounts, identifiers,
amounts, roles, services, grants, claims and moments.
-/

namespace Marketplace

open Json

/-- A whole number that fits in 32 bits. -/
def Json.readUInt32 : Reader UInt32 := fun v => do
  let n ← readInteger 0 4294967295 v
  return UInt32.ofNat n.toNat

/-- A whole number that fits in 64 bits. -/
def Json.readUInt64 : Reader UInt64 := fun v => do
  let n ← readInteger 0 18446744073709551615 v
  return UInt64.ofNat n.toNat

namespace AccountId

def toJson (a : AccountId) : Json := .ofNat a.number.toNat

instance : ToJson AccountId := ⟨toJson⟩

def read : Reader AccountId := fun v => do return ⟨← readUInt64 v⟩

end AccountId

namespace Uuid

def toJson (u : Uuid) : Json := .text (toString u)

def read : Reader Uuid := readTextAs fun s => parse? s.toList

end Uuid

namespace Id

variable {kind : Kind}

def toJson (i : Id kind) : Json := i.uuid.toJson

instance : ToJson (Id kind) := ⟨toJson⟩

def read : Reader (Id kind) := fun v => do return ⟨← Uuid.read v⟩

end Id

namespace Money

def toJson (m : Money) : Json := .integer m.cents

instance : ToJson Money := ⟨toJson⟩

def read : Reader Money
  | .integer n =>
    match ofCents? n with
    | some m => .ok m
    | none => .error .mismatched
  | v => .error (wrongKind v)

end Money

namespace Role

def toJson (r : Role) : Json := .text r.name

instance : ToJson Role := ⟨toJson⟩

def read : Reader Role := readName ofName?

end Role

namespace Service

def toJson (v : Service) : Json := .text v.name

instance : ToJson Service := ⟨toJson⟩

def read : Reader Service := readName ofName?

end Service

namespace PolicyMethod

def toJson (m : PolicyMethod) : Json := .text m.name

instance : ToJson PolicyMethod := ⟨toJson⟩

def read : Reader PolicyMethod := readName ofName?

end PolicyMethod

namespace Grant

/-- The four fields under their names in messages. -/
def fieldsJson (g : Grant) : List (String × Json) :=
  [("subject", .text g.subject), ("resource_type", .text g.resourceType),
    ("resource_id", .text g.resourceId), ("action", .text g.action)]

def toJson (g : Grant) : Json := .record g.fieldsJson

instance : ToJson Grant := ⟨toJson⟩

def shape : List Field :=
  [field "subject" readText, field "resource_type" readText, field "resource_id" readText,
    field "action" readText]

/-- A grant from the fields of a message. -/
def ofFields (seen : List (String × Json)) : Except Reject Grant := do
  let subject ← required "subject" readText seen
  let resourceType ← required "resource_type" readText seen
  let resourceId ← required "resource_id" readText seen
  let action ← required "action" readText seen
  return ⟨subject, resourceType, action, resourceId⟩

def read : Reader Grant := fun v => do ofFields (← readFields shape v)

end Grant

/-- The grants of a subject as texts, in the form in which they are listed. -/
abbrev GrantList := List String

namespace GrantList

def toJson (texts : GrantList) : Json := .record [("policies", .list (texts.map .text))]

def read : Reader GrantList := fun v => do
  let seen ← readFields [field "policies" (readList readText)] v
  required "policies" (readList readText) seen

end GrantList

namespace Claims

def toJson (c : Claims) : Json :=
  .record [("account_id", c.account.toJson), ("email", .text c.email), ("role", c.role.toJson)]

instance : ToJson Claims := ⟨toJson⟩

def read : Reader Claims := fun v => do
  let seen ← readFields
    [field "account_id" AccountId.read, field "email" readText, field "role" Role.read] v
  return ⟨← required "account_id" AccountId.read seen, ← required "email" readText seen,
    ← required "role" Role.read seen⟩

end Claims

namespace Time.Timestamp

def toJson (t : Timestamp) : Json := .text (String.ofList t.toText)

def read : Reader Timestamp := readTextAs fun s => parse? s.toList

end Time.Timestamp

namespace Instant

def toJson (t : Instant) : Json := t.timestamp.toJson

end Instant

end Marketplace
