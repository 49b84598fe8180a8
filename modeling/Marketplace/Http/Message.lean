import Marketplace.Http.MediaType
import Marketplace.Json.Reader
import Marketplace.Text.Blank

/-!
# Requests and responses

A header counts if its value is visible ASCII and not blank; of several headers of one name the
first one decides. A body is read as JSON if the headers say that it is JSON.
-/

namespace Marketplace.Http

/-- A request. -/
structure Request where
  method : String
  /-- Path and query. -/
  target : String
  /-- Names and values, in order. -/
  headers : List (String × String)
  body : String

/-- A response. Bodies other than JSON are left out. -/
structure Response where
  status : Nat
  body : Option Json

namespace Response

def empty (status : Nat) : Response := ⟨status, none⟩

def json (status : Nat) (body : Json) : Response := ⟨status, some body⟩

/-- The status, and the body if there is one. -/
def toJson (r : Response) : Json :=
  .record (("status", .integer r.status) :: (r.body.map fun b => ("body", b)).toList)

/-- A response that explains what is wrong. -/
def problem (status : Nat) (text : String) : Response :=
  json status (.record [("error", .text text)])

/-- The response to a request that wants no body. -/
def withoutBody (r : Response) : Response := { r with body := none }

end Response

/-- A character that can stand in the value of a header: visible ASCII, a space or a tab. -/
def isVisible (c : Char) : Bool := (0x20 ≤ c.toNat && c.toNat < 0x7F) || c == '\t'

namespace Request

/-- The value of the first header of a name. -/
def header? (r : Request) (name : String) : Option String :=
  (r.headers.find? fun h => h.1.toLower == name).map Prod.snd

/-- The value of a header without the blanks around it, if it is visible and not blank. -/
def value? (r : Request) (name : String) : Option String :=
  match r.header? name with
  | none => none
  | some v => if v.toList.all isVisible && !Text.isAllBlank v then some (Text.trim v) else none

/-- Whether the headers announce JSON. -/
def announcesJson (r : Request) : Bool :=
  match r.header? "content-type" with
  | some v => v.toList.all isVisible && (MediaType.parse? v.toList).any MediaType.isJson
  | none => false

/-- Reads the body as JSON of a shape. -/
def readBody {α : Type} (shape : Json.Reader α) (r : Request) : Except Response α :=
  if !r.announcesJson then .error (.empty 415)
  else
    match Json.decodeText shape r.body with
    | .ok a => .ok a
    | .error .malformed => .error (.empty 400)
    | .error .mismatched => .error (.empty 422)

end Request

end Marketplace.Http
