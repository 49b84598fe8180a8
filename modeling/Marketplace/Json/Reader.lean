import Marketplace.Json.Parser
import Marketplace.Text.Utf8

/-!
# Reading values of a shape

A reader takes a tree to a value of the domain, or rejects it: `malformed` when it meets the fault
of the text, `mismatched` when it meets a value of the wrong shape. Fields are read in the order of
the text, so of two defects the first one decides. A structure may be written as an object, whose
further fields are skipped, or as the list of its fields in their order.
-/

namespace Marketplace.Json

/-- Why a tree is rejected. -/
inductive Reject where
  /-- The text is no JSON. -/
  | malformed
  /-- The text is JSON of another shape. -/
  | mismatched
  deriving DecidableEq

abbrev Reader (α : Type) := Json → Except Reject α

/-- What a value of the wrong kind is rejected for. -/
def wrongKind : Json → Reject
  | .fault => .malformed
  | .unreadable => .malformed
  | .nameless _ => .malformed
  | .misplaced _ => .malformed
  | _ => .mismatched

def readText : Reader String
  | .text s => .ok s
  | v => .error (wrongKind v)

/-- An integer from `low` to `high`. -/
def readInteger (low high : Int) : Reader Int
  | .integer n => if low ≤ n ∧ n ≤ high then .ok n else .error .mismatched
  | v => .error (wrongKind v)

/-- A text that a function understands. -/
def readTextAs {α : Type} (f : String → Option α) : Reader α := fun v => do
  match f (← readText v) with
  | some a => .ok a
  | none => .error .mismatched

/-- One of several names: a text, or an object with one field of that name that is null. A value of
any other kind is refused as if it were no JSON, and a value in the place of the name as one of the
wrong kind. -/
def readName {α : Type} (f : String → Option α) : Reader α
  | .text s =>
    match f s with
    | some a => .ok a
    | none => .error .mismatched
  | .record [] => .error .malformed
  | .record ((_, .nameless _) :: _) => .error .malformed
  | .record ((_, .misplaced v) :: _) => .error (wrongKind v)
  | .record ((k, v) :: rest) =>
    match f k, v with
    | none, _ => .error .mismatched
    | some a, .null => if rest.isEmpty then .ok a else .error .malformed
    | some _, v => .error (wrongKind v)
  | _ => .error .malformed

/-- A value or null. -/
def readOptional {α : Type} (r : Reader α) : Reader (Option α)
  | .null => .ok none
  | v => (r v).map some

/-- A list of values of one shape. -/
def readList {α : Type} (r : Reader α) : Reader (List α)
  | .list items => items.mapM r
  | v => .error (wrongKind v)

/-- A field of a structure: its name and whether a value will do for it. -/
structure Field where
  name : String
  check : Reader Unit

/-- The field of a name and a shape. -/
def field {α : Type} (name : String) (r : Reader α) : Field := ⟨name, fun v => (r v).map fun _ => ()⟩

/-- Checks the fields of an object in the order of the text. -/
def checkFields (shape : List Field) :
    List (String × Json) → List (String × Json) → Except Reject (List (String × Json))
  | seen, [] => .ok seen
  | _, (_, .nameless _) :: _ => .error .malformed
  | seen, (k, v) :: rest =>
    match shape.find? fun f => f.name == k with
    | some f =>
      if seen.any fun s => s.1 == k then .error .mismatched
      else do
        f.check v
        checkFields shape (seen ++ [(k, v)]) rest
    | none => if v.isClosed then checkFields shape seen rest else .error .malformed

/-- Checks the items of a list against the fields of a structure. -/
def checkItems : List Field → List Json → Except Reject (List (String × Json))
  | _, [] => .ok []
  | [], _ :: _ => .error .malformed
  | f :: shape, v :: rest => do
    f.check v
    let seen ← checkItems shape rest
    .ok ((f.name, v) :: seen)

/-- The fields of a structure, each checked. -/
def readFields (shape : List Field) : Reader (List (String × Json))
  | .record fields => checkFields shape [] fields
  | .list items => checkItems shape items
  | v => .error (wrongKind v)

/-- The value of a field that has to be there. -/
def required {α : Type} (name : String) (r : Reader α) (seen : List (String × Json)) :
    Except Reject α :=
  match field? name seen with
  | some v => r v
  | none => .error .mismatched

/-- The value of a field that may be missing. -/
def optional {α : Type} (name : String) (r : Reader α) (missing : α) (seen : List (String × Json)) :
    Except Reject α :=
  match field? name seen with
  | some v => r v
  | none => .ok missing

/-- Reads characters and gaps that are one JSON value of a shape, with nothing but blanks after it. -/
def decode {α : Type} (r : Reader α) (cs : List (Option Char)) : Except Reject α := do
  let (tree, complete) := read cs
  let a ← r tree
  if complete then .ok a else .error .malformed

/-- Reads a text that is one JSON value of a shape. -/
def decodeText {α : Type} (r : Reader α) (s : String) : Except Reject α :=
  decode r (s.toList.map some)

/-- Reads octets that are one JSON value of a shape. What is skipped need not be well-formed UTF-8. -/
def decodeOctets {α : Type} (r : Reader α) (octets : ByteArray) : Except Reject α :=
  decode r (Text.scan octets)

end Marketplace.Json
