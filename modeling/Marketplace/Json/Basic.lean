/-!
# JSON values

A JSON text as a tree. The tree also has room for texts that are not JSON: the first fault of a
text is a leaf of the tree, at the place where reading stopped. A reader that walks the tree in
the order of the text therefore meets a wrong shape before or after the fault, as it would have on
the text itself.
-/

namespace Marketplace

/-- A JSON value, as far as its text could be read. -/
inductive Json where
  | null
  | bool (value : Bool)
  /-- A whole number between -2^63 and 2^64 - 1, written without a point and an exponent. -/
  | integer (value : Int)
  /-- Any other number that is not beyond every double. -/
  | decimal
  | text (value : String)
  | list (items : List Json)
  | record (fields : List (String × Json))
  /-- A value of clear extent that means nothing: a string that spells no text, or a number beyond
  every double. It can be skipped, not read. -/
  | unreadable
  /-- The value of a field whose name spells no text. It can be skipped with its field. -/
  | nameless (value : Json)
  /-- A value where the name of a field should be; the text stops being JSON there. -/
  | misplaced (value : Json)
  /-- The place where the text stops being JSON. -/
  | fault
  deriving Inhabited

namespace Json

mutual

/-- No fault inside. -/
def isClosed : Json → Bool
  | .fault => false
  | .misplaced _ => false
  | .list items => areClosed items
  | .record fields => fieldsClosed fields
  | .nameless v => isClosed v
  | _ => true

def areClosed : List Json → Bool
  | [] => true
  | v :: vs => isClosed v && areClosed vs

def fieldsClosed : List (String × Json) → Bool
  | [] => true
  | (_, v) :: fs => isClosed v && fieldsClosed fs

end

/-- The field of an object, the last one of that name. -/
def field? (name : String) : List (String × Json) → Option Json
  | [] => none
  | (k, v) :: fs =>
    match field? name fs with
    | some w => some w
    | none => if k = name then some v else none

mutual

/-- The value as plain data: free of faults and of what cannot be read, nested at most `depth` deep,
and with one field of each name, the last. -/
def plain? : Nat → Json → Option Json
  | _, .fault => none
  | _, .unreadable => none
  | _, .nameless _ => none
  | _, .misplaced _ => none
  | 0, .list _ => none
  | depth + 1, .list items => (plainItems? depth items).map .list
  | 0, .record _ => none
  | depth + 1, .record fields => (plainFields? depth fields).map .record
  | _, v => some v

def plainItems? : Nat → List Json → Option (List Json)
  | _, [] => some []
  | depth, v :: vs => do
    let w ← plain? depth v
    let ws ← plainItems? depth vs
    some (w :: ws)

def plainFields? : Nat → List (String × Json) → Option (List (String × Json))
  | _, [] => some []
  | depth, (k, v) :: fs => do
    let w ← plain? depth v
    let ws ← plainFields? depth fs
    some (if ws.any fun f => f.1 == k then ws else (k, w) :: ws)

end

/-- A text value. -/
def ofText (s : String) : Json := .text s

/-- An optional value, `null` when absent. -/
def ofOption : Option Json → Json
  | some v => v
  | none => .null

/-- A natural number. -/
def ofNat (n : Nat) : Json := .integer n

end Json

/-- Values that have a form in JSON. -/
class ToJson (α : Type) where
  toJson : α → Json

instance : ToJson Json := ⟨id⟩

instance : ToJson Unit := ⟨fun _ => .null⟩

instance : ToJson Bool := ⟨.bool⟩

instance : ToJson String := ⟨.text⟩

instance : ToJson Nat := ⟨.ofNat⟩

instance : ToJson UInt32 := ⟨fun n => .ofNat n.toNat⟩

instance {α : Type} [ToJson α] : ToJson (Option α) := ⟨fun a => .ofOption (a.map ToJson.toJson)⟩

instance {α : Type} [ToJson α] : ToJson (List α) := ⟨fun as => .list (as.map ToJson.toJson)⟩

end Marketplace
