import Marketplace.Json.Vocabulary
import Marketplace.Policy.Enforcer
import Marketplace.Text.Blank
import Marketplace.Text.Split

/-!
# Listings

A listing is sorted by some fields of its rows and cut into pages. The order is a comma-separated
list of entries `field`, `field__asc` or `field__desc`; entries of another form are passed over, and
when none is left the rows come newest first. A key that names no field of the rows compares as
equal. Sorting is stable.
-/

namespace Marketplace

open Json

def ResourceFilter.toJson : ResourceFilter → Json
  | .unrestricted => .text "unrestricted"
  | .only ids => .record [("only", .list (ids.map .text))]

instance : ToJson ResourceFilter := ⟨ResourceFilter.toJson⟩

/-- Rows that can be sorted by the fields they have a name for. -/
class Sortable (α : Type) where
  /-- How to compare rows by the field of a name, if they have it. -/
  compareBy : String → Option (α → α → Ordering)

inductive Direction where
  | ascending
  | descending
  deriving DecidableEq

def Direction.name : Direction → String
  | .ascending => "asc"
  | .descending => "desc"

def Direction.apply : Direction → Ordering → Ordering
  | .ascending, o => o
  | .descending, o => o.swap

/-- A field to sort by. -/
structure SortKey where
  field : String
  direction : Direction
  deriving DecidableEq

namespace SortKey

/-- The parts of a text between pairs of underscores. -/
def splitPairs : List Char → List (List Char)
  | [] => [[]]
  | [c] => [[c]]
  | c :: d :: cs =>
    if c = '_' ∧ d = '_' then [] :: splitPairs cs
    else
      match splitPairs (d :: cs) with
      | part :: parts => (c :: part) :: parts
      | [] => [[c]]

/-- Reads one entry of an order, blanks around its parts aside. -/
def parse? (entry : String) : Option SortKey :=
  match (splitPairs (Text.trim entry).toList).map fun p => Text.trim (String.ofList p) with
  | [name] => if name = "" then none else some ⟨name, .ascending⟩
  | [name, direction] =>
    if name = "" then none
    else if direction = "asc" then some ⟨name, .ascending⟩
    else if direction = "desc" then some ⟨name, .descending⟩
    else none
  | _ => none

/-- Newest first. -/
def newestFirst : SortKey := ⟨"updated_at", .descending⟩

/-- How a key compares two rows; a field that the rows lack tells them not apart. -/
def compare {α : Type} [Sortable α] (k : SortKey) (a b : α) : Ordering :=
  match Sortable.compareBy (α := α) k.field with
  | some f => k.direction.apply (f a b)
  | none => .eq

end SortKey

/-- Which page of a listing is wanted, and in which order. -/
structure PageQuery where
  page : UInt64
  pageSize : UInt64
  orderBy : Option String
  deriving DecidableEq

namespace PageQuery

instance : Inhabited PageQuery := ⟨⟨0, 0, none⟩⟩

/-- The rows of a page: ten unless asked otherwise, never more than a hundred. -/
def limit (q : PageQuery) : Nat := if q.pageSize = 0 then 10 else min q.pageSize.toNat 100

/-- The rows before the page, at most the greatest number of 64 bits. Page zero is page one. -/
def offset (q : PageQuery) : Nat := min ((q.page.toNat - 1) * q.limit) 18446744073709551615

/-- The keys to sort by, the first one weighing most. -/
def sortKeys (q : PageQuery) : List SortKey :=
  match (Text.split ',' (q.orderBy.getD "")).filterMap SortKey.parse? with
  | [] => [.newestFirst]
  | keys => keys

/-- Compares two rows by the first key that tells them apart. -/
def compareRows {α : Type} [Sortable α] (keys : List SortKey) (a b : α) : Ordering :=
  keys.foldr (fun k rest => (k.compare a b).then rest) .eq

/-- The rows in the order that the query asks for. -/
def sorted {α : Type} [Sortable α] (q : PageQuery) (rows : List α) : List α :=
  rows.mergeSort fun a b => (compareRows q.sortKeys a b).isLE

/-- The rows of the page. -/
def apply {α : Type} [Sortable α] (q : PageQuery) (rows : List α) : List α :=
  ((q.sorted rows).drop q.offset).take q.limit

/-- The page of those rows that a filter lets through. -/
def applyVisible {α : Type} [Sortable α] (q : PageQuery) (f : ResourceFilter) (key : α → String)
    (rows : List α) : List α :=
  q.apply (rows.filter fun r => f.allows (key r))

def toJson (q : PageQuery) : Json :=
  .record [("page", .ofNat q.page.toNat), ("page_size", .ofNat q.pageSize.toNat),
    ("orderby", .ofOption (q.orderBy.map .text))]

instance : ToJson PageQuery := ⟨toJson⟩

/-- Every field may be missing. -/
def read : Reader PageQuery := fun v => do
  let seen ← readFields
    [field "page" readUInt64, field "page_size" readUInt64, field "orderby" (readOptional readText)] v
  return ⟨← Json.optional "page" readUInt64 0 seen, ← Json.optional "page_size" readUInt64 0 seen,
    ← Json.optional "orderby" (readOptional readText) none seen⟩

end PageQuery

end Marketplace
