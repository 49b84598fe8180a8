import Marketplace.Market.Accounts
import Marketplace.Market.Inventory
import Marketplace.Market.Orders
import Marketplace.Market.Payments
import Marketplace.Proofs.Result

/-!
# The order of rows

Rows come in the order of some keys: one comes before another by the first key that tells them
apart, the least first or the greatest first. A key that names no field of the rows tells none of
them apart. Every field of what can be listed is compared by an order of its values, so that the
order of the keys is one too, and sorting by it keeps rows that no key tells apart as they stand.

## Results

* `PageQuery.compareRows_eq_lt_iff`: the comparison of rows decides which comes before the other.
* `PageQuery.isSorting_sorted`: what a query sorts is sorted by its keys.
* `Listing.list_of_up`: the five listings, each a page of the rows of its store.
-/

namespace Marketplace

section Before

variable {α : Type} [Sortable α] {key : SortKey} {keys : List SortKey} {a b : α}

/-! ## Before -/

namespace Direction

variable {d : Direction} {o : Ordering}

/-- How a row compares that comes before another. -/
def first : Direction → Ordering
  | ascending => .lt
  | descending => .gt

theorem apply_eq_lt_iff : d.apply o = .lt ↔ o = d.first := by
  cases d <;> cases o <;> decide

theorem apply_eq_eq_iff : d.apply o = .eq ↔ o = .eq := by
  cases d <;> cases o <;> decide

end Direction

namespace SortKey

/-- A row comes before another by the first of some keys that tells them apart. -/
inductive Before : List SortKey → α → α → Prop
  | told {key : SortKey} {keys : List SortKey} {a b : α} {f : α → α → Ordering} :
    Sortable.compareBy key.field = some f → f a b = key.direction.first →
      Before (key :: keys) a b
  | later {key : SortKey} {keys : List SortKey} {a b : α} :
    (∀ f : α → α → Ordering, Sortable.compareBy key.field = some f → f a b = .eq) →
      Before keys a b → Before (key :: keys) a b

theorem compare_eq_lt_iff : key.compare a b = .lt ↔ ∃ f : α → α → Ordering,
    Sortable.compareBy key.field = some f ∧ f a b = key.direction.first := by
  unfold SortKey.compare
  cases Sortable.compareBy (α := α) key.field with
  | none => simp
  | some f => simp [Direction.apply_eq_lt_iff]

theorem compare_eq_eq_iff : key.compare a b = .eq ↔
    ∀ f : α → α → Ordering, Sortable.compareBy key.field = some f → f a b = .eq := by
  unfold SortKey.compare
  cases Sortable.compareBy (α := α) key.field with
  | none => simp
  | some f => simp [Direction.apply_eq_eq_iff]

end SortKey

/-- **Which row comes before the other** is what the comparison of rows decides. -/
theorem PageQuery.compareRows_eq_lt_iff :
    PageQuery.compareRows keys a b = .lt ↔ SortKey.Before keys a b := by
  induction keys with
  | nil => exact iff_of_false (fun h => nomatch h) fun h => nomatch h
  | cons key keys ih =>
    show (key.compare a b).then (compareRows keys a b) = .lt ↔ _
    rw [Ordering.then_eq_lt, SortKey.compare_eq_lt_iff, SortKey.compare_eq_eq_iff, ih]
    constructor
    · rintro (⟨f, known, first⟩ | ⟨same, before⟩)
      · exact .told known first
      · exact .later same before
    · intro before
      cases before with
      | told known first => exact .inl ⟨_, known, first⟩
      | later same before => exact .inr ⟨same, before⟩

namespace SortKey

instance : Decidable (Before keys a b) :=
  decidable_of_iff (PageQuery.compareRows keys a b = .lt) PageQuery.compareRows_eq_lt_iff

/-- No key tells two rows apart. -/
def Tied (keys : List SortKey) (a b : α) : Prop := ¬Before keys a b ∧ ¬Before keys b a

instance : Decidable (Tied keys a b) := inferInstanceAs (Decidable (_ ∧ _))

/-- A list is some rows in the order of some keys: no row stands behind one that it comes before,
and rows that no key tells apart stand as they did. -/
structure IsSorting (keys : List SortKey) (rows sorted : List α) : Prop where
  perm : sorted.Perm rows
  inOrder : sorted.Pairwise fun a b => ¬Before keys b a
  ties : ∀ a, (sorted.filter fun b => Tied keys a b) = rows.filter fun b => Tied keys a b

end SortKey

theorem PageQuery.length_sorted (q : PageQuery) (rows : List α) :
    (q.sorted rows).length = rows.length :=
  List.length_mergeSort rows

end Before

/-! ## Orders of values -/

/-- The fields of rows are compared by orders of their values. -/
class Sortable.Lawful (α : Type) [Sortable α] : Prop where
  transCmp : ∀ {field : String} {f : α → α → Ordering},
    Sortable.compareBy field = some f → Std.TransCmp f

section Lawful

variable {α : Type} [Sortable α] [Sortable.Lawful α]

/-- Turning an order round gives an order. -/
instance (key : SortKey) : Std.TransCmp (key.compare (α := α)) := by
  unfold SortKey.compare
  split
  · rename_i f known
    have ordered : Std.TransCmp f := Sortable.Lawful.transCmp known
    cases key.direction with
    | ascending => exact ordered
    | descending =>
      have turned : (fun a b => (f a b).swap) = fun a b => f b a := by
        funext a b
        exact Std.OrientedCmp.eq_swap.symm
      show Std.TransCmp fun a b => (f a b).swap
      rw [turned]
      exact Std.TransCmp.opposite
  · exact { eq_swap := rfl, isLE_trans := fun _ _ => rfl }

/-- Comparing by several keys is an order. -/
theorem PageQuery.transCmp_compareRows : (keys : List SortKey) →
    Std.TransCmp (PageQuery.compareRows (α := α) keys)
  | [] => { eq_swap := rfl, isLE_trans := fun _ _ => rfl }
  | key :: keys => by
    have rest := transCmp_compareRows keys
    exact inferInstanceAs (Std.TransCmp (compareLex key.compare (PageQuery.compareRows keys)))

instance (keys : List SortKey) : Std.TransCmp (PageQuery.compareRows (α := α) keys) :=
  PageQuery.transCmp_compareRows keys

namespace PageQuery

variable {keys : List SortKey} {a b c : α}

theorem isLE_compareRows_iff :
    (compareRows keys a b).isLE = true ↔ ¬SortKey.Before keys b a := by
  rw [← compareRows_eq_lt_iff, Ordering.isLE_iff_ne_gt, Std.OrientedCmp.gt_iff_lt]

theorem isLE_compareRows_total (a b : α) :
    ((compareRows keys a b).isLE || (compareRows keys b a).isLE) = true := by
  have swapped : compareRows keys b a = (compareRows keys a b).swap := Std.OrientedCmp.eq_swap
  rw [swapped]
  cases compareRows keys a b <;> rfl

theorem isLE_of_tied (hb : SortKey.Tied keys a b) (hc : SortKey.Tied keys a c) :
    (compareRows keys b c).isLE = true :=
  Std.TransCmp.isLE_trans (isLE_compareRows_iff.2 hb.1) (isLE_compareRows_iff.2 hc.2)

/-- **What a query sorts is sorted by its keys.** -/
theorem isSorting_sorted (q : PageQuery) (rows : List α) :
    SortKey.IsSorting q.sortKeys rows (q.sorted rows) where
  perm := List.mergeSort_perm _ _
  inOrder := by
    have ordered : (q.sorted rows).Pairwise fun a b => (compareRows q.sortKeys a b).isLE = true :=
      List.pairwise_mergeSort (fun _ _ _ => Std.TransCmp.isLE_trans) isLE_compareRows_total rows
    exact ordered.imp isLE_compareRows_iff.1
  ties a := by
    -- Rows tied with one another are in order as they stand, so sorting keeps them as a part of
    -- the list, and there are as many of them as before.
    have inOrder : (rows.filter fun b => SortKey.Tied q.sortKeys a b).Pairwise
        fun b c => (compareRows q.sortKeys b c).isLE = true := by
      apply List.pairwise_of_forall_mem_list
      intro b hb c hc
      have hb := (List.mem_filter.1 hb).2
      have hc := (List.mem_filter.1 hc).2
      exact isLE_of_tied (of_decide_eq_true hb) (of_decide_eq_true hc)
    have kept := List.sublist_mergeSort (fun _ _ _ => Std.TransCmp.isLE_trans)
      isLE_compareRows_total inOrder List.filter_sublist
    have part := kept.filter fun b => SortKey.Tied q.sortKeys a b
    rw [List.filter_filter] at part
    simp only [Bool.and_self] at part
    have perm : (q.sorted rows).Perm rows := List.mergeSort_perm _ _
    exact (part.eq_of_length (perm.filter _).length_eq.symm).symm

end PageQuery

end Lawful

/-! ## The five listings -/

/-- Rows are ordered by what is read off them. -/
theorem transCmp_field {α β : Type} [Ord β] [Std.TransOrd β] (g : α → β) :
    Std.TransCmp fun a b => compare (g a) (g b) where
  eq_swap := Std.OrientedCmp.eq_swap
  isLE_trans := Std.TransCmp.isLE_trans

instance : Std.TransOrd Instant := transCmp_field Instant.nanos

instance : Std.TransOrd Money := transCmp_field Money.cents

instance : Sortable.Lawful Account where
  transCmp {field f} known := by
    simp only [Sortable.compareBy] at known
    split at known <;> cases known <;> exact transCmp_field _

instance : Sortable.Lawful Merchant where
  transCmp {field f} known := by
    simp only [Sortable.compareBy] at known
    split at known <;> cases known <;> exact transCmp_field _

instance : Sortable.Lawful Product where
  transCmp {field f} known := by
    simp only [Sortable.compareBy] at known
    split at known <;> cases known <;> exact transCmp_field _

instance : Sortable.Lawful Order where
  transCmp {field f} known := by
    simp only [Sortable.compareBy] at known
    split at known <;> cases known <;> exact transCmp_field _

instance : Sortable.Lawful Transaction where
  transCmp {field f} known := by
    simp only [Sortable.compareBy] at known
    split at known <;> cases known <;> exact transCmp_field _

/-- What can be listed. -/
inductive Listing where
  | accounts
  | merchants
  | products
  | orders
  | transactions
  deriving DecidableEq

namespace Listing

/-- What is listed. -/
def Row : Listing → Type
  | accounts => Account
  | merchants => Merchant
  | products => Product
  | orders => Order
  | transactions => Transaction

instance : (k : Listing) → Sortable k.Row
  | accounts => inferInstanceAs (Sortable Account)
  | merchants => inferInstanceAs (Sortable Merchant)
  | products => inferInstanceAs (Sortable Product)
  | orders => inferInstanceAs (Sortable Order)
  | transactions => inferInstanceAs (Sortable Transaction)

instance : (k : Listing) → Sortable.Lawful k.Row
  | accounts => inferInstanceAs (Sortable.Lawful Account)
  | merchants => inferInstanceAs (Sortable.Lawful Merchant)
  | products => inferInstanceAs (Sortable.Lawful Product)
  | orders => inferInstanceAs (Sortable.Lawful Order)
  | transactions => inferInstanceAs (Sortable.Lawful Transaction)

/-- The name of a row to a filter. -/
def key : (k : Listing) → k.Row → String
  | accounts, (a : Account) => toString a.id
  | merchants, (m : Merchant) => toString m.id
  | products, (p : Product) => toString p.id
  | orders, (o : Order) => toString o.id
  | transactions, (t : Transaction) => toString t.id

/-- Where the rows are stored. -/
def Store : Listing → Type
  | accounts => AccountStore
  | merchants => InventoryStore
  | products => InventoryStore
  | orders => OrderStore
  | transactions => PaymentStore

/-- The rows of a store, in the order in which it goes through them. -/
def rows : (k : Listing) → k.Store → List k.Row
  | accounts, (s : AccountStore) => s.accounts.values
  | merchants, (s : InventoryStore) => s.merchants.values
  | products, (s : InventoryStore) => s.products.values
  | orders, (s : OrderStore) => s.orders.values
  | transactions, (s : PaymentStore) => s.ledger

/-- The store does not answer. -/
def isDown : (k : Listing) → k.Store → Bool
  | accounts, (s : AccountStore) => s.isDown
  | merchants, (s : InventoryStore) => s.isDown
  | products, (s : InventoryStore) => s.isDown
  | orders, (s : OrderStore) => s.isDown
  | transactions, (s : PaymentStore) => s.isDown

/-- Lists a page of what a filter allows. -/
def list : (k : Listing) → ResourceFilter → PageQuery → k.Store → Except ServiceError (List k.Row)
  | accounts, f, q, (s : AccountStore) => s.list f q
  | merchants, f, q, (s : InventoryStore) => s.listMerchants f q
  | products, f, q, (s : InventoryStore) => s.listProducts f q
  | orders, f, q, (s : OrderStore) => s.list f q
  | transactions, f, q, (s : PaymentStore) => s.list f q

/-- **A store that answers** lists a page of those rows that the filter allows. -/
theorem list_of_up {k : Listing} {s : k.Store} (up : k.isDown s = false) (f : ResourceFilter)
    (q : PageQuery) :
    k.list f q s = .ok (q.apply ((k.rows s).filter fun r => f.allows (k.key r))) := by
  have answers {m : Bool} {e : ServiceError} (up : m = false) :
      (if m then .error e else .ok () : Except ServiceError Unit) = .ok () := by
    rw [up]
    rfl
  cases k with
  | accounts => exact bind_eq_ok.2 ⟨(), answers up, rfl⟩
  | merchants => exact bind_eq_ok.2 ⟨(), answers up, rfl⟩
  | products => exact bind_eq_ok.2 ⟨(), answers up, rfl⟩
  | orders => exact bind_eq_ok.2 ⟨(), answers up, rfl⟩
  | transactions => exact bind_eq_ok.2 ⟨(), answers up, rfl⟩

end Listing

end Marketplace
