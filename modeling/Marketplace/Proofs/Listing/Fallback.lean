import Marketplace.Proofs.Listing.Order

/-!
# Orders without a usable entry

An entry of an order is usable for some rows if it reads as a key and the rows have its field. When
no entry reads as a key, the rows come newest first, as they do when no order is asked for. An entry
that reads as a key takes the place of that order even if the rows do not have its field. Such a key
tells no rows apart, so the rows then come as they stand. An order without a usable entry is the
same as none only if none of its entries reads.

## Results

* `PageQuery.sortKeys_of_unread`, `PageQuery.sortKeys_of_read`: the keys of an order.
* `Listing.isNewestFirst_sorted`: the order of rows when no order is asked for.
* `unusable_order_iff`: which orders without a usable entry are the same as none, and what the other
  ones do.
-/

namespace Marketplace

/-! ## Keys -/

/-- The entries of an order. -/
def entriesOf (orderBy : Option String) : List String := Text.split ',' (orderBy.getD "")

/-- An entry reads as a key for a field that some rows have. -/
def SortKey.IsUsable (α : Type) [Sortable α] (entry : String) : Prop :=
  ∃ key, SortKey.parse? entry = some key ∧ ∃ f : α → α → Ordering,
    Sortable.compareBy key.field = some f

instance (α : Type) [Sortable α] (entry : String) : Decidable (SortKey.IsUsable α entry) :=
  decidable_of_iff ((SortKey.parse? entry).any fun key =>
      (Sortable.compareBy (α := α) key.field).isSome) <| by
    unfold SortKey.IsUsable
    simp [Option.any_eq_true, Option.isSome_iff_exists]

namespace PageQuery

variable {page size : UInt64} {orderBy : Option String}

/-- Newest first, when nothing reads. -/
theorem sortKeys_of_unread (unread : ∀ entry ∈ entriesOf orderBy, SortKey.parse? entry = none) :
    (PageQuery.mk page size orderBy).sortKeys = [.newestFirst] := by
  have none : (Text.split ',' (orderBy.getD "")).filterMap SortKey.parse? = [] :=
    List.filterMap_eq_nil_iff.2 unread
  unfold sortKeys
  rw [none]

/-- The entries that read, when there are any. -/
theorem sortKeys_of_read {entry : String} (listed : entry ∈ entriesOf orderBy)
    (read : SortKey.parse? entry ≠ none) :
    (PageQuery.mk page size orderBy).sortKeys =
      (entriesOf orderBy).filterMap SortKey.parse? := by
  unfold sortKeys
  split
  · rename_i none
    exact (read (List.filterMap_eq_nil_iff.1 none entry listed)).elim
  · rfl

theorem sortKeys_of_none : (PageQuery.mk page size none).sortKeys = [.newestFirst] := by
  apply sortKeys_of_unread
  decide

variable {α : Type} [Sortable α] {q : PageQuery} {rows : List α}

/-- A few rows fill the first page. -/
theorem apply_firstPage (few : rows.length ≤ 10) :
    (PageQuery.mk 1 0 orderBy).apply rows = (PageQuery.mk 1 0 orderBy).sorted rows := by
  have length := (PageQuery.mk 1 0 orderBy).length_sorted rows
  show (((PageQuery.mk 1 0 orderBy).sorted rows).drop 0).take 10 = _
  rw [List.drop_zero, List.take_of_length_le (by omega)]

/-- Keys of fields that the rows lack tell none of them apart. -/
theorem compareRows_of_unknown : ∀ {keys : List SortKey} (a b : α),
    (∀ key ∈ keys, Sortable.compareBy (α := α) key.field = none) → compareRows keys a b = .eq
  | [], _, _, _ => rfl
  | key :: keys, a, b, unknown => by
    have same : key.compare a b = .eq := by
      unfold SortKey.compare
      rw [unknown key List.mem_cons_self]
    show (key.compare a b).then (compareRows keys a b) = .eq
    rw [same, compareRows_of_unknown a b fun k hk => unknown k (List.mem_cons_of_mem key hk)]
    rfl

theorem sorted_of_unknown
    (unknown : ∀ key ∈ q.sortKeys, Sortable.compareBy (α := α) key.field = none) :
    q.sorted rows = rows := by
  apply List.mergeSort_of_pairwise
  apply List.pairwise_of_forall_mem_list
  intro a _ b _
  rw [compareRows_of_unknown a b unknown]
  rfl

/-- Rows come as they stand when an entry reads, but none is usable. -/
theorem sorted_of_unusable (unusable : ∀ entry ∈ entriesOf orderBy, ¬SortKey.IsUsable α entry)
    {entry : String} (listed : entry ∈ entriesOf orderBy) (read : SortKey.parse? entry ≠ none) :
    (PageQuery.mk page size orderBy).sorted rows = rows := by
  apply sorted_of_unknown
  rw [sortKeys_of_read listed read]
  intro key hk
  obtain ⟨entry, listed, read⟩ := List.mem_filterMap.1 hk
  apply Option.eq_none_iff_forall_ne_some.2
  exact fun f known => unusable entry listed ⟨key, read, f, known⟩

end PageQuery

/-! ## Newest first -/

namespace Listing

variable {k : Listing}

/-- When a row was last changed, as far as it is recorded. -/
def changedAt : (k : Listing) → k.Row → Instant
  | accounts, (a : Account) => a.createdAt
  | merchants, (m : Merchant) => m.createdAt
  | products, (p : Product) => p.createdAt
  | orders, (o : Order) => o.updatedAt
  | transactions, (t : Transaction) => t.createdAt

theorem compareBy_updatedAt (k : Listing) : Sortable.compareBy (α := k.Row) "updated_at" =
    some fun a b => compare (k.changedAt a) (k.changedAt b) := by
  cases k <;> rfl

/-- A list is some rows, the ones that were changed last first, and those that were changed at the
same moment as they stand. -/
structure IsNewestFirst (k : Listing) (rows sorted : List k.Row) : Prop where
  perm : sorted.Perm rows
  inOrder : sorted.Pairwise fun a b => (k.changedAt b).nanos ≤ (k.changedAt a).nanos
  ties : ∀ a, (sorted.filter fun b => k.changedAt b = k.changedAt a) =
    rows.filter fun b => k.changedAt b = k.changedAt a

variable {a b : k.Row}

theorem before_newestFirst : SortKey.Before [.newestFirst] a b ↔
    (k.changedAt b).nanos < (k.changedAt a).nanos := by
  have known := compareBy_updatedAt k
  rw [← Int.compare_eq_gt]
  constructor
  · intro before
    cases before with
    | told found first =>
      cases found.symm.trans known
      exact first
    | later _ rest => cases rest
  · exact fun first => .told known first

theorem tied_newestFirst :
    SortKey.Tied [.newestFirst] a b ↔ k.changedAt b = k.changedAt a := by
  unfold SortKey.Tied
  rw [before_newestFirst, before_newestFirst, Instant.mk.injEq]
  omega

/-- **The rows come newest first** when no order is asked for. -/
theorem isNewestFirst_sorted (page size : UInt64) (rows : List k.Row) :
    k.IsNewestFirst rows ((PageQuery.mk page size none).sorted rows) := by
  have sorting := (PageQuery.mk page size none).isSorting_sorted rows
  rw [PageQuery.sortKeys_of_none] at sorting
  constructor
  case perm => exact sorting.perm
  case inOrder =>
    refine sorting.inOrder.imp fun {a b} inOrder => ?_
    rw [before_newestFirst] at inOrder
    omega
  case ties =>
    intro a
    simpa only [tied_newestFirst] using sorting.ties a

/-- A row that was changed at a moment. -/
def rowAt : (k : Listing) → Instant → k.Row
  | accounts, t => (⟨⟨1⟩, "", "", .customer, t⟩ : Account)
  | merchants, t => (⟨⟨.ofNat 1⟩, "", ⟨1⟩, t⟩ : Merchant)
  | products, t => (⟨⟨.ofNat 1⟩, ⟨.ofNat 1⟩, "", .zero, 0, t⟩ : Product)
  | orders, t => (⟨⟨.ofNat 1⟩, ⟨1⟩, ⟨.ofNat 1⟩, 0, .pending, t, t⟩ : Order)
  | transactions, t => (⟨⟨.ofNat 1⟩, .zero, ⟨1⟩, true, none, t⟩ : Transaction)

theorem changedAt_rowAt (k : Listing) (t : Instant) : k.changedAt (k.rowAt t) = t := by
  cases k <;> rfl

/-- Two rows that stand oldest first are turned round when no order is asked for. -/
theorem sorted_pair (page size : UInt64) (older : (k.changedAt a).nanos < (k.changedAt b).nanos) :
    (PageQuery.mk page size none).sorted [a, b] = [b, a] := by
  have newest := isNewestFirst_sorted page size [a, b]
  have turned : [b, a].Pairwise fun a b => (k.changedAt b).nanos ≤ (k.changedAt a).nanos :=
    List.pairwise_pair.2 (Int.le_of_lt older)
  have perm := newest.perm.trans (List.Perm.swap b a [])
  refine List.Perm.eq_of_pairwise (fun c d hc hd cd dc => ?_) newest.inOrder turned perm
  have first := perm.subset hc
  simp only [List.mem_cons, List.not_mem_nil, or_false] at first hd
  rcases first with rfl | rfl <;> rcases hd with rfl | rfl
  · rfl
  · omega
  · omega
  · rfl

/-- An order that leaves all rows as they stand is not the same as none. -/
theorem exists_apply_ne (k : Listing) {orderBy : Option String}
    (asTheyStand : ∀ page size (rows : List k.Row),
      (PageQuery.mk page size orderBy).sorted rows = rows) :
    ∃ page size, ∃ rows : List k.Row, (PageQuery.mk page size orderBy).apply rows ≠
      (PageQuery.mk page size none).apply rows := by
  refine ⟨1, 0, [k.rowAt ⟨1⟩, k.rowAt ⟨2⟩], fun same => ?_⟩
  have few : [k.rowAt ⟨1⟩, k.rowAt ⟨2⟩].length ≤ 10 := Nat.le_of_ble_eq_true rfl
  have older : (k.changedAt (k.rowAt ⟨1⟩)).nanos < (k.changedAt (k.rowAt ⟨2⟩)).nanos := by
    rw [changedAt_rowAt, changedAt_rowAt]
    decide
  rw [PageQuery.apply_firstPage few, PageQuery.apply_firstPage few, asTheyStand,
    sorted_pair 1 0 older] at same
  have moments := congrArg k.changedAt (List.cons.inj same).1
  rw [changedAt_rowAt, changedAt_rowAt] at moments
  cases moments

end Listing

/-- **An order without a usable entry** is the same as none if and only if none of its entries
reads as a key. If one does, the rows come as they stand. When no order is asked for, they come
newest first. -/
theorem unusable_order_iff (k : Listing) (orderBy : Option String)
    (unusable : ∀ entry ∈ entriesOf orderBy, ¬SortKey.IsUsable k.Row entry) :
    ((∀ page size (rows : List k.Row), (PageQuery.mk page size orderBy).apply rows =
        (PageQuery.mk page size none).apply rows) ↔
      ∀ entry ∈ entriesOf orderBy, SortKey.parse? entry = none) ∧
    ((∃ entry ∈ entriesOf orderBy, SortKey.parse? entry ≠ none) →
      ∀ page size (rows : List k.Row), let q := PageQuery.mk page size orderBy
        q.apply rows = (rows.drop q.offset).take q.limit) ∧
    ∀ page size (rows : List k.Row), let q := PageQuery.mk page size none
      ∃ all, k.IsNewestFirst rows all ∧ q.apply rows = (all.drop q.offset).take q.limit := by
  refine ⟨⟨fun same entry listed => ?_, fun unread page size rows => ?_⟩, ?_,
    fun page size rows => ⟨_, Listing.isNewestFirst_sorted page size rows, rfl⟩⟩
  · refine Classical.byContradiction fun read => ?_
    obtain ⟨page, size, rows, other⟩ := k.exists_apply_ne fun page size rows =>
      PageQuery.sorted_of_unusable unusable listed read
    exact other (same page size rows)
  · unfold PageQuery.apply PageQuery.sorted
    rw [PageQuery.sortKeys_of_unread unread, PageQuery.sortKeys_of_none]
    rfl
  · rintro ⟨entry, listed, read⟩ page size rows q
    show ((q.sorted rows).drop q.offset).take q.limit = _
    rw [PageQuery.sorted_of_unusable unusable listed read]

/-- Of two orders of accounts without a usable entry, the one with a field that accounts lack is not
the same as none, and the one with no entry that reads is. -/
theorem unusable_order_iff_of_accounts :
    (∀ entry ∈ entriesOf (some "colour"), ¬SortKey.IsUsable Listing.accounts.Row entry) ∧
      (∀ entry ∈ entriesOf (some "name__up,__desc"),
        ¬SortKey.IsUsable Listing.accounts.Row entry) ∧
      (¬∀ page size (rows : List Listing.accounts.Row),
        (PageQuery.mk page size (some "colour")).apply rows =
          (PageQuery.mk page size none).apply rows) ∧
      ∀ page size (rows : List Listing.accounts.Row),
        (PageQuery.mk page size (some "name__up,__desc")).apply rows =
          (PageQuery.mk page size none).apply rows := by
  have lacked : ∀ entry ∈ entriesOf (some "colour"),
      ¬SortKey.IsUsable Listing.accounts.Row entry := by decide
  have unread : ∀ entry ∈ entriesOf (some "name__up,__desc"),
      ¬SortKey.IsUsable Listing.accounts.Row entry := by decide
  refine ⟨lacked, unread, ?_, ?_⟩
  · rw [(unusable_order_iff .accounts (some "colour") lacked).1]
    decide
  · rw [(unusable_order_iff .accounts (some "name__up,__desc") unread).1]
    decide

/-! ## A field that accounts lack -/

/-- Two accounts, the one registered first in front. -/
def sampleAccounts : List Account :=
  [⟨⟨1⟩, "ana", "ana@x", .customer, .ofSeconds 1⟩, ⟨⟨2⟩, "bo", "bo@x", .seller, .ofSeconds 2⟩]

/-- An order by a field that accounts lack is not the same as none. -/
theorem unknown_field_unsorted :
    (∀ entry ∈ entriesOf (some "colour"), ¬SortKey.IsUsable Account entry) ∧
      (PageQuery.mk 1 0 (some "colour")).apply sampleAccounts = sampleAccounts ∧
      (PageQuery.mk 1 0 none).apply sampleAccounts = sampleAccounts.reverse ∧
      (PageQuery.mk 1 0 (some "colour")).apply sampleAccounts ≠
        (PageQuery.mk 1 0 none).apply sampleAccounts := by
  have few : sampleAccounts.length ≤ 10 := by decide
  have unsorted : (PageQuery.mk 1 0 (some "colour")).apply sampleAccounts = sampleAccounts := by
    rw [PageQuery.apply_firstPage few]
    exact PageQuery.sorted_of_unknown (by decide)
  have turned : (PageQuery.mk 1 0 none).apply sampleAccounts = sampleAccounts.reverse := by
    rw [PageQuery.apply_firstPage few]
    exact Listing.sorted_pair (k := .accounts) 1 0 (by decide)
  exact ⟨by decide, unsorted, turned, by rw [unsorted, turned]; decide⟩

end Marketplace
