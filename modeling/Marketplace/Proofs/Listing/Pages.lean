import Mathlib.Algebra.Group.Nat.Defs
import Marketplace.Proofs.Listing.Order

/-!
# Pages

A listing is sorted as a whole and cut into pages of one length. The pages make up the listing: the
first ones are full, the last one holds the rest, and nothing is on the ones after it. The number of
rows before a page stops at the greatest number of 64 bits, which is past the end of any listing
that fits in a memory addressed by 64 bits, so that a page far out is empty as it should be.

## Results

* `PageQuery.apply_eq`: the rows of a page are those at its place in the sorted rows.
* `isPaging_slices`: a list cut into slices of one length.
* `pages_make_up_listing`: the pages of a listing, whatever is listed.
-/

namespace Marketplace

variable {α : Type}

/-! ## Slices -/

/-- The piece of a list at a place, counted in pieces of one length. -/
def slice (limit i : Nat) (l : List α) : List α := (l.drop (i * limit)).take limit

/-- The number of pieces that a list of some length is cut into. -/
def pieces (limit length : Nat) : Nat := (length + (limit - 1)) / limit

section Slice

variable {limit i m : Nat} {l : List α}

theorem lt_pieces_iff {n : Nat} (pos : 0 < limit) : i < pieces limit n ↔ i * limit < n := by
  have : (i + 1) * limit = i * limit + limit := Nat.succ_mul i limit
  unfold pieces
  rw [← Nat.succ_le_iff, Nat.succ_eq_add_one, Nat.le_div_iff_mul_le pos]
  omega

theorem length_slice : (slice limit i l).length = min limit (l.length - i * limit) := by
  rw [slice, List.length_take, List.length_drop]

/-- The pieces in front of a place are what is in front of it. -/
theorem flatMap_slice (limit : Nat) (l : List α) : ∀ m : Nat,
    ((List.range m).flatMap fun i => slice limit i l) = l.take (m * limit)
  | 0 => by simp
  | m + 1 => by
    rw [List.range_succ, List.flatMap_append, flatMap_slice limit l m, Nat.succ_mul,
      List.take_add]
    simp [slice]

end Slice

/-! ## Pages of a list -/

/-- Pages make up a list. There are `count` of them, all full but the last, which holds something;
page zero is page one, and the pages after the last are empty. -/
structure IsPaging (page : UInt64 → List α) (limit count : Nat) (all : List α) : Prop where
  fits : count < 2 ^ 64
  joined : ((List.range count).flatMap fun i => page (.ofNat (i + 1))) = all
  full : ∀ n : UInt64, 0 < n.toNat → n.toNat < count → (page n).length = limit
  last : ∀ n : UInt64, 0 < n.toNat → n.toNat = count →
    0 < (page n).length ∧ (page n).length ≤ limit
  beyond : ∀ n : UInt64, count < n.toNat → page n = []
  zero : page 0 = page 1

/-- **A list cut into slices of one length.** -/
theorem isPaging_slices {limit : Nat} (pos : 0 < limit) {l : List α} (fits : l.length < 2 ^ 64) :
    IsPaging (fun n => slice limit (n.toNat - 1) l) limit (pieces limit l.length) l := by
  have count_le : pieces limit l.length ≤ l.length := by
    apply Nat.le_of_not_lt
    rw [lt_pieces_iff pos, Nat.not_lt]
    exact Nat.le_mul_of_pos_right l.length pos
  have covered : l.length ≤ pieces limit l.length * limit := by
    rw [← Nat.not_lt, ← lt_pieces_iff pos]
    exact Nat.lt_irrefl _
  -- a page starts one page before the next
  have start {n : UInt64} (h : 0 < n.toNat) :
      (n.toNat - 1) * limit + limit = n.toNat * limit := by
    rw [← Nat.succ_mul, Nat.succ_eq_add_one, Nat.sub_add_cancel h]
  constructor
  case fits => exact Nat.lt_of_le_of_lt count_le fits
  case joined =>
    have number : ∀ i ∈ List.range (pieces limit l.length),
        slice limit ((UInt64.ofNat (i + 1)).toNat - 1) l = slice limit i l := by
      intro i hi
      have small := List.mem_range.1 hi
      rw [UInt64.toNat_ofNat_of_lt' (show i + 1 < 2 ^ 64 by omega), Nat.add_sub_cancel]
    rw [List.flatMap_def, List.map_congr_left number, ← List.flatMap_def, flatMap_slice,
      List.take_of_length_le covered]
  case full =>
    intro n h before
    have := start h
    have := (lt_pieces_iff pos).1 before
    rw [length_slice]
    omega
  case last =>
    intro n h at_end
    have := (lt_pieces_iff (i := n.toNat - 1) (n := l.length) pos).1 (by omega)
    rw [length_slice]
    omega
  case beyond =>
    intro n after
    have far : l.length ≤ (n.toNat - 1) * limit := by
      rw [← Nat.not_lt, ← lt_pieces_iff pos]
      omega
    rw [slice, List.drop_eq_nil_of_le far, List.take_nil]
  case zero => rfl

/-! ## Pages of a listing -/

namespace PageQuery

variable [Sortable α] {rows : List α}

theorem limit_pos (q : PageQuery) : 0 < q.limit := by
  unfold limit
  split
  · decide
  · rename_i some_size
    have : q.pageSize.toNat ≠ 0 := fun none => some_size (UInt64.toNat_inj.1 none)
    omega

/-- **The rows of a page** are those at its place in the sorted rows. Past the greatest number of
64 bits there are none. -/
theorem apply_eq (q : PageQuery) (fits : rows.length < 2 ^ 64) :
    q.apply rows = slice q.limit (q.page.toNat - 1) (q.sorted rows) := by
  have length := q.length_sorted rows
  unfold apply slice offset
  by_cases near : (q.page.toNat - 1) * q.limit ≤ 18446744073709551615
  · rw [Nat.min_eq_left near]
  · rw [Nat.min_eq_right (Nat.le_of_not_le near), List.drop_eq_nil_of_le (by omega),
      List.drop_eq_nil_of_le (by omega)]

end PageQuery

/-- **The pages of a listing make it up.** Every page of a store that answers is a list of rows, and
the pages are those of one list: the rows that the filter allows, each as often as it is stored, in
the order of the keys asked for, those that no key tells apart in the order of the store. A page
holds ten rows unless asked otherwise, and never more than a hundred. -/
theorem pages_make_up_listing (k : Listing) (s : k.Store) (f : ResourceFilter) (size : UInt64)
    (orderBy : Option String) (up : k.isDown s = false) (fits : (k.rows s).length < 2 ^ 64) :
    ∃ (page : UInt64 → List k.Row) (all : List k.Row) (count : Nat),
      (∀ n, k.list f ⟨n, size, orderBy⟩ s = .ok (page n)) ∧
      SortKey.IsSorting (PageQuery.mk 0 size orderBy).sortKeys
        ((k.rows s).filter fun r => f.allows (k.key r)) all ∧
      IsPaging page (if size = 0 then 10 else min size.toNat 100) count all ∧
      ∀ n, (PageQuery.mk n size orderBy).offset < 2 ^ 64 := by
  let q (n : UInt64) : PageQuery := ⟨n, size, orderBy⟩
  let allowed := (k.rows s).filter fun r => f.allows (k.key r)
  have few : allowed.length < 2 ^ 64 := Nat.lt_of_le_of_lt (List.length_filter_le _ _) fits
  -- the number of the page has no part in the order, nor in the length of a page
  have pages (n : UInt64) : (q n).apply allowed =
      slice (q 0).limit (n.toNat - 1) ((q 0).sorted allowed) := (q n).apply_eq few
  refine ⟨fun n => (q n).apply allowed, (q 0).sorted allowed, pieces (q 0).limit allowed.length,
    fun n => Listing.list_of_up up f (q n), (q 0).isSorting_sorted allowed, ?_, ?_⟩
  · have cut := isPaging_slices (q 0).limit_pos (l := (q 0).sorted allowed)
      (by rw [PageQuery.length_sorted]; exact few)
    rw [PageQuery.length_sorted] at cut
    rw [funext pages]
    exact cut
  · intro n
    unfold PageQuery.offset
    omega

/-- An entry of five units, two of three units and one of nine, the oldest first. -/
def sampleLedger : PaymentStore :=
  { PaymentStore.empty with
    ledger := [⟨⟨.ofNat 1⟩, .ofUnits 5, ⟨7⟩, true, none, .ofSeconds 1⟩,
      ⟨⟨.ofNat 2⟩, .ofUnits 3, ⟨7⟩, false, some ⟨.ofNat 1⟩, .ofSeconds 2⟩,
      ⟨⟨.ofNat 3⟩, .ofUnits 9, ⟨8⟩, true, none, .ofSeconds 3⟩,
      ⟨⟨.ofNat 4⟩, .ofUnits 3, ⟨7⟩, false, some ⟨.ofNat 2⟩, .ofSeconds 4⟩] }

/-- A caller who may not see the greatest entry lists two to a page. The text reads as a field that
entries do not have, and then their amount, falling; what has two pairs of underscores is no key. -/
theorem pages_make_up_listing_of_sampleLedger :
    let allowed : ResourceFilter := .only ([1, 2, 4].map fun n => toString (Uuid.ofNat n))
    let keys := (PageQuery.mk 0 2 (some "colour, amount __desc,a__b__c")).sortKeys
    keys = [⟨"colour", .ascending⟩, ⟨"amount", .descending⟩] ∧
      sampleLedger.isDown = false ∧ sampleLedger.ledger.length < 2 ^ 64 ∧
      ∃ (page : UInt64 → List Transaction) (all : List Transaction) (count : Nat),
        (∀ n, sampleLedger.list allowed ⟨n, 2, some "colour, amount __desc,a__b__c"⟩ =
          .ok (page n)) ∧
        SortKey.IsSorting keys
          (sampleLedger.ledger.filter fun t => allowed.allows (toString t.id)) all ∧
        IsPaging page 2 count all := by
  intro allowed keys
  obtain ⟨page, all, count, listed, sorting, paging, _⟩ :=
    pages_make_up_listing .transactions sampleLedger allowed 2
      (some "colour, amount __desc,a__b__c") rfl (by decide)
  exact ⟨by decide +kernel, rfl, by decide, page, all, count, listed, sorting, paging⟩

end Marketplace
