import Marketplace.Table

/-!
# Writing to a table

Rows stay when others are written. The sum of an amount that every row of a table contributes
changes with the row that is written: a new row adds its amount, a row that counts differently moves
the total by the difference.
-/

namespace Marketplace

namespace Table

variable {κ ν : Type}

/-- The sum of the amounts of some rows. -/
def sumRows (f : κ → ν → Nat) : List (κ × ν) → Nat
  | [] => 0
  | r :: rows => f r.1 r.2 + sumRows f rows

/-- The sum of the amounts of all rows. -/
def total (f : κ → ν → Nat) (t : Table κ ν) : Nat := sumRows f t.rows

theorem sumRows_cons (f : κ → ν → Nat) (k : κ) (v : ν) (rows : List (κ × ν)) :
    sumRows f ((k, v) :: rows) = f k v + sumRows f rows :=
  rfl

theorem sumRows_insertRow [Ord κ] (f : κ → ν → Nat) (k : κ) (v : ν) (rows : List (κ × ν)) :
    sumRows f (insertRow k v rows) = f k v + sumRows f rows := by
  induction rows with
  | nil => simp [insertRow, sumRows]
  | cons r rows ih =>
    obtain ⟨j, w⟩ := r
    unfold insertRow
    split
    · rw [sumRows_cons]
    · rw [sumRows_cons, ih, sumRows_cons]
      omega

theorem sumRows_congr {f g : κ → ν → Nat} : ∀ {rows : List (κ × ν)},
    (∀ k v, (k, v) ∈ rows → f k v = g k v) → sumRows f rows = sumRows g rows
  | [], _ => rfl
  | (k, v) :: rows, h => by
    rw [sumRows_cons, sumRows_cons, h k v List.mem_cons_self,
      sumRows_congr fun j w hj => h j w (List.mem_cons_of_mem _ hj)]

/-- A key stands in one row only, so amounts that differ at one key differ in one summand. -/
theorem sumRows_shift {f g : κ → ν → Nat} {k : κ} {v : ν} {rows : List (κ × ν)}
    (nodup : (rows.map Prod.fst).Nodup) (hk : (k, v) ∈ rows)
    (h : ∀ j w, j ≠ k → f j w = g j w) :
    sumRows f rows + g k v = sumRows g rows + f k v := by
  induction rows with
  | nil => cases hk
  | cons r rows ih =>
    obtain ⟨i, u⟩ := r
    rw [List.map_cons, List.nodup_cons] at nodup
    rw [sumRows_cons, sumRows_cons]
    rcases List.mem_cons.1 hk with he | hk
    · cases he
      have rest : sumRows f rows = sumRows g rows := by
        apply sumRows_congr
        intro j w hj
        apply h
        rintro rfl
        exact nodup.1 (List.mem_map.2 ⟨(j, w), hj, rfl⟩)
      rw [rest]
      omega
    · have hi : i ≠ k := by
        rintro rfl
        exact nodup.1 (List.mem_map.2 ⟨(i, v), hk, rfl⟩)
      have := ih nodup.2 hk
      rw [h i u hi]
      omega

theorem total_zero (t : Table κ ν) : t.total (fun _ _ => 0) = 0 := by
  unfold total
  induction t.rows with
  | nil => rfl
  | cons r rows ih => rw [sumRows_cons, ih]

variable [DecidableEq κ] {t : Table κ ν} {f g : κ → ν → Nat} {k : κ} {v : ν}

/-- Writing what is there already changes nothing. -/
theorem put_eq_self [Ord κ] (h : t.get? k = some v) : t.put k v = t := by
  have hm := mem_rows_iff.2 h
  have hk : k ∈ t.rows.map Prod.fst := List.mem_map.2 ⟨(k, v), hm, rfl⟩
  have rows : overwrite k v t.rows = t.rows := by
    unfold overwrite
    conv => rhs; rw [← List.map_id t.rows]
    apply List.map_congr_left
    rintro ⟨j, w⟩ hj
    show (if j = k then (k, v) else (j, w)) = (j, w)
    split
    · rename_i he
      subst he
      have : some w = some v := by rw [← h, mem_rows_iff.1 hj]
      cases this
      rfl
    · rfl
  obtain ⟨rs, nodup⟩ := t
  unfold put
  simp only [dif_pos hk, rows]

theorem contains_iff : t.contains k = true ↔ ∃ v, t.get? k = some v := Option.isSome_iff_exists

theorem mem_keys_iff : k ∈ t.keys ↔ t.contains k = true := by
  rw [contains_iff]
  constructor
  · intro h
    obtain ⟨r, hr, rfl⟩ := List.mem_map.1 h
    exact ⟨r.2, mem_rows_iff.1 hr⟩
  · rintro ⟨v, hv⟩
    exact List.mem_map.2 ⟨(k, v), mem_rows_iff.2 hv, rfl⟩

theorem mem_values_iff : v ∈ t.values ↔ ∃ k, t.get? k = some v := by
  constructor
  · intro h
    obtain ⟨r, hr, rfl⟩ := List.mem_map.1 h
    exact ⟨r.1, mem_rows_iff.1 hr⟩
  · rintro ⟨k, hk⟩
    exact List.mem_map.2 ⟨(k, v), mem_rows_iff.2 hk, rfl⟩

/-- Tables with the same keys have the same size. -/
theorem size_congr {u : Table κ ν} (same : ∀ k, (t.get? k).isSome = (u.get? k).isSome) :
    t.size = u.size := by
  have perm : t.keys.Perm u.keys := by
    apply (List.perm_ext_iff_of_nodup t.nodup u.nodup).2
    intro k
    show k ∈ t.keys ↔ k ∈ u.keys
    rw [mem_keys_iff, mem_keys_iff]
    unfold contains
    rw [same]
  have := perm.length_eq
  unfold keys at this
  rwa [List.length_map, List.length_map] at this

theorem find?_filter {p : κ → ν → Bool} : ∀ {rows : List (κ × ν)},
    (rows.map Prod.fst).Nodup →
    find? k (rows.filter fun r => p r.1 r.2) = (find? k rows).filter (p k)
  | [], _ => rfl
  | (j, v) :: rows, nodup => by
    rw [List.map_cons, List.nodup_cons] at nodup
    have ih := find?_filter (p := p) nodup.2
    by_cases hj : j = k
    · subst hj
      have gone : find? j rows = none := find?_eq_none_iff.2 nodup.1
      cases hp : p j v with
      | true => simp [find?, hp, Option.filter]
      | false => simp [find?, hp, ih, gone, Option.filter]
    · cases hp : p j v with
      | true => simp [find?, hp, hj, ih]
      | false => simp [find?, hp, hj, ih]

/-- A row is kept if its value passes the test. -/
theorem get?_keep (p : κ → ν → Bool) (t : Table κ ν) (k : κ) :
    (t.keep p).get? k = (t.get? k).filter (p k) :=
  find?_filter t.nodup

theorem get?_put_self [Ord κ] (t : Table κ ν) (k : κ) (v : ν) : (t.put k v).get? k = some v :=
  (get?_put t k k v).trans (if_pos rfl)

theorem get?_put_of_ne [Ord κ] {j : κ} (h : j ≠ k) : (t.put k v).get? j = t.get? j :=
  (get?_put t k j v).trans (if_neg h)

theorem get?_erase_of_ne {j : κ} (h : j ≠ k) : (t.erase k).get? j = t.get? j :=
  (get?_erase t k j).trans (if_neg h)

/-- A row that is there after another was erased was there before. -/
theorem get?_of_get?_erase {j : κ} (h : (t.erase k).get? j = some v) : t.get? j = some v := by
  rw [get?_erase] at h
  split at h
  · cases h
  · exact h

theorem isSome_get?_put [Ord κ] {j : κ} (h : (t.get? j).isSome) :
    ((t.put k v).get? j).isSome := by
  rw [get?_put]
  split
  · rfl
  · exact h

/-- A row stays when another is written for the first time. -/
theorem get?_put_of_none [Ord κ] {j : κ} {w : ν} (first : t.get? k = none)
    (h : t.get? j = some w) : (t.put k v).get? j = some w := by
  rw [get?_put, if_neg, h]
  rintro rfl
  rw [first] at h
  cases h

theorem total_congr (h : ∀ k v, t.get? k = some v → f k v = g k v) : t.total f = t.total g :=
  sumRows_congr fun k v hkv => h k v (mem_rows_iff.1 hkv)

theorem total_put_of_none [Ord κ] (h : t.get? k = none) :
    (t.put k v).total f = f k v + t.total f := by
  have hk : k ∉ t.rows.map Prod.fst := find?_eq_none_iff.1 h
  unfold total put
  rw [dif_neg hk]
  exact sumRows_insertRow f k v t.rows

theorem total_shift (hk : t.get? k = some v) (h : ∀ j w, j ≠ k → f j w = g j w) :
    t.total f + g k v = t.total g + f k v :=
  sumRows_shift t.nodup (mem_rows_iff.2 hk) h

end Table

end Marketplace
