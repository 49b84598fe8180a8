/-!
# Tables

A finite map with its rows in the order of their keys. A key has at most one row; the type says so.
`get?` is the view in which every operation is stated: `get?_put`, `get?_erase`.
-/

namespace Marketplace

/-- Rows of a key and a value, no two with the same key. -/
structure Table (κ ν : Type) where
  rows : List (κ × ν)
  nodup : (rows.map Prod.fst).Nodup

namespace Table

variable {κ ν : Type}

/-- The table without rows. -/
def empty : Table κ ν := ⟨[], List.nodup_nil⟩

instance : Inhabited (Table κ ν) := ⟨empty⟩

def keys (t : Table κ ν) : List κ := t.rows.map Prod.fst

def values (t : Table κ ν) : List ν := t.rows.map Prod.snd

def size (t : Table κ ν) : Nat := t.rows.length

def isEmpty (t : Table κ ν) : Bool := t.rows.isEmpty

/-- Adds a row in front of the first row with a greater key. -/
def insertRow [Ord κ] (k : κ) (v : ν) : List (κ × ν) → List (κ × ν)
  | [] => [(k, v)]
  | r :: rows => if (compare k r.1).isLT then (k, v) :: r :: rows else r :: insertRow k v rows

theorem mem_keys_insertRow [Ord κ] {k j : κ} {v : ν} {rows : List (κ × ν)} :
    j ∈ (insertRow k v rows).map Prod.fst ↔ j = k ∨ j ∈ rows.map Prod.fst := by
  induction rows with
  | nil => simp [insertRow]
  | cons r rows ih =>
    unfold insertRow
    split
    · simp
    · simp only [List.map_cons, List.mem_cons, ih]
      constructor
      · rintro (h | h | h) <;> simp [h]
      · rintro (h | h | h) <;> simp [h]

theorem nodup_insertRow [Ord κ] {k : κ} {v : ν} {rows : List (κ × ν)}
    (hk : k ∉ rows.map Prod.fst) (h : (rows.map Prod.fst).Nodup) :
    ((insertRow k v rows).map Prod.fst).Nodup := by
  induction rows with
  | nil => simp [insertRow]
  | cons r rows ih =>
    unfold insertRow
    split
    · simpa using ⟨by simpa using hk, by simpa using h⟩
    · simp only [List.map_cons, List.nodup_cons, List.mem_cons, not_or] at h hk ⊢
      refine ⟨?_, ih hk.2 h.2⟩
      rw [mem_keys_insertRow]
      rintro (e | e)
      · exact hk.1 e.symm
      · exact h.1 e

section Keyed

variable [DecidableEq κ]

/-- The value in the first row of a key. -/
def find? (k : κ) : List (κ × ν) → Option ν
  | [] => none
  | (j, v) :: rows => if j = k then some v else find? k rows

/-- Writes a new value into the row of a key. -/
def overwrite (k : κ) (v : ν) (rows : List (κ × ν)) : List (κ × ν) :=
  rows.map fun r => if r.1 = k then (k, v) else r

/-- The value of a key. -/
def get? (t : Table κ ν) (k : κ) : Option ν := find? k t.rows

def contains (t : Table κ ν) (k : κ) : Bool := (t.get? k).isSome

theorem find?_eq_none_iff {k : κ} {rows : List (κ × ν)} :
    find? k rows = none ↔ k ∉ rows.map Prod.fst := by
  induction rows with
  | nil => simp [find?]
  | cons r rows ih =>
    obtain ⟨j, v⟩ := r
    by_cases h : j = k
    · simp [find?, h]
    · have h' : ¬k = j := fun e => h e.symm
      simp [find?, h, h', ih]

theorem keys_overwrite (k : κ) (v : ν) (rows : List (κ × ν)) :
    (overwrite k v rows).map Prod.fst = rows.map Prod.fst := by
  induction rows with
  | nil => rfl
  | cons r rows ih =>
    have head : (if r.1 = k then (k, v) else r).1 = r.1 := by
      split
      · rename_i h; exact h.symm
      · rfl
    simp only [overwrite, List.map_cons, head] at ih ⊢
    rw [ih]

/-- Gives a key a value, in the row it has or in a new one. -/
def put [Ord κ] (t : Table κ ν) (k : κ) (v : ν) : Table κ ν :=
  if h : k ∈ t.rows.map Prod.fst then
    ⟨overwrite k v t.rows, by rw [keys_overwrite]; exact t.nodup⟩
  else ⟨insertRow k v t.rows, nodup_insertRow h t.nodup⟩

/-- Removes the row of a key. -/
def erase (t : Table κ ν) (k : κ) : Table κ ν :=
  ⟨t.rows.filter fun r => decide (r.1 ≠ k),
    List.Nodup.sublist (List.Sublist.map _ List.filter_sublist) t.nodup⟩

/-- Keeps the rows whose value passes a test. -/
def keep (p : κ → ν → Bool) (t : Table κ ν) : Table κ ν :=
  ⟨t.rows.filter fun r => p r.1 r.2,
    List.Nodup.sublist (List.Sublist.map _ List.filter_sublist) t.nodup⟩

theorem find?_overwrite {k j : κ} {v : ν} {rows : List (κ × ν)} (h : k ∈ rows.map Prod.fst) :
    find? j (overwrite k v rows) = if j = k then some v else find? j rows := by
  induction rows with
  | nil => simp at h
  | cons r rows ih =>
    obtain ⟨i, w⟩ := r
    by_cases hi : i = k
    · subst hi
      by_cases hj : i = j
      · subst hj
        simp [overwrite, find?]
      · have hj' : ¬j = i := fun e => hj e.symm
        by_cases hm : i ∈ rows.map Prod.fst
        · have := ih hm
          simp only [hj', ite_false] at this
          simpa [overwrite, find?, hj, hj'] using this
        · have : overwrite i v rows = rows := by
            unfold overwrite
            conv => rhs; rw [← List.map_id rows]
            apply List.map_congr_left
            intro r hr
            have : ¬r.1 = i := fun e => hm (e ▸ List.mem_map_of_mem hr)
            simp [this]
          unfold overwrite at this
          simp [overwrite, find?, hj, hj', this]
    · have hm : k ∈ rows.map Prod.fst := by
        simp only [List.map_cons, List.mem_cons] at h
        exact h.resolve_left fun e => hi e.symm
      have := ih hm
      by_cases hj : i = j
      · subst hj
        simp [overwrite, find?, hi]
      · simpa [overwrite, find?, hi, hj] using this

theorem find?_insertRow [Ord κ] {k j : κ} {v : ν} {rows : List (κ × ν)}
    (h : k ∉ rows.map Prod.fst) :
    find? j (insertRow k v rows) = if j = k then some v else find? j rows := by
  induction rows with
  | nil =>
    by_cases hj : k = j
    · simp [insertRow, find?, hj]
    · have hj' : ¬j = k := fun e => hj e.symm
      simp [insertRow, find?, hj, hj']
  | cons r rows ih =>
    obtain ⟨i, w⟩ := r
    simp only [List.map_cons, List.mem_cons, not_or] at h
    unfold insertRow
    split
    · by_cases hj : k = j
      · simp [find?, hj]
      · have hj' : ¬j = k := fun e => hj e.symm
        simp [find?, hj, hj']
    · rw [find?, find?, ih h.2]
      by_cases hi : i = j
      · have : ¬j = k := fun e => h.1 (e ▸ hi.symm)
        simp [hi, this]
      · simp [hi]

/-- After writing a row, that key has the new value and every other key the value it had. -/
theorem get?_put [Ord κ] (t : Table κ ν) (k j : κ) (v : ν) :
    (t.put k v).get? j = if j = k then some v else t.get? j := by
  unfold put
  split
  · rename_i h; exact find?_overwrite h
  · rename_i h; exact find?_insertRow h

theorem find?_filter_ne {k j : κ} {rows : List (κ × ν)} :
    find? j (rows.filter fun r => decide (r.1 ≠ k)) = if j = k then none else find? j rows := by
  induction rows with
  | nil => simp [find?]
  | cons r rows ih =>
    obtain ⟨i, w⟩ := r
    by_cases hi : i = k
    · subst hi
      simp only [ne_eq, not_true_eq_false, decide_false, Bool.false_eq_true, not_false_eq_true,
        List.filter_cons_of_neg, ih, find?]
      by_cases hj : j = i
      · simp [hj]
      · have : ¬i = j := fun e => hj e.symm
        simp [hj, this]
    · rw [List.filter_cons_of_pos (by simpa using hi), find?, ih, find?]
      by_cases hj : i = j
      · subst hj
        simp [hi]
      · simp [hj]

/-- After removing a row, that key has no value and every other key the value it had. -/
theorem get?_erase (t : Table κ ν) (k j : κ) :
    (t.erase k).get? j = if j = k then none else t.get? j := find?_filter_ne

/-- A table holds a row exactly when `get?` finds its value under its key. -/
theorem mem_rows_iff {t : Table κ ν} {k : κ} {v : ν} : (k, v) ∈ t.rows ↔ t.get? k = some v := by
  obtain ⟨rows, nodup⟩ := t
  simp only [get?]
  induction rows with
  | nil => simp [find?]
  | cons r rows ih =>
    obtain ⟨i, w⟩ := r
    simp only [List.map_cons, List.nodup_cons] at nodup
    have ih := ih nodup.2
    by_cases hi : i = k
    · subst hi
      have hn : (i, v) ∉ rows := fun h => nodup.1 (List.mem_map_of_mem h)
      simp only [List.mem_cons, Prod.mk.injEq, true_and, hn, or_false, find?, ite_true,
        Option.some.injEq]
      exact eq_comm
    · have hi' : ¬k = i := fun e => hi e.symm
      simp [find?, hi, hi', ih]

end Keyed

end Table

end Marketplace
