import Mathlib.Data.List.Nodup
import Marketplace.Proofs.Policy.Cache

/-!
# Grant sets without empty parts

A set that was built by adding and removing triples has no type without actions, no action without
resources, and no resource twice under one action. Such a set counts as empty exactly when it lists
no grants, and it lists every grant once. What a fetch finds is a set of this kind.

## Results

* `Tidy.insert`, `Tidy.remove`: a change leaves no empty part and repeats nothing.
* `Tidy.isEmpty_iff`, `Tidy.nodup_grants`: what that means for the listing.
* `Fetched.tidy_ofAnswers`: whatever a source answers.
-/

namespace Marketplace

namespace Table

variable {κ ν β : Type}

/-- What the rows of a table list holds nothing twice if no row does, and if what a row lists tells
its key. -/
theorem nodup_flatMap {t : Table κ ν} {f : κ × ν → List β} (key : β → κ)
    (each : ∀ r ∈ t.rows, (f r).Nodup) (told : ∀ r ∈ t.rows, ∀ b ∈ f r, key b = r.1) :
    (t.rows.flatMap f).Nodup := by
  rw [List.nodup_flatMap]
  refine ⟨each, ?_⟩
  have differ : t.rows.Pairwise fun r r' => r.1 ≠ r'.1 := List.pairwise_map.1 t.nodup
  refine differ.imp_of_mem ?_
  intro r r' hr hr' ne b hb hb'
  exact ne ((told r hr b hb).symm.trans (told r' hr' b hb'))

variable [DecidableEq κ] [Ord κ]

theorem rows_put_ne_nil (t : Table κ ν) (k : κ) (v : ν) : (t.put k v).rows ≠ [] :=
  List.ne_nil_of_mem (mem_rows_iff.2 (get?_put_self t k v))

end Table

namespace GrantSet

variable {s : GrantSet} {t a i : String}

/-- Every action has resources, each of them once. -/
def Listed (acts : ActionTable) : Prop :=
  ∀ a ids, acts.get? a = some ids → ids ≠ [] ∧ ids.Nodup

/-- Every type has actions, and every action has resources, each of them once. -/
def Tidy (s : GrantSet) : Prop :=
  ∀ t acts, s.byType.get? t = some acts → acts.rows ≠ [] ∧ Listed acts

theorem tidy_empty : empty.Tidy := fun _ _ h => nomatch h

namespace Tidy

theorem listed (h : s.Tidy) (t : String) : Listed (s.actions t) := by
  unfold actions
  cases ht : s.byType.get? t with
  | none => exact fun _ _ ha => nomatch ha
  | some acts => exact (h t acts ht).2

theorem nodup_resourceIds (h : s.Tidy) (t a : String) : (s.resourceIds t a).Nodup := by
  unfold resourceIds
  cases ha : (s.actions t).get? a with
  | none => exact List.nodup_nil
  | some ids => exact (h.listed t a ids ha).2

/-- **Adding a triple** leaves no empty part and repeats nothing. -/
theorem insert (h : s.Tidy) (t a i : String) : (s.insert t a i).2.Tidy := by
  unfold GrantSet.insert
  split
  · exact h
  · rename_i new
    have new : i ∉ s.resourceIds t a := fun known => new (List.contains_iff_mem.2 known)
    have longer : (s.resourceIds t a ++ [i]).Nodup :=
      (h.nodup_resourceIds t a).append (List.nodup_singleton i) (List.disjoint_singleton.2 new)
    intro u acts hu
    rw [Table.get?_put] at hu
    split at hu
    · cases hu
      refine ⟨Table.rows_put_ne_nil _ _ _, fun b ids hb => ?_⟩
      rw [Table.get?_put] at hb
      split at hb
      · cases hb
        exact ⟨List.append_ne_nil_of_right_ne_nil _ (List.cons_ne_nil i []), longer⟩
      · exact h.listed t b ids hb
    · exact h u acts hu

/-- What is left of the actions of a type has resources, each of them once. -/
theorem listed_dropId {acts : ActionTable} {a : String} {ids : List String} (h : Listed acts)
    (once : ids.Nodup) : Listed (dropId acts a ids) := by
  intro b js hb
  unfold dropId at hb
  split at hb
  · exact h b js (Table.get?_of_get?_erase hb)
  · rename_i filled
    rw [Table.get?_put] at hb
    split at hb
    · cases hb
      exact ⟨fun none => filled (none ▸ rfl), once⟩
    · exact h b js hb

/-- **Removing a triple** leaves no empty part and repeats nothing. -/
theorem remove (h : s.Tidy) (t a i : String) : (s.remove t a i).2.Tidy := by
  unfold GrantSet.remove
  split
  · exact h
  · rename_i acts ht
    have listed := (h t acts ht).2
    split
    · exact h
    · rename_i ids ha
      have left : Listed (dropId acts a (ids.filter fun j => j ≠ i)) :=
        listed_dropId listed ((listed a ids ha).2.filter _)
      dsimp only
      intro u acts' hu
      split at hu
      · exact h u acts' (Table.get?_of_get?_erase hu)
      · rename_i filled
        rw [Table.get?_put] at hu
        split at hu
        · cases hu
          exact ⟨fun none => filled (List.isEmpty_iff.2 none), left⟩
        · exact h u acts' hu

/-- **A set counts as empty exactly when it lists no grants.** -/
theorem isEmpty_iff (h : s.Tidy) (subject : String) :
    s.isEmpty = true ↔ s.grants subject = [] := by
  unfold GrantSet.isEmpty Table.isEmpty
  rw [List.isEmpty_iff]
  constructor
  · intro none
    unfold grants
    rw [none]
    rfl
  · intro none
    rw [List.eq_nil_iff_forall_not_mem]
    rintro ⟨t, acts⟩ ht
    -- the first resource of the first action of a type is listed
    obtain ⟨filled, each⟩ := h t acts (Table.mem_rows_iff.1 ht)
    obtain ⟨⟨a, ids⟩, ha⟩ := List.exists_mem_of_ne_nil _ filled
    obtain ⟨i, hi⟩ := List.exists_mem_of_ne_nil _ (each a ids (Table.mem_rows_iff.1 ha)).1
    have listed : (⟨subject, t, a, i⟩ : Grant) ∈ s.grants subject :=
      List.mem_flatMap.2 ⟨_, ht, List.mem_flatMap.2 ⟨_, ha, List.mem_map_of_mem hi⟩⟩
    rw [none] at listed
    cases listed

/-- **No grant is listed twice.** -/
theorem nodup_grants (h : s.Tidy) (subject : String) : (s.grants subject).Nodup := by
  unfold grants
  refine Table.nodup_flatMap Grant.resourceType ?_ ?_
  · rintro ⟨t, acts⟩ ht
    refine Table.nodup_flatMap Grant.action ?_ ?_
    · rintro ⟨a, ids⟩ ha
      have once := ((h t acts (Table.mem_rows_iff.1 ht)).2 a ids (Table.mem_rows_iff.1 ha)).2
      exact once.map fun i j same => (Grant.mk.inj same).2.2.2
    · rintro ⟨a, ids⟩ _ g hg
      obtain ⟨i, _, rfl⟩ := List.mem_map.1 hg
      rfl
  · rintro ⟨t, acts⟩ _ g hg
    obtain ⟨⟨a, ids⟩, _, hg⟩ := List.mem_flatMap.1 hg
    obtain ⟨i, _, rfl⟩ := List.mem_map.1 hg
    rfl

end Tidy

end GrantSet

namespace Fetched

variable {subject : String}

theorem tidy_addText {s : GrantSet} (h : s.Tidy) (text : String) : (addText subject s text).Tidy := by
  unfold addText
  split
  · split
    · exact h.insert _ _ _
    · exact h
  · exact h

theorem tidy_add {f : Fetched} (h : f.grants.Tidy) (answer : Except PolicyError (List String)) :
    (f.add subject answer).grants.Tidy := by
  unfold add
  cases answer with
  | error e => exact h
  | ok texts =>
    exact List.foldlRecOn texts (addText subject) h fun _ hs text _ => tidy_addText hs text

/-- **What a fetch finds** has no empty parts and repeats nothing. -/
theorem tidy_ofAnswers (subject : String) (answers : List (Except PolicyError (List String))) :
    (ofAnswers subject answers).grants.Tidy :=
  List.foldlRecOn (motive := fun f => f.grants.Tidy) answers (add subject) GrantSet.tidy_empty
    fun _ hf answer _ => tidy_add hf answer

end Fetched

end Marketplace
