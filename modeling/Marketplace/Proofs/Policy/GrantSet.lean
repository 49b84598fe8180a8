import Marketplace.Policy.GrantSet
import Marketplace.Proofs.Policy.Grant
import Marketplace.Proofs.Table

/-!
# Grant sets as sets of triples

What a set holds after a triple was added or removed, and that listing it as grants of a subject
lists just the triples that it holds. A set that counts as empty holds nothing.
-/

namespace Marketplace

namespace GrantSet

variable {s : GrantSet} {t a i : String}

/-- The set holds the triple of a grant. -/
def Holds (s : GrantSet) (g : Grant) : Prop := g.resourceId ∈ s.resourceIds g.resourceType g.action

theorem contains_iff {g : Grant} :
    s.contains g.resourceType g.action g.resourceId = true ↔ s.Holds g := by
  unfold contains Holds
  exact List.contains_iff_mem

theorem not_holds_empty (g : Grant) : ¬empty.Holds g := nofun

/-- The resources of every type and action, after those of one were replaced. -/
theorem resourceIds_put (ids : List String) (u b : String) :
    (GrantSet.mk (s.byType.put t ((s.actions t).put a ids))).resourceIds u b =
      if u = t ∧ b = a then ids else s.resourceIds u b := by
  unfold resourceIds actions
  rw [Table.get?_put]
  by_cases hu : u = t
  · subst hu
    simp only [if_pos, Option.getD_some, true_and]
    rw [Table.get?_put]
    split <;> rfl
  · simp [hu]

/-- A resource that is added is listed last of its type and action, unless it was there. -/
theorem resourceIds_insert (s : GrantSet) (t a i u b : String) :
    (s.insert t a i).2.resourceIds u b =
      if (u = t ∧ b = a) ∧ i ∉ s.resourceIds t a then s.resourceIds t a ++ [i]
      else s.resourceIds u b := by
  unfold insert
  split
  · rename_i known
    rw [if_neg fun new => new.2 (List.contains_iff_mem.1 known)]
  · rename_i new
    have new : i ∉ s.resourceIds t a := fun known => new (List.contains_iff_mem.2 known)
    rw [resourceIds_put]
    simp only [new, not_false_eq_true, and_true]

/-- **Adding a triple** adds just that one. -/
theorem holds_insert {g : Grant} :
    (s.insert t a i).2.Holds g ↔
      (g.resourceType = t ∧ g.action = a ∧ g.resourceId = i) ∨ s.Holds g := by
  unfold Holds
  rw [resourceIds_insert]
  by_cases h : g.resourceType = t ∧ g.action = a
  · obtain ⟨rfl, rfl⟩ := h
    by_cases known : i ∈ s.resourceIds g.resourceType g.action
    · rw [if_neg fun new => new.2 known]
      refine ⟨.inr, ?_⟩
      rintro (⟨_, _, rfl⟩ | held)
      · exact known
      · exact held
    · rw [if_pos ⟨⟨rfl, rfl⟩, known⟩]
      simp [or_comm]
  · rw [if_neg fun new => h new.1]
    exact ⟨.inr, fun held => held.resolve_left fun same => h ⟨same.1, same.2.1⟩⟩

theorem get?_dropId (acts : ActionTable) (ids : List String) (b : String) :
    ((dropId acts a ids).get? b).getD [] = if b = a then ids else (acts.get? b).getD [] := by
  unfold dropId
  split
  · rename_i none
    rw [Table.get?_erase]
    split
    · rw [List.isEmpty_iff.1 none]
      rfl
    · rfl
  · rw [Table.get?_put]
    split <;> rfl

/-- The actions of a type, after those of one type were replaced and dropped if none is left. -/
theorem actions_replaced (acts : ActionTable) (u : String) :
    (GrantSet.mk (if acts.isEmpty then s.byType.erase t else s.byType.put t acts)).actions u =
      if u = t then acts else s.actions u := by
  unfold actions
  split
  · rename_i none
    rw [Table.get?_erase]
    split
    · obtain ⟨rows, nodup⟩ := acts
      have : rows = [] := List.isEmpty_iff.1 none
      subst this
      rfl
    · rfl
  · rw [Table.get?_put]
    split <;> rfl

/-- A resource that is removed leaves the others of its type and action in their order. -/
theorem resourceIds_remove (s : GrantSet) (t a i u b : String) :
    (s.remove t a i).2.resourceIds u b =
      if u = t ∧ b = a then (s.resourceIds t a).filter fun j => j ≠ i else s.resourceIds u b := by
  -- where the type or the action is missing there is nothing to remove
  have missing (none : s.resourceIds t a = []) : s.resourceIds u b =
      if u = t ∧ b = a then (s.resourceIds t a).filter fun j => j ≠ i else s.resourceIds u b := by
    split
    · rename_i same
      obtain ⟨rfl, rfl⟩ := same
      rw [none]
      rfl
    · rfl
  unfold remove
  split
  · rename_i ht
    exact missing (by unfold resourceIds actions; rw [ht]; rfl)
  · rename_i acts ht
    have same : s.actions t = acts := by unfold actions; rw [ht]; rfl
    split
    · rename_i ha
      exact missing (by unfold resourceIds; rw [same, ha]; rfl)
    · rename_i ids ha
      have ids_eq : s.resourceIds t a = ids := by unfold resourceIds; rw [same, ha]; rfl
      dsimp only
      rw [ids_eq]
      unfold resourceIds
      rw [actions_replaced]
      by_cases hu : u = t
      · subst hu
        rw [if_pos rfl, get?_dropId, same]
        simp only [true_and]
      · simp [hu]

/-- **Removing a triple** removes just that one. -/
theorem holds_remove {g : Grant} :
    (s.remove t a i).2.Holds g ↔
      s.Holds g ∧ ¬(g.resourceType = t ∧ g.action = a ∧ g.resourceId = i) := by
  unfold Holds
  rw [resourceIds_remove]
  by_cases h : g.resourceType = t ∧ g.action = a
  · obtain ⟨rfl, rfl⟩ := h
    rw [if_pos ⟨rfl, rfl⟩]
    simp
  · rw [if_neg h]
    exact ⟨fun hg => ⟨hg, fun e => h ⟨e.1, e.2.1⟩⟩, fun hg => hg.1⟩

/-- The answer to an addition: whether the triple was new. -/
theorem insert_fst_iff : (s.insert t a i).1 = true ↔ i ∉ s.resourceIds t a := by
  unfold insert contains
  split
  · rename_i known
    exact iff_of_false nofun fun new => new (List.contains_iff_mem.1 known)
  · rename_i new
    exact iff_of_true rfl fun known => new (List.contains_iff_mem.2 known)

/-- The answer to a removal: whether the triple was there. -/
theorem remove_fst_iff : (s.remove t a i).1 = true ↔ i ∈ s.resourceIds t a := by
  unfold remove resourceIds actions
  cases ht : s.byType.get? t with
  | none => exact iff_of_false nofun nofun
  | some acts =>
    dsimp only [Option.getD_some]
    cases ha : acts.get? a with
    | none => exact iff_of_false nofun nofun
    | some ids =>
      -- a list gets shorter exactly when it loses an entry
      simp [List.length_filter_eq_length_iff]

/-- The set after the triple of a grant was added or removed. -/
def changed (m : PolicyMethod) (g : Grant) (s : GrantSet) : GrantSet :=
  match m with
  | .put => (s.insert g.resourceType g.action g.resourceId).2
  | .delete => (s.remove g.resourceType g.action g.resourceId).2

/-- **A change** decides about its own grant, among those of the same subject. -/
theorem holds_changed {m : PolicyMethod} {g h : Grant} (own : h.subject = g.subject) :
    (s.changed m g).Holds h ↔ if h = g then m = .put else s.Holds h := by
  unfold changed
  cases m with
  | put =>
    dsimp only
    rw [holds_insert, Grant.same_triple_iff own]
    split <;> simp [*]
  | delete =>
    dsimp only
    rw [holds_remove, Grant.same_triple_iff own]
    split <;> simp [*]

/-- **The listing of a set** holds its triples as grants of the subject. -/
theorem mem_grants {g : Grant} {subject : String} :
    g ∈ s.grants subject ↔ g.subject = subject ∧ s.Holds g := by
  unfold grants Holds resourceIds actions
  simp only [List.mem_flatMap, List.mem_map, Prod.exists]
  constructor
  · rintro ⟨t, acts, ht, a, ids, ha, i, hi, rfl⟩
    rw [Table.mem_rows_iff.1 ht]
    simp only [Option.getD_some]
    rw [Table.mem_rows_iff.1 ha]
    exact ⟨trivial, hi⟩
  · rintro ⟨rfl, h⟩
    cases ht : s.byType.get? g.resourceType with
    | none =>
      rw [ht] at h
      cases h
    | some acts =>
      simp only [ht, Option.getD_some] at h
      cases ha : acts.get? g.action with
      | none => simp [ha] at h
      | some ids =>
        simp only [ha, Option.getD_some] at h
        exact ⟨_, acts, Table.mem_rows_iff.2 ht, _, ids, Table.mem_rows_iff.2 ha, _, h, rfl⟩

end GrantSet

end Marketplace
