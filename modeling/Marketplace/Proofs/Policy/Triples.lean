import Mathlib.Data.Finset.Card
import Mathlib.Data.List.Induction
import Marketplace.Proofs.Policy.Tidy

/-!
# Grant sets as finite sets of triples

A grant set is changed by edits: a triple of a resource type, an action and a resource is added or
removed. The same edits change a finite set of triples, in which there are no types, no actions and
no order. What a grant set answers, counts and lists after any edits is told by that set, and the
order in which it lists the resources of a type and an action by the places of the edits that added
them.

## Results

* `GrantSet.exists_lastAddedAt`: a triple that is in the set was added at a last place.
* `IsListing.unique`: the edits leave no choice of what is listed, nor in which order.
* `Agrees.after`: every edit keeps a grant set in agreement with the set of triples.
* `GrantSet.represents_edited`: what holds after any edits.
-/

namespace Marketplace

/-- A resource type, an action and a resource. -/
structure Triple where
  resourceType : String
  action : String
  resourceId : String
  deriving DecidableEq

/-- What a grant says of its subject. -/
def Grant.triple (g : Grant) : Triple := ⟨g.resourceType, g.action, g.resourceId⟩

namespace GrantSet

/-! ## Edits -/

/-- One change of a set. -/
inductive Edit where
  | insert (x : Triple)
  | remove (x : Triple)

namespace Edit

/-- What is answered, and the grant set after the edit. -/
def run (s : GrantSet) : Edit → Bool × GrantSet
  | insert x => s.insert x.resourceType x.action x.resourceId
  | remove x => s.remove x.resourceType x.action x.resourceId

/-- The set of triples after the edit. -/
def onTriples (xs : Finset Triple) : Edit → Finset Triple
  | insert x => Insert.insert x xs
  | remove x => xs.erase x

end Edit

/-- The grant set after some edits. -/
def edited (s : GrantSet) (edits : List Edit) : GrantSet := edits.foldl (fun s e => (e.run s).2) s

/-- The set of triples after some edits, from one without any. -/
def triples (edits : List Edit) : Finset Triple := edits.foldl Edit.onTriples ∅

/-- At this place of some edits the triple is added, and was not in the set. -/
def AddedAt (edits : List Edit) (place : Nat) (x : Triple) : Prop :=
  edits[place]? = some (.insert x) ∧ x ∉ triples (edits.take place)

/-- This is the last place at which the triple is added. -/
def LastAddedAt (edits : List Edit) (place : Nat) (x : Triple) : Prop :=
  AddedAt edits place x ∧ ∀ other, AddedAt edits other x → other ≤ place

/-- One triple was last added before another was. -/
def AddedBefore (edits : List Edit) (x y : Triple) : Prop :=
  ∃ k l, LastAddedAt edits k x ∧ LastAddedAt edits l y ∧ k < l

/-- The resources of a type and an action, in the order in which they were last added. -/
structure IsListing (edits : List Edit) (t a : String) (ids : List String) : Prop where
  mem : ∀ i, i ∈ ids ↔ ⟨t, a, i⟩ ∈ triples edits
  inOrder : ids.Pairwise fun i j => AddedBefore edits ⟨t, a, i⟩ ⟨t, a, j⟩

/-- What a grant set answers, counts and lists is told by the edits. -/
structure Represents (s : GrantSet) (edits : List Edit) : Prop where
  /-- Adding answers whether the triple was new, removing whether it was there. -/
  insert_iff : ∀ x, (Edit.run s (.insert x)).1 = true ↔ x ∉ triples edits
  remove_iff : ∀ x, (Edit.run s (.remove x)).1 = true ↔ x ∈ triples edits
  listing : ∀ t a ids, IsListing edits t a ids ↔ ids = s.resourceIds t a
  /-- Every triple is listed as a grant of the subject, and only once. -/
  grants : ∀ subject, (s.grants subject).Nodup ∧
    ∀ g, g ∈ s.grants subject ↔ g.subject = subject ∧ g.triple ∈ triples edits
  size : s.size = (triples edits).card
  isEmpty_iff : s.isEmpty = true ↔ triples edits = ∅
  size_iff : s.size = 0 ↔ s.isEmpty = true
  grants_iff : ∀ subject, s.grants subject = [] ↔ s.isEmpty = true
  /-- No type is left without actions, and no action without resources. -/
  tidy : s.Tidy

variable {s : GrantSet} {edits : List Edit} {e : Edit} {x y : Triple} {k : Nat}

theorem triples_concat (edits : List Edit) (e : Edit) :
    triples (edits ++ [e]) = e.onTriples (triples edits) :=
  List.foldl_concat ..

/-! ## The places of additions -/

theorem AddedAt.lt (h : AddedAt edits k x) : k < edits.length :=
  (List.getElem?_eq_some_iff.1 h.1).1

/-- One more edit leaves the places before it as they are. -/
theorem addedAt_concat_of_lt (before : k < edits.length) :
    AddedAt (edits ++ [e]) k x ↔ AddedAt edits k x := by
  unfold AddedAt
  rw [List.getElem?_append_left before, List.take_append_of_le_length (Nat.le_of_lt before)]

/-- The latest edit adds a triple if it is the addition of one that was not there. -/
theorem addedAt_concat_length :
    AddedAt (edits ++ [e]) edits.length x ↔ e = .insert x ∧ x ∉ triples edits := by
  unfold AddedAt
  rw [List.getElem?_concat_length, List.take_left, Option.some.injEq]

theorem AddedAt.of_concat (h : AddedAt (edits ++ [e]) k x) :
    AddedAt edits k x ∨ k = edits.length ∧ e = .insert x ∧ x ∉ triples edits := by
  have inBounds := h.lt
  rw [List.length_append, List.length_singleton] at inBounds
  rcases Nat.lt_succ_iff_lt_or_eq.1 inBounds with before | rfl
  · exact .inl ((addedAt_concat_of_lt before).1 h)
  · exact .inr ⟨rfl, addedAt_concat_length.1 h⟩

/-- A last place stays the last one unless the triple is added once more. -/
theorem LastAddedAt.concat (h : LastAddedAt edits k x)
    (old : e = .insert x → x ∈ triples edits) : LastAddedAt (edits ++ [e]) k x := by
  refine ⟨(addedAt_concat_of_lt h.1.lt).2 h.1, fun other added => ?_⟩
  rcases added.of_concat with before | ⟨_, again, new⟩
  · exact h.2 other before
  · exact (new (old again)).elim

/-- A triple that is added has its last place there. -/
theorem lastAddedAt_concat_length (new : x ∉ triples edits) :
    LastAddedAt (edits ++ [.insert x]) edits.length x := by
  refine ⟨addedAt_concat_length.2 ⟨rfl, new⟩, fun other added => ?_⟩
  have inBounds := added.lt
  rw [List.length_append, List.length_singleton] at inBounds
  exact Nat.le_of_lt_succ inBounds

/-- **A triple that is in the set was added at a last place.** -/
theorem exists_lastAddedAt (held : x ∈ triples edits) : ∃ k, LastAddedAt edits k x := by
  induction edits using List.reverseRecOn with
  | nil => cases held
  | append_singleton edits e ih =>
    by_cases before : x ∈ triples edits
    · obtain ⟨k, last⟩ := ih before
      exact ⟨k, last.concat fun _ => before⟩
    · rw [triples_concat] at held
      cases e with
      | insert y =>
        obtain rfl := (Finset.mem_insert.1 held).resolve_right before
        exact ⟨_, lastAddedAt_concat_length before⟩
      | remove y => exact (before (Finset.mem_of_mem_erase held)).elim

theorem AddedBefore.asymm (h : AddedBefore edits x y) : ¬AddedBefore edits y x := by
  rintro ⟨l', k', second', first', order'⟩
  obtain ⟨k, l, first, second, order⟩ := h
  have later : k' ≤ k := first.2 k' first'.1
  have earlier : l ≤ l' := second'.2 l second.1
  omega

/-! ## Listings after an edit -/

namespace IsListing

variable {t a : String} {ids ids' : List String}

theorem nodup (h : IsListing edits t a ids) : ids.Nodup := by
  refine h.inOrder.imp fun before same => ?_
  obtain rfl := same
  exact before.asymm before

/-- **The edits leave no choice** of what is listed, nor in which order. -/
theorem unique (h : IsListing edits t a ids) (h' : IsListing edits t a ids') : ids = ids' := by
  have same : ids.Perm ids' :=
    (List.perm_ext_iff_of_nodup h.nodup h'.nodup).2 fun i => (h.mem i).trans (h'.mem i).symm
  exact same.eq_of_pairwise (fun _ _ _ _ before after => (before.asymm after).elim)
    h.inOrder h'.inOrder

/-- Adding a triple that is new lists its resource last. -/
theorem insert_new (h : IsListing edits t a ids) {i : String} (new : i ∉ ids) :
    IsListing (edits ++ [.insert ⟨t, a, i⟩]) t a (ids ++ [i]) := by
  have absent : (⟨t, a, i⟩ : Triple) ∉ triples edits := fun held => new ((h.mem i).2 held)
  -- the new triple is none of those that are listed, so these keep their places
  have kept {j : String} (listed : j ∈ ids) {k : Nat} (last : LastAddedAt edits k ⟨t, a, j⟩) :
      LastAddedAt (edits ++ [.insert ⟨t, a, i⟩]) k ⟨t, a, j⟩ :=
    last.concat fun _ => (h.mem j).1 listed
  constructor
  · intro j
    rw [List.mem_append, List.mem_singleton, h.mem, triples_concat, Edit.onTriples,
      Finset.mem_insert, or_comm]
    simp
  · rw [List.pairwise_append]
    refine ⟨h.inOrder.imp_of_mem ?_, List.pairwise_singleton _ _, ?_⟩
    · rintro j j' hj hj' ⟨k, l, first, second, order⟩
      exact ⟨k, l, kept hj first, kept hj' second, order⟩
    · intro j hj i' hi'
      rw [List.mem_singleton.1 hi']
      obtain ⟨k, last⟩ := exists_lastAddedAt ((h.mem j).1 hj)
      exact ⟨k, _, kept hj last, lastAddedAt_concat_length absent, last.1.lt⟩

/-- An edit that does not add one of the listed resources keeps the order of those that stay. -/
theorem concat (h : IsListing edits t a ids) {rest : List String} (less : rest.Sublist ids)
    (mem : ∀ i, i ∈ rest ↔ ⟨t, a, i⟩ ∈ triples (edits ++ [e])) :
    IsListing (edits ++ [e]) t a rest := by
  refine ⟨mem, (h.inOrder.sublist less).imp_of_mem ?_⟩
  rintro i j hi hj ⟨k, l, first, second, order⟩
  have old {j : String} (hj : j ∈ rest) : (⟨t, a, j⟩ : Triple) ∈ triples edits :=
    (h.mem j).1 (less.subset hj)
  exact ⟨k, l, first.concat fun _ => old hi, second.concat fun _ => old hj, order⟩

end IsListing

/-- A grant set and some edits agree on all listings, and the set has no empty part. -/
structure Agrees (s : GrantSet) (edits : List Edit) : Prop where
  tidy : s.Tidy
  listing : ∀ t a, IsListing edits t a (s.resourceIds t a)

namespace Agrees

theorem empty : Agrees empty [] where
  tidy := tidy_empty
  listing _ _ := ⟨fun _ => iff_of_false nofun nofun, .nil⟩

/-- Adding a triple keeps the agreement. -/
theorem insert (h : s.Agrees edits) (x : Triple) :
    ((Edit.run s (.insert x)).2).Agrees (edits ++ [.insert x]) := by
  refine ⟨h.tidy.insert _ _ _, fun t a => ?_⟩
  show IsListing _ t a ((s.insert x.resourceType x.action x.resourceId).2.resourceIds t a)
  rw [resourceIds_insert]
  split
  · rename_i new
    obtain ⟨⟨rfl, rfl⟩, new⟩ := new
    exact (h.listing _ _).insert_new new
  · rename_i old
    refine (h.listing t a).concat (List.Sublist.refl _) fun i => ?_
    rw [(h.listing t a).mem, triples_concat, Edit.onTriples, Finset.mem_insert]
    refine ⟨.inr, fun held => held.elim (fun same => ?_) id⟩
    obtain rfl := same
    have known : i ∈ s.resourceIds t a := by
      by_contra new
      exact old ⟨⟨rfl, rfl⟩, new⟩
    exact ((h.listing t a).mem i).1 known

/-- Removing a triple keeps the agreement. -/
theorem remove (h : s.Agrees edits) (x : Triple) :
    ((Edit.run s (.remove x)).2).Agrees (edits ++ [.remove x]) := by
  obtain ⟨u, b, j⟩ := x
  refine ⟨h.tidy.remove u b j, fun t a => ?_⟩
  show IsListing _ t a ((s.remove u b j).2.resourceIds t a)
  rw [resourceIds_remove]
  split
  · rename_i same
    obtain ⟨rfl, rfl⟩ := same
    refine (h.listing t a).concat List.filter_sublist fun i => ?_
    rw [List.mem_filter, (h.listing t a).mem, triples_concat, Edit.onTriples, Finset.mem_erase]
    simp [and_comm]
  · rename_i other
    refine (h.listing t a).concat (List.Sublist.refl _) fun i => ?_
    rw [(h.listing t a).mem, triples_concat, Edit.onTriples, Finset.mem_erase]
    refine ⟨fun held => ⟨fun same => other ?_, held⟩, And.right⟩
    cases same
    exact ⟨rfl, rfl⟩

/-- **Every edit keeps a grant set in agreement with the set of triples.** -/
theorem after (h : s.Agrees edits) (e : Edit) : ((e.run s).2).Agrees (edits ++ [e]) := by
  cases e with
  | insert x => exact h.insert x
  | remove x => exact h.remove x

/-- Grant sets and sets of triples agree after any edits if they did before. -/
theorem edited : ∀ (more : List Edit) {s : GrantSet} {edits : List Edit}, s.Agrees edits →
    (s.edited more).Agrees (edits ++ more)
  | [], _, _, h => by
    rw [List.append_nil]
    exact h
  | e :: more, s, edits, h => by
    have rest := edited more (h.after e)
    rw [List.append_assoc] at rest
    exact rest

theorem mem_resourceIds (h : s.Agrees edits) (x : Triple) :
    x.resourceId ∈ s.resourceIds x.resourceType x.action ↔ x ∈ triples edits :=
  (h.listing _ _).mem _

theorem mem_grants (h : s.Agrees edits) {subject : String} {g : Grant} :
    g ∈ s.grants subject ↔ g.subject = subject ∧ g.triple ∈ triples edits := by
  rw [GrantSet.mem_grants]
  exact and_congr_right fun _ => h.mem_resourceIds g.triple

/-- The grants of any subject are the triples. -/
theorem triples_eq (h : s.Agrees edits) (subject : String) :
    triples edits = ((s.grants subject).map Grant.triple).toFinset := by
  ext x
  rw [List.mem_toFinset, List.mem_map]
  constructor
  · exact fun held => ⟨⟨subject, x.resourceType, x.action, x.resourceId⟩,
      h.mem_grants.2 ⟨rfl, held⟩, rfl⟩
  · rintro ⟨g, listed, rfl⟩
    exact (h.mem_grants.1 listed).2

theorem grants_eq_nil_iff (h : s.Agrees edits) (subject : String) :
    s.grants subject = [] ↔ triples edits = ∅ := by
  rw [h.triples_eq subject, List.toFinset_eq_empty_iff, List.map_eq_nil_iff]

end Agrees

/-- The number of triples is that of the grants of any subject. -/
theorem size_eq (s : GrantSet) (subject : String) : s.size = (s.grants subject).length := by
  have sum : ∀ idss : List (List String), idss.foldl (fun count ids => count + ids.length) 0 =
      (idss.map List.length).sum := by
    intro idss
    rw [List.sum_eq_foldl, List.foldl_map]
  unfold size grants Table.values
  rw [sum, ← List.length_flatten, List.flatten_eq_flatMap, List.flatMap_map, List.flatMap_assoc]
  simp [List.length_flatMap, List.flatMap_map]

/-- A grant set that agrees with some edits counts a triple once. -/
theorem Agrees.size (h : s.Agrees edits) : s.size = (triples edits).card := by
  rw [size_eq s "", h.triples_eq "", List.toFinset_card_of_nodup, List.length_map]
  refine (h.tidy.nodup_grants "").map_on fun g hg g' hg' same => ?_
  have own := (h.mem_grants.1 hg).1.trans (h.mem_grants.1 hg').1.symm
  exact (Grant.same_triple_iff own).1 (by simpa [Grant.triple] using same)

/-- A grant set that agrees with some edits is what they say. -/
theorem Agrees.represents (h : s.Agrees edits) : s.Represents edits where
  insert_iff x := insert_fst_iff.trans (not_congr (h.mem_resourceIds x))
  remove_iff x := remove_fst_iff.trans (h.mem_resourceIds x)
  listing t a ids := ⟨fun listed => listed.unique (h.listing t a), fun same => same ▸ h.listing t a⟩
  grants subject := ⟨h.tidy.nodup_grants subject, fun g => h.mem_grants⟩
  size := h.size
  isEmpty_iff := (h.tidy.isEmpty_iff "").trans (h.grants_eq_nil_iff "")
  size_iff := by
    rw [h.tidy.isEmpty_iff "", size_eq s "", List.length_eq_zero_iff]
  grants_iff subject := (h.tidy.isEmpty_iff subject).symm
  tidy := h.tidy

/-- A set that is made of grants is made by adding their triples. -/
theorem ofGrants_eq (gs : List Grant) :
    ofGrants gs = empty.edited (gs.map fun g => .insert g.triple) := by
  unfold ofGrants edited
  rw [List.foldl_map]
  rfl

/-- **A grant set is a finite set of triples.** It is made of any grants and edited in any way; what
it answers, counts and lists then is told by the set of triples with the same changes. -/
theorem represents_edited (gs : List Grant) (edits : List Edit) :
    ((ofGrants gs).edited edits).Represents ((gs.map fun g => .insert g.triple) ++ edits) := by
  rw [ofGrants_eq]
  exact ((Agrees.empty.edited (gs.map fun g => .insert g.triple)).edited edits).represents

-- A resource that is added again is listed last.
example : (empty.edited [.insert ⟨"product", "read", "7"⟩, .insert ⟨"product", "read", "8"⟩,
    .remove ⟨"product", "read", "7"⟩, .insert ⟨"product", "read", "7"⟩]).resourceIds "product" "read" =
      ["8", "7"] := by
  decide +kernel

end GrantSet

end Marketplace
