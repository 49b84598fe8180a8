import Marketplace.Policy.Grant

/-!
# The text of a grant

The reader takes back what the printer wrote, and nothing else: a text is a grant exactly when it is
the text of a well-formed one. A grant with an empty field or a colon in a field has a text too, but
no text that reads.

## Results

* `Grant.parse_text`: reading the text of any grant.
* `Grant.parse_eq_ok_iff`, `Grant.exists_parse_iff`: which texts are grants.
-/

namespace Marketplace

namespace Text

variable {mark : Char}

theorem splitAt_of_not_mem {part : List Char} (h : mark ∉ part) : splitAt mark part = [part] := by
  induction part with
  | nil => rfl
  | cons c cs ih =>
    simp only [List.mem_cons, not_or] at h
    simp [splitAt, ih h.2, Ne.symm h.1]

theorem splitAt_append {part : List Char} (rest : List Char) (h : mark ∉ part) :
    splitAt mark (part ++ mark :: rest) = part :: splitAt mark rest := by
  induction part with
  | nil => simp [splitAt]
  | cons c cs ih =>
    simp only [List.mem_cons, not_or] at h
    simp [splitAt, ih h.2, Ne.symm h.1]

theorem length_splitAt (cs : List Char) : (splitAt mark cs).length = cs.count mark + 1 := by
  induction cs with
  | nil => rfl
  | cons c cs ih =>
    unfold splitAt
    by_cases hc : c = mark
    · simp [hc, ih]
    · have : splitAt mark cs ≠ [] := splitAt_ne_nil mark cs
      cases hs : splitAt mark cs with
      | nil => exact (this hs).elim
      | cons p ps =>
        rw [hs] at ih
        simpa [hc] using ih

end Text

namespace Grant

/-- The four fields with marks between them, as characters. -/
theorem toList_text (g : Grant) :
    g.text.toList = g.subject.toList ++ ':' :: (g.resourceType.toList ++ ':' ::
      (g.action.toList ++ ':' :: g.resourceId.toList)) := by
  simp [text, String.toList_append]

theorem isField_iff {s : String} : isField s = true ↔ s ≠ "" ∧ ':' ∉ s.toList := by
  simp [isField]

theorem isWellFormed_iff {g : Grant} :
    g.isWellFormed = true ↔ isField g.subject = true ∧ isField g.resourceType = true ∧
      isField g.action = true ∧ isField g.resourceId = true := by
  simp [isWellFormed, and_assoc]

/-- The text has three colons exactly when the fields have none. -/
theorem count_text_iff {g : Grant} : g.text.toList.count ':' = 3 ↔ ':' ∉ g.subject.toList ∧
    ':' ∉ g.resourceType.toList ∧ ':' ∉ g.action.toList ∧ ':' ∉ g.resourceId.toList := by
  rw [toList_text]
  simp only [List.count_append, List.count_cons_self, ← List.count_eq_zero]
  omega

/-- A grant is well-formed exactly when its text has three colons and no field is empty. -/
theorem isWellFormed_iff_count {g : Grant} :
    g.isWellFormed = true ↔ g.text.toList.count ':' = 3 ∧
      g.subject ≠ "" ∧ g.resourceType ≠ "" ∧ g.action ≠ "" ∧ g.resourceId ≠ "" := by
  rw [isWellFormed_iff, count_text_iff]
  simp only [isField_iff]
  constructor
  · rintro ⟨⟨f₁, h₁⟩, ⟨f₂, h₂⟩, ⟨f₃, h₃⟩, f₄, h₄⟩
    exact ⟨⟨h₁, h₂, h₃, h₄⟩, f₁, f₂, f₃, f₄⟩
  · rintro ⟨⟨h₁, h₂, h₃, h₄⟩, f₁, f₂, f₃, f₄⟩
    exact ⟨⟨f₁, h₁⟩, ⟨f₂, h₂⟩, ⟨f₃, h₃⟩, f₄, h₄⟩

theorem split_text {g : Grant} (h₁ : ':' ∉ g.subject.toList) (h₂ : ':' ∉ g.resourceType.toList)
    (h₃ : ':' ∉ g.action.toList) (h₄ : ':' ∉ g.resourceId.toList) :
    Text.split ':' g.text = [g.subject, g.resourceType, g.action, g.resourceId] := by
  unfold Text.split
  rw [toList_text, Text.splitAt_append _ h₁, Text.splitAt_append _ h₂, Text.splitAt_append _ h₃,
    Text.splitAt_of_not_mem h₄]
  simp [String.ofList_toList]

/-- A text that is read as a grant is the text of that grant, and its fields are proper. -/
theorem text_of_parse {s : String} {g : Grant} (h : parse s = .ok g) :
    g.isWellFormed = true ∧ g.text = s := by
  unfold parse at h
  split at h
  · rename_i a b c d hs
    split at h
    · rename_i filled
      cases h
      obtain ⟨ha, hb, hc, hd⟩ := filled
      unfold Text.split at hs
      have parts : ∀ x ∈ [a, b, c, d], ':' ∉ x.toList := by
        intro x hx
        rw [← hs] at hx
        obtain ⟨p, hp, rfl⟩ := List.mem_map.1 hx
        simpa using Text.not_mem_of_mem_splitAt hp
      have joined := Text.join_splitAt ':' s.toList
      have lists : Text.splitAt ':' s.toList = [a.toList, b.toList, c.toList, d.toList] := by
        have := congrArg (List.map String.toList) hs
        simpa using this
      rw [lists] at joined
      constructor
      · simp [isWellFormed_iff, isField_iff, ha, hb, hc, hd, parts]
      · rw [← String.toList_inj, toList_text]
        simpa [Text.join] using joined
    · cases h
  · cases h

/-- **Reading the text of a grant** gives the grant back if its fields are proper, and fails
otherwise. -/
theorem parse_text (g : Grant) :
    parse g.text = if g.isWellFormed then .ok g else .error (.invalidGrant g.text) := by
  by_cases marks : g.text.toList.count ':' = 3
  · -- no field holds a mark, so the parts are the fields
    obtain ⟨h₁, h₂, h₃, h₄⟩ := count_text_iff.1 marks
    unfold parse
    rw [split_text h₁ h₂ h₃ h₄]
    simp [isWellFormed_iff, isField_iff, h₁, h₂, h₃, h₄]
  · have bad : g.isWellFormed = false := by
      rw [Bool.eq_false_iff]
      exact fun good => marks (isWellFormed_iff_count.1 good).1
    have length : (Text.split ':' g.text).length ≠ 4 := by
      unfold Text.split
      rw [List.length_map, Text.length_splitAt]
      omega
    rw [bad]
    unfold parse
    split
    · rename_i hs
      rw [hs] at length
      exact (length rfl).elim
    · rfl

/-- **A text is a grant exactly when it is the text of one with proper fields.** -/
theorem parse_eq_ok_iff {s : String} {g : Grant} :
    parse s = .ok g ↔ g.isWellFormed = true ∧ g.text = s := by
  constructor
  · exact text_of_parse
  · rintro ⟨good, rfl⟩
    rw [parse_text, if_pos good]

/-- The text of a grant reads back exactly when the grant is well-formed. -/
theorem parse_text_eq_ok_iff {g : Grant} : parse g.text = .ok g ↔ g.isWellFormed = true := by
  rw [parse_eq_ok_iff]
  exact and_iff_left rfl

/-- **A text is a grant** exactly when it has three colons, and four fields that are not empty. -/
theorem exists_parse_iff {s : String} : (∃ g, parse s = .ok g) ↔
    s.toList.count ':' = 3 ∧ ∃ a b c d : String, a ≠ "" ∧ b ≠ "" ∧ c ≠ "" ∧ d ≠ "" ∧
      s = a ++ ":" ++ b ++ ":" ++ c ++ ":" ++ d := by
  constructor
  · rintro ⟨g, hp⟩
    obtain ⟨good, rfl⟩ := text_of_parse hp
    obtain ⟨marks, ha, hb, hc, hd⟩ := isWellFormed_iff_count.1 good
    exact ⟨marks, _, _, _, _, ha, hb, hc, hd, rfl⟩
  · rintro ⟨marks, a, b, c, d, ha, hb, hc, hd, rfl⟩
    have good : (⟨a, b, c, d⟩ : Grant).isWellFormed = true :=
      isWellFormed_iff_count.2 ⟨marks, ha, hb, hc, hd⟩
    exact ⟨_, parse_eq_ok_iff.2 ⟨good, rfl⟩⟩

/-- Grants of one subject with the same triple are the same. -/
theorem same_triple_iff {g h : Grant} (own : g.subject = h.subject) :
    (g.resourceType = h.resourceType ∧ g.action = h.action ∧ g.resourceId = h.resourceId) ↔
      g = h := by
  obtain ⟨_, _, _, _⟩ := g
  obtain ⟨_, _, _, _⟩ := h
  simp only [Grant.mk.injEq] at own ⊢
  simp [own]

/-- What a grant covers, field by field. -/
theorem covers_iff {g r : Grant} : g.covers r = true ↔
    r.subject = g.subject ∧ r.resourceType = g.resourceType ∧
      (g.action = r.action ∨ g.action = wildcard) ∧
      (g.resourceId = r.resourceId ∨ g.resourceId = wildcard) := by
  simp [covers, and_assoc]

theorem eq_of_parse_text {g h : Grant} (hp : parse g.text = .ok h) : h = g := by
  rw [parse_text] at hp
  split at hp
  · cases hp
    rfl
  · cases hp

end Grant

end Marketplace
