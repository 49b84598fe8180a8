/-!
# Splitting a text at a mark

`splitAt` cuts a text at every occurrence of a mark: `n` marks give `n + 1` parts, and joining the
parts with the mark gives the text back (`join_splitAt`).
-/

namespace Marketplace.Text

/-- The parts of a text between the occurrences of a mark. -/
def splitAt (mark : Char) : List Char → List (List Char)
  | [] => [[]]
  | c :: cs =>
    if c = mark then [] :: splitAt mark cs
    else
      match splitAt mark cs with
      | part :: parts => (c :: part) :: parts
      | [] => [[c]]

/-- The parts with the mark between them. -/
def join (mark : Char) : List (List Char) → List Char
  | [] => []
  | [part] => part
  | part :: parts => part ++ mark :: join mark parts

/-- The parts of a string between the occurrences of a mark. -/
def split (mark : Char) (s : String) : List String := (splitAt mark s.toList).map String.ofList

/-- The text before the first mark, and the text after it if there is one. -/
def cut (mark : Char) : List Char → List Char × Option (List Char)
  | [] => ([], none)
  | c :: cs =>
    if c = mark then ([], some cs)
    else
      match cut mark cs with
      | (before, after) => (c :: before, after)

theorem splitAt_ne_nil (mark : Char) (cs : List Char) : splitAt mark cs ≠ [] := by
  cases cs with
  | nil => simp [splitAt]
  | cons c cs =>
    unfold splitAt
    split
    · simp
    · split <;> simp

theorem join_splitAt (mark : Char) (cs : List Char) : join mark (splitAt mark cs) = cs := by
  induction cs with
  | nil => rfl
  | cons c cs ih =>
    unfold splitAt
    split
    · rename_i h
      cases hs : splitAt mark cs with
      | nil => exact absurd hs (splitAt_ne_nil mark cs)
      | cons part parts =>
        rw [hs] at ih
        rw [join, List.nil_append, ih, h]
        simp
    · cases hs : splitAt mark cs with
      | nil => exact absurd hs (splitAt_ne_nil mark cs)
      | cons part parts =>
        rw [hs] at ih
        cases parts with
        | nil =>
          simp only [join] at ih ⊢
          rw [ih]
        | cons q qs =>
          simp only [join, List.cons_append] at ih ⊢
          rw [ih]

/-- No part holds the mark. -/
theorem not_mem_of_mem_splitAt {mark : Char} {cs part : List Char} (h : part ∈ splitAt mark cs) :
    mark ∉ part := by
  induction cs generalizing part with
  | nil =>
    simp [splitAt] at h
    simp [h]
  | cons c cs ih =>
    unfold splitAt at h
    split at h
    · rcases List.mem_cons.1 h with rfl | h
      · simp
      · exact ih h
    · rename_i hc
      cases hs : splitAt mark cs with
      | nil => exact absurd hs (splitAt_ne_nil mark cs)
      | cons p ps =>
        rw [hs] at h ih
        rcases List.mem_cons.1 h with rfl | h
        · have := @ih p (by simp)
          simp only [List.mem_cons, not_or]
          exact ⟨fun e => hc e.symm, this⟩
        · exact ih (by simp [h])

end Marketplace.Text
