import Marketplace.Identifier
import Marketplace.Policy.Grant

/-!
# Identifiers in grants

Identifiers stand in grants as texts. The text of an identifier reads back, so no two identifiers
share one; it can stand in a field of a grant, and it is never the wildcard.
-/

namespace Marketplace

namespace Text

theorem digitValue?_digitChar_all : ∀ d, d < 10 → digitValue? (digitChar d) = some d := by decide

theorem digitChar_mod (n : Nat) : digitChar (n % 10) = digitChar n := by
  simp [digitChar]

theorem digitValue?_digitChar (n : Nat) : digitValue? (digitChar n) = some (n % 10) := by
  rw [← digitChar_mod]
  exact digitValue?_digitChar_all _ (Nat.mod_lt _ (by decide))

theorem digitsFrom_append (xs ys : List Char) (acc : Nat) :
    digitsFrom acc (xs ++ ys) = (digitsFrom acc xs).bind fun a => digitsFrom a ys := by
  induction xs generalizing acc with
  | nil => rfl
  | cons c cs ih =>
    simp only [List.cons_append, digitsFrom]
    cases digitValue? c with
    | none => rfl
    | some d => exact ih _

/-- The numeral of a number reads back. -/
theorem digitsFrom_decimal (n : Nat) : digitsFrom 0 (decimal n) = some n := by
  induction n using decimal.induct with
  | case1 n small =>
    rw [decimal, if_pos small]
    simp only [digitsFrom, digitValue?_digitChar, Option.some.injEq]
    omega
  | case2 n large ih =>
    rw [decimal, if_neg large, digitsFrom_append, ih]
    simp only [Option.bind_some, digitsFrom, digitValue?_digitChar, Option.some.injEq]
    omega

theorem decimal_injective {m n : Nat} (h : decimal m = decimal n) : m = n := by
  have : some m = some n := by rw [← digitsFrom_decimal m, h, digitsFrom_decimal n]
  cases this
  rfl

/-- A text of digits, and of them only. -/
theorem isDigit_of_mem_decimal {n : Nat} {c : Char} (h : c ∈ decimal n) : isDigit c = true := by
  induction n using decimal.induct with
  | case1 n small =>
    rw [decimal, if_pos small] at h
    rw [List.mem_singleton.1 h, isDigit, digitValue?_digitChar]
    rfl
  | case2 n large ih =>
    rw [decimal, if_neg large] at h
    rcases List.mem_append.1 h with h | h
    · exact ih h
    · rw [List.mem_singleton.1 h, isDigit, digitValue?_digitChar]
      rfl

theorem decimal_ne_nil (n : Nat) : decimal n ≠ [] := by
  rw [decimal]
  split
  · exact List.cons_ne_nil _ _
  · exact List.append_ne_nil_of_right_ne_nil _ (List.cons_ne_nil _ _)

theorem hexDigit_ne_colon_all : ∀ d, d < 16 → hexDigit d ≠ ':' := by decide

theorem not_colon_mem_hexDigits (width n : Nat) : ':' ∉ hexDigits width n := by
  induction width generalizing n with
  | zero => exact List.not_mem_nil
  | succ width ih =>
    intro h
    rcases List.mem_append.1 h with h | h
    · exact ih _ h
    · have := List.mem_singleton.1 h
      rw [← hexDigit_mod] at this
      exact hexDigit_ne_colon_all _ (Nat.mod_lt _ (by decide)) this.symm

end Text

namespace AccountId

theorem subject_injective {a b : AccountId} (h : a.subject = b.subject) : a = b := by
  obtain ⟨a⟩ := a
  obtain ⟨b⟩ := b
  have := Text.decimal_injective (String.ofList_injective h)
  exact congrArg AccountId.mk (UInt64.toNat_inj.1 this)

theorem isField_subject (a : AccountId) : Grant.isField a.subject = true := by
  unfold Grant.isField subject
  rw [String.toList_ofList, Bool.and_eq_true, decide_eq_true_iff, Bool.not_eq_true',
    Bool.eq_false_iff]
  constructor
  · intro none
    apply Text.decimal_ne_nil a.number.toNat
    have := congrArg String.toList none
    simpa using this
  · intro colon
    have := Text.isDigit_of_mem_decimal (List.contains_iff_mem.1 colon)
    exact absurd this (by decide)

theorem subject_ne_wildcard (a : AccountId) : a.subject ≠ wildcard := by
  intro h
  have chars : Text.decimal a.number.toNat = ['*'] := by
    have := congrArg String.toList h
    rwa [subject, String.toList_ofList] at this
  have := Text.isDigit_of_mem_decimal (n := a.number.toNat) (c := '*') (by rw [chars]; decide)
  exact absurd this (by decide)

end AccountId

namespace Id

variable {kind : Kind}

theorem toList_toString (i : Id kind) : (toString i).toList = i.uuid.toText :=
  String.toList_ofList

theorem toString_injective {i j : Id kind} (h : toString i = toString j) : i = j := by
  have texts : i.uuid.toText = j.uuid.toText := by
    rw [← toList_toString, h, toList_toString]
  have : some i.uuid = some j.uuid := by
    rw [← Uuid.parse?_toText i.uuid, texts, Uuid.parse?_toText j.uuid]
  obtain ⟨i⟩ := i
  cases this
  rfl

theorem length_toString (i : Id kind) : (toString i).toList.length = 36 := by
  rw [toList_toString, Uuid.length_toText]

theorem toString_ne_wildcard (i : Id kind) : toString i ≠ wildcard := by
  intro h
  have := length_toString i
  rw [h] at this
  exact absurd this (by decide)

theorem isField_toString (i : Id kind) : Grant.isField (toString i) = true := by
  unfold Grant.isField
  rw [toList_toString, Bool.and_eq_true, decide_eq_true_iff, Bool.not_eq_true', Bool.eq_false_iff]
  constructor
  · intro none
    have := length_toString i
    rw [none] at this
    exact absurd this (by decide)
  · intro colon
    have colon := List.contains_iff_mem.1 colon
    simp [Uuid.toText, Text.not_colon_mem_hexDigits] at colon

end Id

end Marketplace
