import Mathlib.Algebra.Group.Nat.Defs
import Marketplace.Proofs.Identifier

/-!
# Numerals read back

The decimal numeral of a number is read as that number and has no leading zero; the last digits of a
number are read as what is left of it. A number with zeros in front is read as that number, however
many digits it has.
-/

namespace Marketplace.Text

theorem isDigit_digitChar (n : Nat) : isDigit (digitChar n) = true := by
  rw [isDigit, digitValue?_digitChar]
  rfl

theorem digits?_decimal (n : Nat) : digits? (decimal n) = some n := by
  have some_digit := decimal_ne_nil n
  unfold digits?
  split
  · rename_i h
    exact (some_digit h).elim
  · exact digitsFrom_decimal n

/-- Only the numeral of zero starts with a zero. -/
theorem eq_zero_of_decimal {n : Nat} {ds : List Char} (h : decimal n = '0' :: ds) :
    n = 0 ∧ ds = [] := by
  induction n using decimal.induct generalizing ds with
  | case1 n small =>
    rw [decimal, if_pos small] at h
    obtain ⟨hc, hs⟩ := List.cons.inj h
    have value := digitValue?_digitChar n
    rw [hc] at value
    have : some 0 = some (n % 10) := value
    refine ⟨?_, hs.symm⟩
    have := Option.some.inj this
    omega
  | case2 n large ih =>
    rw [decimal, if_neg large] at h
    cases hd : decimal (n / 10) with
    | nil => exact (decimal_ne_nil _ hd).elim
    | cons d more =>
      rw [hd] at h
      obtain ⟨hc, _⟩ := List.cons.inj h
      rw [hc] at hd
      have := (ih hd).1
      omega

theorem length_lastDigits (width n : Nat) : (lastDigits width n).length = width := by
  induction width generalizing n with
  | zero => rfl
  | succ width ih => simp [lastDigits, ih]

theorem isDigit_of_mem_lastDigits {width n : Nat} {c : Char} (h : c ∈ lastDigits width n) :
    isDigit c = true := by
  induction width generalizing n with
  | zero => cases h
  | succ width ih =>
    rcases List.mem_append.1 h with h | h
    · exact ih h
    · rw [List.mem_singleton.1 h]
      exact isDigit_digitChar n

/-- Reading the last digits of a number gives the number modulo ten to the power of their count. -/
theorem digitsFrom_lastDigits (width n : Nat) :
    digitsFrom 0 (lastDigits width n) = some (n % 10 ^ width) := by
  induction width generalizing n with
  | zero => simp [lastDigits, digitsFrom, Nat.mod_one]
  | succ width ih =>
    rw [lastDigits, digitsFrom_append, ih]
    simp only [Option.bind_some, digitsFrom, digitValue?_digitChar, Option.some.injEq]
    have h : 10 ^ (width + 1) = 10 * 10 ^ width := Nat.pow_succ'
    rw [h, Nat.mod_mul]
    omega

/-- All digits of a number that has no more than `width` of them read back. -/
theorem digits?_lastDigits {width n : Nat} (some_digit : 0 < width) (h : n < 10 ^ width) :
    digits? (lastDigits width n) = some n := by
  unfold digits?
  split
  · rename_i he
    have := length_lastDigits width n
    rw [he] at this
    simp only [List.length_nil] at this
    omega
  · rw [digitsFrom_lastDigits, Nat.mod_eq_of_lt h]

theorem digits?_padded {width : Nat} (some_digit : 0 < width) (n : Nat) :
    digits? (padded width n) = some n := by
  unfold padded
  split
  · rename_i fits
    exact digits?_lastDigits some_digit fits
  · exact digits?_decimal n

theorem isDigit_of_mem_padded {width n : Nat} {c : Char} (h : c ∈ padded width n) :
    isDigit c = true := by
  unfold padded at h
  split at h
  · exact isDigit_of_mem_lastDigits h
  · exact isDigit_of_mem_decimal h

end Marketplace.Text
