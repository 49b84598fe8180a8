/-!
# Hexadecimal digits

Reading takes digits of either case, printing writes lower case.
-/

namespace Marketplace.Text

/-- The value of a hexadecimal digit of either case. -/
def hexValue? (c : Char) : Option Nat :=
  if '0' ≤ c ∧ c ≤ '9' then some (c.toNat - '0'.toNat)
  else if 'a' ≤ c ∧ c ≤ 'f' then some (c.toNat - 'a'.toNat + 10)
  else if 'A' ≤ c ∧ c ≤ 'F' then some (c.toNat - 'A'.toNat + 10)
  else none

/-- The digit of a value below sixteen. -/
def hexDigit (n : Nat) : Char :=
  let d := n % 16
  if d < 10 then Char.ofNat ('0'.toNat + d) else Char.ofNat ('a'.toNat + (d - 10))

/-- The number written by a text of hexadecimal digits, on top of the digits before it. -/
def hexFrom (acc : Nat) : List Char → Option Nat
  | [] => some acc
  | c :: cs =>
    match hexValue? c with
    | some d => hexFrom (16 * acc + d) cs
    | none => none

/-- The number written by a text of hexadecimal digits. -/
def hex? (cs : List Char) : Option Nat := hexFrom 0 cs

/-- The octets written by pairs of digits; a pair that is no number is left out. -/
def hexOctets : List Char → List UInt8
  | a :: b :: cs =>
    match hex? [a, b] with
    | some n => UInt8.ofNat n :: hexOctets cs
    | none => hexOctets cs
  | _ => []

/-- A number without its last hexadecimal digits. -/
def hexDrop : Nat → Nat → Nat
  | 0, x => x
  | n + 1, x => hexDrop n (x / 16)

/-- The last `width` hexadecimal digits of a number, zeros in front. -/
def hexDigits : Nat → Nat → List Char
  | 0, _ => []
  | width + 1, n => hexDigits width (n / 16) ++ [hexDigit n]

theorem length_hexDigits (width n : Nat) : (hexDigits width n).length = width := by
  induction width generalizing n with
  | zero => rfl
  | succ width ih => simp [hexDigits, ih]

/-- The digits of a number are those before its last `n` digits, and those. -/
theorem hexDigits_add (m n x : Nat) :
    hexDigits (m + n) x = hexDigits m (hexDrop n x) ++ hexDigits n x := by
  induction n generalizing x with
  | zero => simp [hexDigits, hexDrop]
  | succ n ih => rw [← Nat.add_assoc, hexDigits, ih, hexDigits, hexDrop, List.append_assoc]

theorem hexValue?_hexDigit_all : ∀ d, d < 16 → hexValue? (hexDigit d) = some d := by decide

theorem hexDigit_mod (n : Nat) : hexDigit (n % 16) = hexDigit n := by
  simp [hexDigit]

theorem hexValue?_hexDigit (n : Nat) : hexValue? (hexDigit n) = some (n % 16) := by
  rw [← hexDigit_mod]
  exact hexValue?_hexDigit_all _ (Nat.mod_lt _ (by decide))

theorem hexFrom_append (xs ys : List Char) (acc : Nat) :
    hexFrom acc (xs ++ ys) = (hexFrom acc xs).bind fun a => hexFrom a ys := by
  induction xs generalizing acc with
  | nil => rfl
  | cons c cs ih =>
    simp only [List.cons_append, hexFrom]
    cases hexValue? c with
    | none => rfl
    | some d => exact ih _

/-- Reading the last `width` digits of a number gives the number modulo sixteen to the power of `width`. -/
theorem hex?_hexDigits (width n : Nat) : hex? (hexDigits width n) = some (n % Nat.pow 16 width) := by
  unfold hex?
  induction width generalizing n with
  | zero => simp [hexDigits, hexFrom, Nat.mod_one]
  | succ width ih =>
    rw [hexDigits, hexFrom_append, ih]
    simp only [Option.bind_some, hexFrom, hexValue?_hexDigit, Option.some.injEq]
    have h : Nat.pow 16 (width + 1) = 16 * Nat.pow 16 width := Nat.mul_comm _ _
    rw [h, Nat.mod_mul]
    omega

end Marketplace.Text
