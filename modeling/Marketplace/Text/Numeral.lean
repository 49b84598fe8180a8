/-!
# Whole numbers as text

Decimal numerals in ASCII digits: printing (`decimal`, `padded`) and reading (`digits?`,
`unsigned?`, `signed?`). A reader takes the whole text or nothing; it allows one leading sign and
any number of leading zeros, and sets no bound of its own.
-/

namespace Marketplace.Text

/-- The value of an ASCII digit. -/
def digitValue? (c : Char) : Option Nat :=
  if '0' ≤ c ∧ c ≤ '9' then some (c.toNat - '0'.toNat) else none

/-- Whether a character is an ASCII digit. -/
def isDigit (c : Char) : Bool := (digitValue? c).isSome

/-- The ASCII digit of a value below ten. -/
def digitChar (n : Nat) : Char := Char.ofNat ('0'.toNat + n % 10)

/-- Reads a run of digits on top of the value of the digits before it. -/
def digitsFrom (acc : Nat) : List Char → Option Nat
  | [] => some acc
  | c :: cs =>
    match digitValue? c with
    | some d => digitsFrom (10 * acc + d) cs
    | none => none

/-- The number written by a non-empty text of digits. -/
def digits? : List Char → Option Nat
  | [] => none
  | cs => digitsFrom 0 cs

/-- Reads a natural number: digits after at most one plus sign. -/
def unsigned? (s : String) : Option Nat :=
  match s.toList with
  | '+' :: cs => digits? cs
  | cs => digits? cs

/-- Reads an integer: digits after at most one sign. -/
def signed? (s : String) : Option Int :=
  match s.toList with
  | '-' :: cs => (digits? cs).map fun n => -(n : Int)
  | '+' :: cs => (digits? cs).map Int.ofNat
  | cs => (digits? cs).map Int.ofNat

/-- The digits of a number, most significant first, without leading zeros. -/
def decimal (n : Nat) : List Char :=
  if n < 10 then [digitChar n] else decimal (n / 10) ++ [digitChar n]
termination_by n

/-- The last `width` digits of a number, zeros in front. -/
def lastDigits : Nat → Nat → List Char
  | 0, _ => []
  | width + 1, n => lastDigits width (n / 10) ++ [digitChar n]

/-- The digits of a number, at least `width` of them. -/
def padded (width n : Nat) : List Char :=
  if n < Nat.pow 10 width then lastDigits width n else decimal n

/-- The decimal numeral of an integer. -/
def integer (n : Int) : List Char :=
  if n < 0 then '-' :: decimal n.natAbs else decimal n.natAbs

end Marketplace.Text
