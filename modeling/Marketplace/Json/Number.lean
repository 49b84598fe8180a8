import Marketplace.Json.Basic
import Marketplace.Text.Numeral

/-!
# Numbers in JSON

The grammar of numbers, and which of them can be read. A whole number of 64 bits is read as it is.
Any other number is taken for a double: its leading digits are a significand of 64 bits, which is
rounded to a double and then multiplied by a power of ten that is rounded too. The number cannot be
read if this product is beyond every double; a number that is too small is no such case.
-/

namespace Marketplace.Json

open Text

/-- What is left to read: characters, and gaps where octets spell none. -/
abbrev Input := List (Option Char)

/-- A run of digits and what follows it. -/
def spanDigits : Input → List Char × Input
  | some c :: cs =>
    if isDigit c then
      match spanDigits cs with
      | (ds, r) => (c :: ds, r)
    else ([], some c :: cs)
  | cs => ([], cs)

/-- The number `significand * 10 ^ exponent`. -/
structure Scientific where
  significand : Nat
  exponent : Int

namespace Scientific

/-- The largest significand. -/
def significandLimit : Nat := 18446744073709551615

/-- Appends digits to a significand as long as it keeps within its limit: the result, how many digits
were taken and how many were left. -/
def append (n : Nat) : List Char → Nat × Nat × Nat
  | [] => (n, 0, 0)
  | c :: cs =>
    let m := 10 * n + (digitValue? c).getD 0
    if m ≤ significandLimit then
      match append m cs with
      | (k, taken, left) => (k, taken + 1, left)
    else (n, 0, cs.length + 1)

/-- The number of a whole part and a fraction. A digit that is left out counts as a zero in the whole
part and for nothing in the fraction, of which all digits after it are left out too. -/
def ofDigits (whole fraction : List Char) (exponent : Int) : Scientific :=
  match append 0 whole with
  | (n, _, left) =>
    match append n fraction with
    | (m, taken, _) => ⟨m, exponent + left - taken⟩

/-- The double nearest to a whole number, and the even one of two, no matter how large. -/
def nearest (n : Nat) : Nat :=
  let unit := Nat.pow 2 (n.log2 + 1 - 53)
  let q := n / unit
  let r := n % unit
  (if unit < 2 * r ∨ (2 * r = unit ∧ q % 2 = 1) then q + 1 else q) * unit

/-- The least number that is rounded to no double. -/
def doubleBound : Nat := Nat.pow 2 1024 - Nat.pow 2 970

/-- Whether the product of the significand and the power of ten, both rounded, is beyond every
double. -/
def isBeyond (s : Scientific) : Bool :=
  match s.exponent with
  | .ofNat e =>
    s.significand != 0 &&
      (decide (308 < e) ||
        decide (doubleBound ≤ nearest s.significand * nearest (Nat.pow 10 e)))
  | .negSucc _ => false

/-- The value of a number that is taken for a double. -/
def toJson (s : Scientific) : Json := if s.isBeyond then .unreadable else .decimal

end Scientific

/-- The value of a number without point and exponent. Minus zero is no integer. -/
def integerValue (negative : Bool) (ds : List Char) : Json :=
  let n := (digits? ds).getD 0
  if negative then
    if 0 < n ∧ n ≤ 9223372036854775808 then .integer (-(n : Int))
    else (Scientific.ofDigits ds [] 0).toJson
  else if n ≤ 18446744073709551615 then .integer n
  else (Scientific.ofDigits ds [] 0).toJson

/-- The digits after a point, if there is a point. -/
def fraction? (cs : Input) : Option (List Char × Input) :=
  match cs with
  | some '.' :: r =>
    match spanDigits r with
    | ([], _) => none
    | (ds, rest) => some (ds, rest)
  | _ => some ([], cs)

/-- The exponent of ten, if there is one. -/
def exponent? (cs : Input) : Option (Option Int × Input) :=
  match cs with
  | some c :: r =>
    if c = 'e' ∨ c = 'E' then
      let (negative, r) := match r with
        | some '-' :: r => (true, r)
        | some '+' :: r => (false, r)
        | r => (false, r)
      match spanDigits r with
      | (ds, rest) =>
        match digits? ds with
        | some n => some (some (if negative then -(n : Int) else n), rest)
        | none => none
    else some (none, cs)
  | _ => some (none, cs)

/-- Reads a number after its sign: no digit may follow a leading zero. -/
def number? (negative : Bool) (cs : Input) : Option (Json × Input) :=
  match spanDigits cs with
  | (ds, r) =>
    match ds with
    | [] => none
    | d :: more =>
      if d = '0' ∧ more ≠ [] then none
      else
        match fraction? r with
        | none => none
        | some (fs, r) =>
          match exponent? r with
          | none => none
          | some (e, r) =>
            match fs, e with
            | [], none => some (integerValue negative ds, r)
            | fs, e => some ((Scientific.ofDigits ds fs (e.getD 0)).toJson, r)

end Marketplace.Json
