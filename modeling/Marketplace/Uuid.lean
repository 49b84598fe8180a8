import Marketplace.Text.Hex

/-!
# Universally unique identifiers

A number of 128 bits. It is written as 32 lower-case hexadecimal digits in groups of
8, 4, 4, 4 and 12 with hyphens between them, and read in four forms: so grouped, without hyphens,
in braces, or after `urn:uuid:`. Main statement: `parse?_toText`, reading gives back what was
written.
-/

namespace Marketplace

/-- An identifier of 128 bits, ordered as a number. -/
structure Uuid where
  bits : Nat
  isLt : bits < Nat.pow 2 128
  deriving DecidableEq

namespace Uuid

instance : Ord Uuid := ⟨fun a b => compare a.bits b.bits⟩

instance : Inhabited Uuid := ⟨⟨0, by decide⟩⟩

/-- The identifier made of the low 128 bits of a number. -/
def ofNat (n : Nat) : Uuid := ⟨n % Nat.pow 2 128, Nat.mod_lt _ (by decide)⟩

/-- The written form: five groups of digits. -/
def toText (u : Uuid) : List Char :=
  Text.hexDigits 8 (Text.hexDrop 24 u.bits) ++ '-' :: Text.hexDigits 4 (Text.hexDrop 20 u.bits) ++
  '-' :: Text.hexDigits 4 (Text.hexDrop 16 u.bits) ++ '-' :: Text.hexDigits 4 (Text.hexDrop 12 u.bits) ++
  '-' :: Text.hexDigits 12 u.bits

instance : ToString Uuid := ⟨fun u => String.ofList u.toText⟩

/-- Reads digits without hyphens. -/
def ofDigits? (cs : List Char) : Option Uuid :=
  if cs.length = 32 then (Text.hex? cs).map ofNat else none

/-- The text after a hyphen. -/
def afterHyphen? : List Char → Option (List Char)
  | '-' :: cs => some cs
  | _ => none

/-- Reads five groups of digits with hyphens between them. -/
def ofGroups? (cs : List Char) : Option Uuid := do
  let r₁ ← afterHyphen? (cs.drop 8)
  let r₂ ← afterHyphen? (r₁.drop 4)
  let r₃ ← afterHyphen? (r₂.drop 4)
  let r₄ ← afterHyphen? (r₃.drop 4)
  ofDigits? (cs.take 8 ++ r₁.take 4 ++ r₂.take 4 ++ r₃.take 4 ++ r₄)

/-- The text inside one pair of braces. -/
def inBraces? : List Char → Option (List Char)
  | '{' :: cs => if cs.getLast? = some '}' then some cs.dropLast else none
  | _ => none

/-- The text after the name of the scheme, which may be written in either case. -/
def afterScheme? (cs : List Char) : Option (List Char) :=
  if (cs.take 9).map Char.toLower = "urn:uuid:".toList then some (cs.drop 9) else none

/-- Reads any of the four forms; the length of the text tells which. -/
def parse? (cs : List Char) : Option Uuid :=
  match cs.length with
  | 32 => ofDigits? cs
  | 36 => ofGroups? cs
  | 38 => (inBraces? cs).bind ofGroups?
  | 45 => (afterScheme? cs).bind ofGroups?
  | _ => none

theorem length_toText (u : Uuid) : u.toText.length = 36 := by
  simp [toText, Text.length_hexDigits]

/-- The digits of all groups in a row. -/
theorem groups_append (u : Uuid) :
    Text.hexDigits 8 (Text.hexDrop 24 u.bits) ++ Text.hexDigits 4 (Text.hexDrop 20 u.bits) ++
      Text.hexDigits 4 (Text.hexDrop 16 u.bits) ++ Text.hexDigits 4 (Text.hexDrop 12 u.bits) ++
      Text.hexDigits 12 u.bits = Text.hexDigits 32 u.bits := by
  have last := Text.hexDigits_add 20 12 u.bits
  have fourth := Text.hexDigits_add 16 4 (Text.hexDrop 12 u.bits)
  have third := Text.hexDigits_add 12 4 (Text.hexDrop 16 u.bits)
  have second := Text.hexDigits_add 8 4 (Text.hexDrop 20 u.bits)
  exact (last.trans (congrArg (· ++ Text.hexDigits 12 u.bits) (fourth.trans
    (congrArg (· ++ Text.hexDigits 4 (Text.hexDrop 12 u.bits)) (third.trans
      (congrArg (· ++ Text.hexDigits 4 (Text.hexDrop 16 u.bits)) second)))))).symm

theorem ofDigits?_hexDigits (u : Uuid) : ofDigits? (Text.hexDigits 32 u.bits) = some u := by
  rw [ofDigits?, if_pos (Text.length_hexDigits 32 u.bits), Text.hex?_hexDigits]
  have h : u.bits % Nat.pow 16 32 = u.bits := Nat.mod_eq_of_lt u.isLt
  obtain ⟨bits, isLt⟩ := u
  simp only [Option.map_some, ofNat, Option.some.injEq, Uuid.mk.injEq]
  rw [h]
  exact Nat.mod_eq_of_lt isLt

/-- The text after a group of known length. -/
theorem afterHyphen?_drop {n : Nat} {group rest : List Char} (h : group.length = n) :
    afterHyphen? ((group ++ '-' :: rest).drop n) = some rest := by
  rw [List.drop_left' h]
  rfl

/-- Reading gives back what was written. -/
theorem parse?_toText (u : Uuid) : parse? u.toText = some u := by
  have grouped : ofGroups? u.toText = some u := by
    unfold ofGroups? toText
    simp only [List.append_assoc, List.cons_append]
    rw [afterHyphen?_drop (Text.length_hexDigits _ _)]
    simp only [Option.bind_eq_bind, Option.bind_some]
    rw [afterHyphen?_drop (Text.length_hexDigits _ _)]
    simp only [Option.bind_some]
    rw [afterHyphen?_drop (Text.length_hexDigits _ _)]
    simp only [Option.bind_some]
    rw [afterHyphen?_drop (Text.length_hexDigits _ _)]
    simp only [Option.bind_some]
    rw [List.take_left' (Text.length_hexDigits _ _), List.take_left' (Text.length_hexDigits _ _),
      List.take_left' (Text.length_hexDigits _ _), List.take_left' (Text.length_hexDigits _ _)]
    have := groups_append u
    simp only [List.append_assoc] at this ⊢
    rw [this, ofDigits?_hexDigits]
  unfold parse?
  rw [length_toText]
  exact grouped

end Uuid

end Marketplace
