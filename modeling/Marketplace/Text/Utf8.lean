/-!
# UTF-8

Reading octets as text. `decode?` takes well-formed UTF-8 only. `scan` reads any octets and leaves a
gap for each longest run that starts a character and does not complete it; `decodeLossy` puts
U+FFFD into the gaps.
-/

namespace Marketplace.Text

/-- The text that octets spell in well-formed UTF-8. -/
def decode? (octets : ByteArray) : Option String := String.fromUTF8? octets

/-- What the first octet of a character says: how many octets follow it, the range of the first of
them, and the bits it contributes. -/
def leading? (b : Nat) : Option (Nat × Nat × Nat × Nat) :=
  if b ≤ 0x7F then some (0, 0x80, 0xBF, b)
  else if 0xC2 ≤ b ∧ b ≤ 0xDF then some (1, 0x80, 0xBF, b - 0xC0)
  else if b = 0xE0 then some (2, 0xA0, 0xBF, 0)
  else if b = 0xED then some (2, 0x80, 0x9F, 0xD)
  else if 0xE1 ≤ b ∧ b ≤ 0xEF then some (2, 0x80, 0xBF, b - 0xE0)
  else if b = 0xF0 then some (3, 0x90, 0xBF, 0)
  else if b = 0xF4 then some (3, 0x80, 0x8F, 4)
  else if 0xF1 ≤ b ∧ b ≤ 0xF3 then some (3, 0x80, 0xBF, b - 0xF0)
  else none

/-- Reads octets after `owed` more were announced: in `scanFrom owed low high bits octets` the next one
has to lie between `low` and `high`, and `bits` are those of the octets before. -/
def scanFrom : Nat → Nat → Nat → Nat → List UInt8 → List (Option Char)
  | 0, _, _, _, [] => []
  | _ + 1, _, _, _, [] => [none]
  | owed, low, high, bits, b :: bs =>
    let n := b.toNat
    let start : Unit → List (Option Char) := fun _ =>
      match leading? n with
      | some (0, _, _, v) => some (Char.ofNat v) :: scanFrom 0 0 0 0 bs
      | some (more, l, h, v) => scanFrom more l h v bs
      | none => none :: scanFrom 0 0 0 0 bs
    match owed with
    | 0 => start ()
    | more + 1 =>
      if low ≤ n ∧ n ≤ high then
        let v := bits * 64 + n % 64
        match more with
        | 0 => some (Char.ofNat v) :: scanFrom 0 0 0 0 bs
        | more + 1 => scanFrom (more + 1) 0x80 0xBF v bs
      else none :: start ()

/-- The characters that octets spell, with gaps where they spell none. -/
def scan (octets : ByteArray) : List (Option Char) :=
  match decode? octets with
  | some s => s.toList.map some
  | none => scanFrom 0 0 0 0 octets.toList

/-- The character that stands for octets that spell none. -/
def replacement : Char := Char.ofNat 0xFFFD

/-- The text that octets spell, with U+FFFD where they spell none. -/
def decodeLossy (octets : ByteArray) : String :=
  String.ofList ((scan octets).map fun c => c.getD replacement)

/-- The octets of a text. -/
def encode (s : String) : List UInt8 := s.toUTF8.toList

/-- Well-formed UTF-8 has no gaps. -/
theorem scan_of_decode? {octets : ByteArray} {s : String} (h : decode? octets = some s) :
    scan octets = s.toList.map some := by
  simp [scan, h]

end Marketplace.Text
