import Marketplace.Json.Number
import Marketplace.Text.Hex

/-!
# Reading JSON

`Json.read` turns a text into a tree, by the grammar of RFC 8259 and with a `fault` leaf where the
text leaves the grammar. `Json.parse?` keeps the trees of texts that are one value from end to end.
Where octets spell no character, the text has a gap: a gap in a string leaves it unreadable, and any
other gap is a fault. A value is read by recursion on a bound that the length of the text gives.
-/

namespace Marketplace.Json

open Text

/-- Space, tab, line feed and carriage return. -/
def isSpace (c : Char) : Bool := c == ' ' || c == '\t' || c == '\n' || c == '\r'

def skipSpace (cs : Input) : Input := cs.dropWhile fun c => c.any isSpace

/-- A piece of a string as written: a character, a unit of UTF-16 in hexadecimal, or a gap. -/
inductive Piece where
  | char (c : Char)
  | unit (n : Nat)
  | gap
  deriving DecidableEq

/-- The character of a short escape. -/
def unescape? : Char → Option Char
  | '"' => some '"'
  | '\\' => some '\\'
  | '/' => some '/'
  | 'b' => some '\x08'
  | 'f' => some '\x0c'
  | 'n' => some '\n'
  | 'r' => some '\r'
  | 't' => some '\t'
  | _ => none

/-- The pieces of a string up to its closing quote, and the text after it. -/
def pieces? : Input → Option (List Piece × Input)
  | [] => none
  | some '"' :: rest => some ([], rest)
  | some '\\' :: some 'u' :: some a :: some b :: some c :: some d :: rest =>
    match hex? [a, b, c, d], pieces? rest with
    | some n, some (ps, r) => some (.unit n :: ps, r)
    | _, _ => none
  | some '\\' :: some e :: rest =>
    match unescape? e, pieces? rest with
    | some c, some (ps, r) => some (.char c :: ps, r)
    | _, _ => none
  | some '\\' :: _ => none
  | some c :: rest =>
    if c.toNat < 0x20 then none
    else
      match pieces? rest with
      | some (ps, r) => some (.char c :: ps, r)
      | none => none
  | none :: rest =>
    match pieces? rest with
    | some (ps, r) => some (.gap :: ps, r)
    | none => none

/-- The first unit of a pair for a character beyond U+FFFF. -/
def isHigh (n : Nat) : Bool := decide (0xD800 ≤ n ∧ n ≤ 0xDBFF)

/-- The second unit of such a pair. -/
def isLow (n : Nat) : Bool := decide (0xDC00 ≤ n ∧ n ≤ 0xDFFF)

/-- The characters that the pieces stand for; a gap and half a pair stand for none. -/
def assemble? : List Piece → Option (List Char)
  | [] => some []
  | .char c :: ps => (assemble? ps).map (c :: ·)
  | .gap :: _ => none
  | .unit n :: ps =>
    if isLow n then none
    else if isHigh n then
      match ps with
      | .unit m :: qs =>
        if isLow m then
          (assemble? qs).map (Char.ofNat (0x10000 + (n - 0xD800) * 0x400 + (m - 0xDC00)) :: ·)
        else none
      | _ => none
    else (assemble? ps).map (Char.ofNat n :: ·)

/-- Reads a string after its opening quote. -/
def string? (cs : Input) : Option (Option String × Input) :=
  match pieces? cs with
  | some (ps, r) => some ((assemble? ps).map String.ofList, r)
  | none => none

/-- The text after a given word. -/
def afterWord? : List Char → Input → Option Input
  | [], cs => some cs
  | w :: ws, c :: cs => if c = some w then afterWord? ws cs else none
  | _ :: _, [] => none

/-- A value that is one word. -/
def word (w : String) (v : Json) (cs : Input) : Json × Option Input :=
  match afterWord? w.toList cs with
  | some r => (v, some r)
  | none => (.fault, none)

/-- A field under its name, if the name spells a text. -/
def entry (name : Option String) (v : Json) : String × Json :=
  match name with
  | some k => (k, v)
  | none => ("", .nameless v)

mutual

/-- Reads one value; no text is left after a fault. -/
def value : Nat → Input → Json × Option Input
  | 0, _ => (.fault, none)
  | bound + 1, cs =>
    match skipSpace cs with
    | [] => (.fault, none)
    | some '"' :: r =>
      match string? r with
      | some (some s, r) => (.text s, some r)
      | some (none, r) => (.unreadable, some r)
      | none => (.fault, none)
    | some '[' :: r =>
      match skipSpace r with
      | some ']' :: r => (.list [], some r)
      | r =>
        match items bound r with
        | (vs, r) => (.list vs, r)
    | some '{' :: r =>
      match skipSpace r with
      | some '}' :: r => (.record [], some r)
      | r =>
        match fields bound r with
        | (fs, r) => (.record fs, r)
    | some 'n' :: r => word "ull" .null r
    | some 't' :: r => word "rue" (.bool true) r
    | some 'f' :: r => word "alse" (.bool false) r
    | some '-' :: r =>
      match number? true r with
      | some (v, r) => (v, some r)
      | none => (.fault, none)
    | r =>
      match number? false r with
      | some (v, r) => (v, some r)
      | none => (.fault, none)

/-- Reads the items of a list up to its closing bracket. -/
def items : Nat → Input → List Json × Option Input
  | 0, _ => ([.fault], none)
  | bound + 1, cs =>
    match value bound cs with
    | (v, none) => ([v], none)
    | (v, some r) =>
      match skipSpace r with
      | some ',' :: r =>
        match items bound r with
        | (vs, r) => (v :: vs, r)
      | some ']' :: r => ([v], some r)
      | _ => ([v, .fault], none)

/-- Reads the fields of an object up to its closing brace. -/
def fields : Nat → Input → List (String × Json) × Option Input
  | 0, _ => ([entry none .fault], none)
  | bound + 1, cs =>
    match skipSpace cs with
    | some '"' :: r =>
      match string? r with
      | some (k, r) =>
        match skipSpace r with
        | some ':' :: r =>
          match value bound r with
          | (v, none) => ([entry k v], none)
          | (v, some r) =>
            match skipSpace r with
            | some ',' :: r =>
              match fields bound r with
              | (fs, r) => (entry k v :: fs, r)
            | some '}' :: r => ([entry k v], some r)
            | _ => ([entry k v, entry none .fault], none)
        | _ => ([entry k .fault], none)
      | none => ([entry none .fault], none)
    | r =>
      match value bound r with
      | (v, _) => ([("", .misplaced v)], none)

end

/-- The tree of a text, and whether nothing but blanks follows the value. -/
def read (cs : Input) : Json × Bool :=
  match value (2 * cs.length + 2) cs with
  | (v, some r) => (v, (skipSpace r).isEmpty)
  | (v, none) => (v, false)

/-- The tree of a text that is one JSON value. -/
def parse? (s : String) : Option Json :=
  match read (s.toList.map some) with
  | (v, true) => some v
  | _ => none

end Marketplace.Json
