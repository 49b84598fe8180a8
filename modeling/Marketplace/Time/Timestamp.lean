import Marketplace.Text.Blank
import Marketplace.Text.Numeral
import Marketplace.Time.Calendar

/-!
# Timestamps

A moment in universal time: a date and a time of day with nanoseconds. The second 60 is allowed, as
a leap second. `toText` writes RFC 3339 in UTC with the fewest of 0, 3, 6 or 9 digits of a second
that are exact; `parse?` reads RFC 3339 with any offset, and some neighbours of it: one-digit
fields, blanks before a field, an offset without a colon.
-/

namespace Marketplace.Time

open Text

/-- A moment in universal time. -/
structure Timestamp where
  date : Date
  hour : Nat
  minute : Nat
  second : Nat
  nanos : Nat
  hour_lt : hour < 24
  minute_lt : minute < 60
  second_le : second ≤ 60
  nanos_lt : nanos < 1000000000
  deriving DecidableEq

namespace Timestamp

/-- A year reads as four digits; outside of 0 to 9999 it has a sign in front. -/
def yearText (year : Int) : List Char :=
  if 0 ≤ year ∧ year ≤ 9999 then lastDigits 4 year.toNat
  else (if year < 0 then '-' else '+') :: padded 4 year.natAbs

/-- The digits of a second, as few groups of three as are exact. -/
def fractionText (nanos : Nat) : List Char :=
  if nanos = 0 then []
  else if nanos % 1000000 = 0 then '.' :: lastDigits 3 (nanos / 1000000)
  else if nanos % 1000 = 0 then '.' :: lastDigits 6 (nanos / 1000)
  else '.' :: lastDigits 9 nanos

/-- The moment in RFC 3339. -/
def toText (t : Timestamp) : List Char :=
  yearText t.date.year ++ '-' :: lastDigits 2 t.date.month ++ '-' :: lastDigits 2 t.date.day ++
  'T' :: lastDigits 2 t.hour ++ ':' :: lastDigits 2 t.minute ++ ':' :: lastDigits 2 t.second ++
  fractionText t.nanos ++ ['Z']

/-- Reads one to `width` digits; a further digit is left for what follows. -/
def number? (width : Nat) (cs : List Char) : Option (Nat × List Char) :=
  let ds := (cs.take width).takeWhile isDigit
  match digits? ds with
  | some n => some (n, cs.drop ds.length)
  | none => none

/-- Reads a field of at most two digits after any blanks. -/
def field? (cs : List Char) : Option (Nat × List Char) := number? 2 (trimStart cs)

/-- Reads a year after any blanks: up to four digits, or any number of them after a sign. -/
def year? (cs : List Char) : Option (Int × List Char) :=
  match trimStart cs with
  | '-' :: r => (number? r.length r).map fun p => (-(p.1 : Int), p.2)
  | '+' :: r => (number? r.length r).map fun p => ((p.1 : Int), p.2)
  | r => (number? 4 r).map fun p => ((p.1 : Int), p.2)

/-- The text after one given character. -/
def mark? (c : Char) : List Char → Option (List Char)
  | d :: r => if d = c then some r else none
  | [] => none

/-- The text after a mark that separates the date from the time. -/
def afterDate? : List Char → Option (List Char)
  | 'T' :: r => some r
  | 't' :: r => some r
  | ' ' :: r => some r
  | _ => none

/-- Nanoseconds of a decimal fraction; digits beyond the ninth are dropped. -/
def fraction? (cs : List Char) : Option (Nat × List Char) :=
  match cs with
  | '.' :: r =>
    let ds := (r.take 9).takeWhile isDigit
    match digits? ds with
    | some n => some (n * Nat.pow 10 (9 - ds.length), (r.drop ds.length).dropWhile isDigit)
    | none => none
  | _ => some (0, cs)

/-- The minutes of an offset from universal time, east positive, within a day. -/
def offset? (cs : List Char) : Option (Int × List Char) :=
  match cs with
  | 'Z' :: r => some (0, r)
  | 'z' :: r => some (0, r)
  | c :: h₁ :: h₂ :: r =>
    match digitValue? h₁, digitValue? h₂, r.dropWhile fun c => c == ':' || isBlank c with
    | some a, some b, m₁ :: m₂ :: rest =>
      match digitValue? m₁, digitValue? m₂ with
      | some m, some n =>
        let size : Int := ((10 * a + b) * 60 + (10 * m + n) : Nat)
        if 6 ≤ m ∨ 1440 ≤ size then none
        else if c = '+' then some (size, rest)
        else if c = '-' ∨ c = '\u2212' then some (-size, rest)
        else none
      | _, _ => none
    | _, _, _ => none
  | _ => none

/-- The offset after any blanks; the letters `UTC` stand for none. -/
def zone? (cs : List Char) : Option (Int × List Char) :=
  let r := trimStart cs
  if (r.take 3).map Char.toLower = ['u', 't', 'c'] then some (0, r.drop 3) else offset? r

/-- The years that a moment can lie in. -/
def inRange (d : Date) : Bool := decide (-262143 ≤ d.year ∧ d.year ≤ 262142)

/-- The moment in universal time of a local time that is `offset` minutes ahead of it. -/
def ofLocal? (date : Date) (hour minute second nanos : Nat) (offset : Int) : Option Timestamp :=
  let minutes : Int := (hour * 60 + minute : Nat) - offset
  let date' := if minutes < 0 then date.previous else if 1440 ≤ minutes then date.next else date
  let ofDay := (minutes % 1440).toNat
  if h : second ≤ 60 ∧ nanos < 1000000000 ∧ ofDay < 1440 then
    if inRange date && inRange date' then
      some ⟨date', ofDay / 60, ofDay % 60, second, nanos, by omega, by omega, h.1, h.2.1⟩
    else none
  else none

/-- Reads a moment, up to blanks at the end. -/
def parse? (cs : List Char) : Option Timestamp := do
  let (year, r) ← year? cs
  let r ← mark? '-' (trimStart r)
  let (month, r) ← field? r
  let r ← mark? '-' (trimStart r)
  let (day, r) ← field? r
  let r ← afterDate? r
  let (hour, r) ← field? r
  let r ← mark? ':' (trimStart r)
  let (minute, r) ← field? r
  let r ← mark? ':' (trimStart r)
  let (second, r) ← field? r
  let (nanos, r) ← fraction? r
  let (offset, r) ← zone? r
  if trimStart r = [] ∧ hour < 24 ∧ minute < 60 then
    let date ← Date.of? year month day
    ofLocal? date hour minute second nanos offset
  else none

/-- The moment a number of nanoseconds after the start of 1970. -/
def ofEpochNanos (n : Int) : Timestamp :=
  let ofDay := (n % 86400000000000).toNat
  ⟨Date.ofEpochDays (n / 86400000000000), ofDay / 3600000000000, ofDay / 60000000000 % 60,
    ofDay / 1000000000 % 60, ofDay % 1000000000, by omega, Nat.mod_lt _ (by decide),
    Nat.le_of_lt (Nat.mod_lt _ (by decide)), Nat.mod_lt _ (by decide)⟩

end Timestamp

end Marketplace.Time
