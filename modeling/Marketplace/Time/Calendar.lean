/-!
# The calendar

Dates of the proleptic Gregorian calendar. A date carries the proof that its day exists, so
walking to the next or the previous day and counting from the epoch cannot leave the calendar.
-/

namespace Marketplace.Time

/-- Every fourth year has a leap day, except centuries that four hundred does not divide. -/
def isLeap (year : Int) : Bool := year % 4 == 0 && (year % 100 != 0 || year % 400 == 0)

/-- The number of days of a month. -/
def daysInMonth (year : Int) (month : Nat) : Nat :=
  match month with
  | 4 | 6 | 9 | 11 => 30
  | 2 => if isLeap year then 29 else 28
  | _ => 31

theorem daysInMonth_pos (year : Int) (month : Nat) : 28 ≤ daysInMonth year month := by
  unfold daysInMonth
  repeat' split
  all_goals omega

/-- The number of days of a year. -/
def daysInYear (year : Int) : Nat := if isLeap year then 366 else 365

/-- A day of the calendar. -/
structure Date where
  year : Int
  month : Nat
  day : Nat
  month_pos : 1 ≤ month
  month_le : month ≤ 12
  day_pos : 1 ≤ day
  day_le : day ≤ daysInMonth year month
  deriving DecidableEq

namespace Date

/-- The date with these numbers, if there is one. -/
def of? (year : Int) (month day : Nat) : Option Date :=
  if h : 1 ≤ month ∧ month ≤ 12 ∧ 1 ≤ day ∧ day ≤ daysInMonth year month then
    some ⟨year, month, day, h.1, h.2.1, h.2.2.1, h.2.2.2⟩
  else none

theorem of?_self (d : Date) : of? d.year d.month d.day = some d := by
  unfold of?
  rw [dif_pos ⟨d.month_pos, d.month_le, d.day_pos, d.day_le⟩]

/-- The day after. -/
def next (d : Date) : Date :=
  if h : d.day < daysInMonth d.year d.month then
    ⟨d.year, d.month, d.day + 1, d.month_pos, d.month_le, by omega, h⟩
  else if h' : d.month < 12 then
    ⟨d.year, d.month + 1, 1, by omega, by omega, by omega,
      Nat.le_trans (by omega) (daysInMonth_pos _ _)⟩
  else ⟨d.year + 1, 1, 1, by omega, by omega, by omega,
      Nat.le_trans (by omega) (daysInMonth_pos _ _)⟩

/-- The day before. -/
def previous (d : Date) : Date :=
  if h : 1 < d.day then
    ⟨d.year, d.month, d.day - 1, d.month_pos, d.month_le, by omega,
      Nat.le_trans (by omega) d.day_le⟩
  else if h' : 1 < d.month then
    ⟨d.year, d.month - 1, daysInMonth d.year (d.month - 1), by omega,
      Nat.le_trans (by omega) d.month_le, Nat.le_trans (by omega) (daysInMonth_pos _ _),
      Nat.le_refl _⟩
  else ⟨d.year - 1, 12, 31, by omega, by omega, by omega, by simp [daysInMonth]⟩

/-- The first day of a year. -/
def newYear (year : Int) : Date :=
  ⟨year, 1, 1, by omega, by omega, by omega, by simp [daysInMonth]⟩

/-- The date `days` days after the first of a month. -/
def inYear (year : Int) (month days : Nat) (pos : 1 ≤ month) : Date :=
  if h : 12 < month then newYear (year + 1)
  else if h' : days < daysInMonth year month then
    ⟨year, month, days + 1, pos, by omega, by omega, by omega⟩
  else inYear year (month + 1) (days - daysInMonth year month) (by omega)
termination_by 13 - month

/-- The date `days` days after the first day of a year. -/
def fromYear (year : Int) (days : Nat) : Date :=
  if h : days < daysInYear year then inYear year 1 days (by omega)
  else fromYear (year + 1) (days - daysInYear year)
termination_by days
decreasing_by
  have : 365 ≤ daysInYear year := by
    unfold daysInYear
    split <;> omega
  omega

/-- The date `days` days after the first of January 1970. Four hundred years have 146097 days. -/
def ofEpochDays (days : Int) : Date :=
  fromYear (1970 + 400 * (days / 146097)) (days % 146097).toNat

end Date

end Marketplace.Time
