import Marketplace.Proofs.Text.Numeral
import Marketplace.Time.Timestamp

/-!
# Timestamps read back

What `Timestamp.toText` writes is read again as the same moment, to the nanosecond, for all years
that a moment can lie in.
-/

namespace Marketplace.Time.Timestamp

open Text

/-! ## Numbers in fields -/

theorem toNat_of_isDigit {c : Char} (h : isDigit c = true) : 48 ≤ c.toNat ∧ c.toNat ≤ 57 := by
  unfold isDigit digitValue? at h
  split at h
  · rename_i range
    exact ⟨range.1, range.2⟩
  · cases h

theorem isBlank_of_isDigit {c : Char} (h : isDigit c = true) : isBlank c = false := by
  obtain ⟨low, high⟩ := toNat_of_isDigit h
  simp only [isBlank, Bool.or_eq_false_iff, Bool.and_eq_false_iff, decide_eq_false_iff_not,
    beq_eq_false_iff_ne]
  omega

/-- The last digits of a number start with a digit. -/
theorem lastDigits_eq_cons (width n : Nat) :
    ∃ d ds, lastDigits (width + 1) n = d :: ds ∧ isDigit d = true := by
  cases hd : lastDigits (width + 1) n with
  | nil =>
    have := length_lastDigits (width + 1) n
    rw [hd] at this
    cases this
  | cons d ds =>
    have first : d ∈ lastDigits (width + 1) n := by
      rw [hd]
      exact List.mem_cons_self
    exact ⟨d, ds, rfl, isDigit_of_mem_lastDigits first⟩

theorem trimStart_lastDigits (width n : Nat) (r : List Char) :
    trimStart (lastDigits (width + 1) n ++ r) = lastDigits (width + 1) n ++ r := by
  obtain ⟨d, ds, text, digit⟩ := lastDigits_eq_cons width n
  rw [text]
  exact trimStart_of_not_blank (isBlank_of_isDigit digit)

/-- The run of digits at the start is that of a number that no digit follows. -/
theorem takeWhile_lastDigits (width n : Nat) {r : List Char} (stops : r.takeWhile isDigit = []) :
    (lastDigits width n ++ r).takeWhile isDigit = lastDigits width n := by
  rw [List.takeWhile_append_of_pos fun _ hc => isDigit_of_mem_lastDigits hc, stops,
    List.append_nil]

/-- A number that fills its field is read without what follows it. -/
theorem number?_lastDigits {width n : Nat} (some_digit : 0 < width) (h : n < 10 ^ width)
    (r : List Char) : number? width (lastDigits width n ++ r) = some (n, r) := by
  have digits := takeWhile_lastDigits width n (r := []) rfl
  rw [List.append_nil] at digits
  unfold number?
  rw [List.take_left' (length_lastDigits width n), digits]
  simp only [digits?_lastDigits some_digit h]
  rw [List.drop_left]

theorem field?_lastDigits {n : Nat} (h : n < 100) (r : List Char) :
    field? (lastDigits 2 n ++ r) = some (n, r) := by
  unfold field?
  rw [trimStart_lastDigits]
  exact number?_lastDigits (by omega) h r

/-- A number of any length is read up to what follows its digits. -/
theorem number?_padded {width : Nat} (some_digit : 0 < width) (n : Nat) {r : List Char}
    (stops : r.takeWhile isDigit = []) :
    number? (padded width n ++ r).length (padded width n ++ r) = some (n, r) := by
  have digits : (padded width n ++ r).takeWhile isDigit = padded width n := by
    rw [List.takeWhile_append_of_pos fun _ hc => isDigit_of_mem_padded hc, stops, List.append_nil]
  unfold number?
  rw [List.take_length, digits]
  simp only [digits?_padded some_digit]
  rw [List.drop_left]

/-- A year of four digits starts with one of them, so it has no sign. -/
theorem year?_lastDigits {n : Nat} (h : n < 10000) (r : List Char) :
    year? (lastDigits 4 n ++ r) = some ((n : Int), r) := by
  have read : number? 4 (lastDigits 4 n ++ r) = some (n, r) := number?_lastDigits (by omega) h r
  obtain ⟨d, ds, text, digit⟩ := lastDigits_eq_cons 3 n
  unfold year?
  rw [trimStart_lastDigits]
  split
  · rename_i he
    rw [text] at he
    rw [(List.cons.inj he).1] at digit
    exact absurd digit (by decide)
  · rename_i he
    rw [text] at he
    rw [(List.cons.inj he).1] at digit
    exact absurd digit (by decide)
  · rw [read, Option.map_some]

/-- A year reads back, with or without a sign. -/
theorem year?_yearText (year : Int) {r : List Char} (stops : r.takeWhile isDigit = []) :
    year? (yearText year ++ r) = some (year, r) := by
  have read := number?_padded (by decide : 0 < 4) year.natAbs stops
  have signed (sign : Char) (visible : isBlank sign = false) :
      trimStart (sign :: padded 4 year.natAbs ++ r) = sign :: (padded 4 year.natAbs ++ r) :=
    trimStart_of_not_blank visible
  unfold yearText
  split
  · rename_i h
    rw [year?_lastDigits (by omega), Int.toNat_of_nonneg h.1]
  unfold year?
  by_cases negative : year < 0
  · rw [if_pos negative, signed '-' (by decide)]
    simp only [read, Option.map_some]
    rw [show -((year.natAbs : Nat) : Int) = year by omega]
  · rw [if_neg negative, signed '+' (by decide)]
    simp only [read, Option.map_some]
    rw [show ((year.natAbs : Nat) : Int) = year by omega]

/-- The digits of a second are read up to the letter behind them. -/
theorem fraction?_lastDigits {width n : Nat} (some_digit : 0 < width) (fits : width ≤ 9)
    (h : n < 10 ^ width) :
    fraction? ('.' :: lastDigits width n ++ ['Z']) = some (n * 10 ^ (9 - width), ['Z']) := by
  have digits : ((lastDigits width n ++ ['Z']).take 9).takeWhile isDigit =
      lastDigits width n := by
    rw [List.take_append, List.take_of_length_le (by rw [length_lastDigits]; exact fits)]
    apply takeWhile_lastDigits
    cases 9 - (lastDigits width n).length with
    | zero => rfl
    | succ k => simp [isDigit, digitValue?]
  unfold fraction?
  simp only [List.cons_append]
  rw [digits]
  simp only [digits?_lastDigits some_digit h, length_lastDigits]
  rw [List.drop_left' (length_lastDigits width n)]
  rfl

theorem fraction?_fractionText {nanos : Nat} (h : nanos < 1000000000) :
    fraction? (fractionText nanos ++ ['Z']) = some (nanos, ['Z']) := by
  unfold fractionText
  split
  · rename_i zero
    rw [zero]
    rfl
  split
  · rw [fraction?_lastDigits (by omega) (by omega) (by omega)]
    congr 2
    omega
  split
  · rw [fraction?_lastDigits (by omega) (by omega) (by omega)]
    congr 2
    omega
  · rw [fraction?_lastDigits (by omega) (by omega) h]
    congr 2
    omega

/-! ## The moment -/

/-- A local time of offset zero is that time. -/
theorem ofLocal?_zero (t : Timestamp) (h : inRange t.date = true) :
    ofLocal? t.date t.hour t.minute t.second t.nanos 0 = some t := by
  obtain ⟨date, hour, minute, second, nanos, hour_lt, minute_lt, second_le, nanos_lt⟩ := t
  have minutes : ((hour * 60 + minute : Nat) : Int) - 0 = (hour * 60 + minute : Nat) := by omega
  have inYear : inRange date = true := h
  have ofDay : (((hour * 60 + minute : Nat) : Int) % 1440).toNat = hour * 60 + minute := by omega
  have whole : ¬((hour * 60 + minute : Nat) : Int) < 0 := by omega
  have sameDay : ¬1440 ≤ ((hour * 60 + minute : Nat) : Int) := by omega
  unfold ofLocal?
  dsimp only
  simp only [minutes, ofDay, if_neg whole, if_neg sameDay, inYear, Bool.and_self, if_true]
  rw [dif_pos ⟨second_le, nanos_lt, by omega⟩]
  congr 2
  · omega
  · omega

theorem mark?_cons {c : Char} (visible : isBlank c = false) (r : List Char) :
    mark? c (trimStart (c :: r)) = some r := by
  rw [trimStart_of_not_blank visible]
  exact if_pos rfl

/-- One step of a sequence of readings. -/
theorem bind_of_eq_some {α β : Type} {x : Option α} {f : α → Option β} {a : α} {b : Option β}
    (h : x = some a) (rest : f a = b) : (x >>= f) = b := by
  rw [h]
  exact rest

theorem daysInMonth_le (year : Int) (month : Nat) : daysInMonth year month ≤ 31 := by
  unfold daysInMonth
  repeat' split
  all_goals omega

/-- **A moment reads back from its text.** -/
theorem parse?_toText (t : Timestamp) (h : inRange t.date = true) :
    parse? t.toText = some t := by
  have hyphen := @mark?_cons '-' (by decide)
  have colon := @mark?_cons ':' (by decide)
  have month : t.date.month < 100 := Nat.lt_of_le_of_lt t.date.month_le (by decide)
  have day : t.date.day < 100 :=
    Nat.lt_of_le_of_lt (Nat.le_trans t.date.day_le (daysInMonth_le _ _)) (by decide)
  have hour : t.hour < 100 := Nat.lt_trans t.hour_lt (by decide)
  have minute : t.minute < 100 := Nat.lt_trans t.minute_lt (by decide)
  have second : t.second < 100 := Nat.lt_of_le_of_lt t.second_le (by decide)
  have zone : zone? ['Z'] = some (0, []) := by decide
  unfold parse? toText
  simp only [List.append_assoc, List.cons_append]
  refine bind_of_eq_some (year?_yearText _ (by simp [isDigit, digitValue?])) ?_
  refine bind_of_eq_some (hyphen _) (bind_of_eq_some (field?_lastDigits month _) ?_)
  refine bind_of_eq_some (hyphen _) (bind_of_eq_some (field?_lastDigits day _) ?_)
  refine bind_of_eq_some rfl (bind_of_eq_some (field?_lastDigits hour _) ?_)
  refine bind_of_eq_some (colon _) (bind_of_eq_some (field?_lastDigits minute _) ?_)
  refine bind_of_eq_some (colon _) (bind_of_eq_some (field?_lastDigits second _) ?_)
  refine bind_of_eq_some (fraction?_fractionText t.nanos_lt) (bind_of_eq_some zone ?_)
  rw [if_pos ⟨rfl, t.hour_lt, t.minute_lt⟩, Date.of?_self]
  exact ofLocal?_zero t h

end Marketplace.Time.Timestamp
