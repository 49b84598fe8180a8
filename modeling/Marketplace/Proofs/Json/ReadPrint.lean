import Marketplace.Json.Printer
import Marketplace.Json.Reader
import Marketplace.Proofs.Text.Numeral

/-!
# JSON text reads back

What is printed is read again as it was: strings whatever characters they are made of, whole numbers
of 64 bits, lists and objects of such values. The proof is by recursion on the value, for any text
that follows it; only a number can be continued by what follows, so nothing that does may follow.

## Results

* `string?_quoted`: a string in quotes reads back.
* `value_print`: so does every value that has a text.
* `decodeOctets_compact`: a reader of octets sees the value that was printed.
-/

namespace Marketplace.Json

open Text

/-! ## Values that have a text -/

mutual

/-- A value of which every part has a text: its whole numbers have 64 bits. -/
def IsData : Json → Prop
  | .null => True
  | .bool _ => True
  | .integer n => -9223372036854775808 ≤ n ∧ n ≤ 18446744073709551615
  | .text _ => True
  | .list items => AreData items
  | .record fields => FieldsAreData fields
  | _ => False

def AreData : List Json → Prop
  | [] => True
  | v :: vs => IsData v ∧ AreData vs

def FieldsAreData : List (String × Json) → Prop
  | [] => True
  | (_, v) :: fs => IsData v ∧ FieldsAreData fs

end

/-- What follows does not continue a number. -/
def Stops (r : Input) : Prop :=
  ∀ c cs, r = some c :: cs → isDigit c = false ∧ c ≠ '.' ∧ c ≠ 'e' ∧ c ≠ 'E'

theorem stops_nil : Stops [] := fun _ _ h => nomatch h

theorem stops_cons {c : Char} {cs : Input}
    (h : isDigit c = false ∧ c ≠ '.' ∧ c ≠ 'e' ∧ c ≠ 'E') : Stops (some c :: cs) := by
  intro d ds he
  cases he
  exact h

/-! ## Strings -/

/-- A unit below the surrogates stands for its character. -/
theorem assemble?_unit {c : Char} (small : c.toNat < 0x20) (ps : List Piece) :
    assemble? (.unit c.toNat :: ps) = (assemble? ps).map (c :: ·) := by
  have low : isLow c.toNat = false := decide_eq_false (by omega)
  have high : isHigh c.toNat = false := decide_eq_false (by omega)
  rw [assemble?.eq_def]
  simp only [low, high, Char.ofNat_toNat, Bool.false_eq_true, if_false]

/-- A character is read as one piece, which stands for it. -/
theorem pieces?_escape (c : Char) {r rest : Input} {ps : List Piece}
    (h : pieces? r = some (ps, rest)) :
    ∃ p, pieces? ((escape c).map some ++ r) = some (p :: ps, rest) ∧
      assemble? (p :: ps) = (assemble? ps).map (c :: ·) := by
  unfold escape
  split
  case h_8 =>
    split
    · rename_i small
      refine ⟨.unit c.toNat, ?_, assemble?_unit small ps⟩
      have hex : hex? (hexDigits 4 c.toNat) = some c.toNat := by
        rw [hex?_hexDigits]
        exact congrArg some (Nat.mod_eq_of_lt (Nat.lt_trans small (by decide)))
      simp only [hexDigits, List.nil_append, List.cons_append] at hex
      simp only [hexDigits, List.nil_append, List.cons_append, List.map_cons, List.map_nil]
      rw [pieces?, hex, h]
    · refine ⟨.char c, ?_, rfl⟩
      rw [List.map_cons, List.map_nil, List.singleton_append, pieces?.eq_def]
      split <;> simp_all
  all_goals exact ⟨.char _, by simp [pieces?, unescape?, h], rfl⟩

theorem pieces?_quoted (cs : List Char) (r : Input) :
    ∃ ps, pieces? ((cs.flatMap escape ++ ['"']).map some ++ r) = some (ps, r) ∧
      assemble? ps = some cs := by
  induction cs with
  | nil => exact ⟨[], rfl, rfl⟩
  | cons c cs ih =>
    obtain ⟨ps, read, spelled⟩ := ih
    obtain ⟨p, read', spelled'⟩ := pieces?_escape c read
    refine ⟨p :: ps, ?_, by rw [spelled', spelled]; rfl⟩
    rw [← read', List.flatMap_cons, List.append_assoc, List.map_append, List.append_assoc]

/-- **A string in quotes reads back.** -/
theorem string?_quoted (s : String) (r : Input) :
    string? ((s.toList.flatMap escape ++ ['"']).map some ++ r) = some (some s, r) := by
  obtain ⟨ps, read, spelled⟩ := pieces?_quoted s.toList r
  unfold string?
  rw [read]
  dsimp only
  rw [spelled, Option.map_some, String.ofList_toList]

/-! ## Numbers -/

theorem spanDigits_append {ds : List Char} {r : Input} (digits : ∀ c ∈ ds, isDigit c = true)
    (stops : Stops r) : spanDigits (ds.map some ++ r) = (ds, r) := by
  induction ds with
  | nil =>
    match r with
    | [] => rfl
    | none :: r => rfl
    | some c :: r => simp [spanDigits, (stops c r rfl).1]
  | cons d ds ih =>
    have rest := ih fun c hc => digits c (List.mem_cons_of_mem d hc)
    simp only [List.map_cons, List.cons_append, spanDigits, digits d List.mem_cons_self, if_true,
      rest]

/-- A number without a fraction and an exponent is a whole number. -/
theorem number?_decimal (negative : Bool) (n : Nat) {r : Input} (stops : Stops r) :
    number? negative ((Text.decimal n).map some ++ r) =
      some (integerValue negative (Text.decimal n), r) := by
  have fraction : fraction? r = some ([], r) := by
    unfold fraction?
    split
    · rename_i cs
      exact ((stops '.' cs rfl).2.1 rfl).elim
    · rfl
  have exponent : exponent? r = some (none, r) := by
    unfold exponent?
    split
    · rename_i c cs
      have := (stops c cs rfl).2.2
      rw [if_neg fun h => h.elim this.1 this.2]
    · rfl
  unfold number?
  rw [spanDigits_append (fun _ hc => isDigit_of_mem_decimal hc) stops]
  cases hd : Text.decimal n with
  | nil => exact (decimal_ne_nil n hd).elim
  | cons d ds =>
    have lead : ¬(d = '0' ∧ ds ≠ []) := by
      rintro ⟨rfl, more⟩
      exact more (eq_zero_of_decimal hd).2
    simp only [if_neg lead, fraction, exponent]

/-- The numeral of a whole number of 64 bits is taken for that number. -/
theorem integerValue_natAbs {n : Int}
    (h : -9223372036854775808 ≤ n ∧ n ≤ 18446744073709551615) :
    integerValue (decide (n < 0)) (Text.decimal n.natAbs) = .integer n := by
  unfold integerValue
  rw [digits?_decimal]
  by_cases neg : n < 0
  · simp only [neg, decide_true, if_true, Option.getD_some]
    rw [if_pos ⟨by omega, by omega⟩]
    congr 1
    omega
  · simp only [neg, decide_false, Option.getD_some]
    rw [if_neg (by decide), if_pos (by omega)]
    congr 1
    omega

/-! ## Values -/

/-- A text that a value may start with: neither a blank nor a bracket that closes. -/
def Opens (cs : List Char) : Prop :=
  ∃ c rest, cs = c :: rest ∧ isSpace c = false ∧ c ≠ ']'

theorem opens_of_isDigit {c : Char} {rest : List Char} (h : isDigit c = true) :
    Opens (c :: rest) := by
  refine ⟨c, rest, rfl, ?_, ?_⟩
  · apply Bool.eq_false_iff.2
    intro space
    simp only [isSpace, Bool.or_eq_true, beq_iff_eq] at space
    rcases space with ((rfl | rfl) | rfl) | rfl <;> exact absurd h (by decide)
  · rintro rfl
    exact absurd h (by decide)

theorem opens_print {v : Json} (data : IsData v) : Opens v.print := by
  cases v with
  | null => exact ⟨_, _, rfl, by decide, by decide⟩
  | bool b => cases b <;> exact ⟨_, _, rfl, by decide, by decide⟩
  | integer n =>
    simp only [print, Text.integer]
    split
    · exact ⟨_, _, rfl, by decide, by decide⟩
    · cases hd : Text.decimal n.natAbs with
      | nil => exact (decimal_ne_nil _ hd).elim
      | cons d ds =>
        apply opens_of_isDigit
        apply isDigit_of_mem_decimal (n := n.natAbs)
        rw [hd]
        exact List.mem_cons_self
  | text s => exact ⟨_, _, rfl, by decide, by decide⟩
  | list items => exact ⟨_, _, rfl, by decide, by decide⟩
  | record fields => exact ⟨_, _, rfl, by decide, by decide⟩
  | _ => exact data.elim

theorem skipSpace_of_opens {cs : List Char} {r : Input} (h : Opens cs) :
    skipSpace (cs.map some ++ r) = cs.map some ++ r := by
  obtain ⟨c, rest, rfl, space, _⟩ := h
  simp [skipSpace, space]

theorem opens_printItems {v : Json} {vs : List Json} (data : IsData v) :
    Opens (printItems (v :: vs)) := by
  obtain ⟨c, rest, text, space, closing⟩ := opens_print data
  cases vs with
  | nil => exact ⟨c, rest, text, space, closing⟩
  | cons w vs =>
    refine ⟨c, rest ++ ',' :: printItems (w :: vs), ?_, space, closing⟩
    simp only [printItems, text, List.cons_append]

theorem printItems_cons (v w : Json) (vs : List Json) :
    printItems (v :: w :: vs) = v.print ++ ',' :: printItems (w :: vs) :=
  rfl

theorem printFields_cons (k : String) (v : Json) (f : String × Json) (fs : List (String × Json)) :
    printFields ((k, v) :: f :: fs) = quoted k ++ ':' :: v.print ++ ',' :: printFields (f :: fs) :=
  rfl

/-- The fields of an object start with a name in quotes. -/
theorem quote_printFields (f : String × Json) (fs : List (String × Json)) :
    ∃ t, printFields (f :: fs) = '"' :: t := by
  obtain ⟨k, v⟩ := f
  cases fs with
  | nil => exact ⟨_, rfl⟩
  | cons g fs => exact ⟨_, rfl⟩

theorem stops_comma (r : Input) : Stops (some ',' :: r) := stops_cons (by decide)

theorem stops_bracket (r : Input) : Stops (some ']' :: r) := stops_cons (by decide)

theorem stops_brace (r : Input) : Stops (some '}' :: r) := stops_cons (by decide)

/-! ### How a value starts -/

section Start

variable {bound : Nat} {r r' : Input} {v : Json}

theorem value_quote {s : String} (read : string? r = some (some s, r')) :
    value (bound + 1) (some '"' :: r) = (.text s, some r') := by
  -- the first character decides which reader goes on
  conv => lhs; whnf
  rw [read]

theorem value_minus (read : number? true r = some (v, r')) :
    value (bound + 1) (some '-' :: r) = (v, some r') := by
  conv => lhs; whnf
  rw [read]

/-- A value that starts with a digit is a number. -/
theorem value_of_isDigit {c : Char} (h : isDigit c = true)
    (read : number? false (some c :: r) = some (v, r')) :
    value (bound + 1) (some c :: r) = (v, some r') := by
  have opens : Opens [c] := opens_of_isDigit h
  have skip : skipSpace (some c :: r) = some c :: r := skipSpace_of_opens opens
  have other : ∀ d, isDigit d = false → c ≠ d := by
    rintro d hd rfl
    rw [h] at hd
    cases hd
  rw [value.eq_def]
  dsimp only
  rw [skip]
  split
  case h_1 he => cases he
  case h_9 => rw [read]
  all_goals
    rename_i he
    exact (other _ (by decide) (Option.some.inj (List.cons.inj he).1)).elim

theorem value_bracket {cs : List Char} {vs : List Json} (opens : Opens cs)
    (read : items bound (cs.map some ++ r) = (vs, some r')) :
    value (bound + 1) (some '[' :: (cs.map some ++ r)) = (.list vs, some r') := by
  have skip := skipSpace_of_opens (r := r) opens
  obtain ⟨c, rest, rfl, _, closing⟩ := opens
  conv => lhs; whnf
  rw [skip]
  split
  · rename_i he
    exact (closing (Option.some.inj (List.cons.inj he).1)).elim
  · rw [read]

theorem value_brace {cs : List Char} {fs : List (String × Json)} (opens : ∃ t, cs = '"' :: t)
    (read : fields bound (cs.map some ++ r) = (fs, some r')) :
    value (bound + 1) (some '{' :: (cs.map some ++ r)) = (.record fs, some r') := by
  obtain ⟨t, rfl⟩ := opens
  show (Json.record (fields bound (('"' :: t).map some ++ r)).1,
    (fields bound (('"' :: t).map some ++ r)).2) = _
  rw [read]

end Start

/-- A numeral is read as a number. -/
theorem value_integer {n : Int} (bound : Nat) (data : IsData (.integer n)) {r : Input}
    (stops : Stops r) :
    value (bound + 1) ((Text.integer n).map some ++ r) = (.integer n, some r) := by
  have whole := integerValue_natAbs data
  unfold Text.integer
  by_cases neg : n < 0
  · simp only [neg, decide_true] at whole
    rw [if_pos neg]
    have read := number?_decimal true n.natAbs stops
    rw [whole] at read
    exact value_minus read
  · simp only [neg, decide_false] at whole
    rw [if_neg neg]
    have read := number?_decimal false n.natAbs stops
    rw [whole] at read
    cases hd : Text.decimal n.natAbs with
    | nil => exact (decimal_ne_nil _ hd).elim
    | cons d ds =>
      rw [hd] at read
      exact value_of_isDigit (isDigit_of_mem_decimal (hd ▸ List.mem_cons_self)) read

/-! ### How a value goes on -/

section Continuation

variable {bound : Nat} {cs : Input} {r r' : Input} {v : Json}

theorem items_last (read : value bound cs = (v, some (some ']' :: r))) :
    items (bound + 1) cs = ([v], some r) := by
  rw [items, read]
  rfl

theorem items_more {vs : List Json} (first : value bound cs = (v, some (some ',' :: r)))
    (read : items bound r = (vs, some r')) : items (bound + 1) cs = (v :: vs, some r') := by
  rw [items, first]
  show (v :: (items bound r).1, (items bound r).2) = _
  rw [read]

/-- A field is a name in quotes, a colon and a value. -/
theorem fields_last (k : String) (read : value bound cs = (v, some (some '}' :: r))) :
    fields (bound + 1) ((quoted k).map some ++ some ':' :: cs) = ([(k, v)], some r) := by
  have name := string?_quoted k (some ':' :: cs)
  have skip : skipSpace ((quoted k).map some ++ some ':' :: cs) =
    some '"' :: ((k.toList.flatMap escape ++ ['"']).map some ++ some ':' :: cs) := rfl
  have colon : skipSpace (some ':' :: cs) = some ':' :: cs := rfl
  rw [fields, skip]
  simp only [name, colon, read]
  rfl

theorem fields_more (k : String) {fs : List (String × Json)}
    (first : value bound cs = (v, some (some ',' :: r)))
    (read : fields bound r = (fs, some r')) :
    fields (bound + 1) ((quoted k).map some ++ some ':' :: cs) = ((k, v) :: fs, some r') := by
  have name := string?_quoted k (some ':' :: cs)
  have skip : skipSpace ((quoted k).map some ++ some ':' :: cs) =
    some '"' :: ((k.toList.flatMap escape ++ ['"']).map some ++ some ':' :: cs) := rfl
  have colon : skipSpace (some ':' :: cs) = some ':' :: cs := rfl
  have comma : skipSpace (some ',' :: r) = some ',' :: r := rfl
  rw [fields, skip]
  simp only [name, colon, first, comma, read]
  rfl

end Continuation

mutual

/-- **A value reads back from its text**, whatever follows that does not continue a number. -/
theorem value_print : ∀ (v : Json) (bound : Nat) (r : Input), IsData v →
    2 * v.print.length < bound → Stops r → value bound (v.print.map some ++ r) = (v, some r)
  | _, 0, _, _, h, _ => (Nat.not_lt_zero _ h).elim
  | .null, bound + 1, r, _, _, _ => rfl
  | .bool true, bound + 1, r, _, _, _ => rfl
  | .bool false, bound + 1, r, _, _, _ => rfl
  | .integer n, bound + 1, r, data, _, stops => value_integer bound data stops
  | .text s, bound + 1, r, _, _, _ => value_quote (string?_quoted s r)
  | .list [], bound + 1, r, _, _, _ => rfl
  | .list (v :: vs), bound + 1, r, data, h, _ => by
    rw [print, List.length_append, List.length_cons] at h
    have inner := items_print (v :: vs) bound r (List.cons_ne_nil _ _) data
      (by simp only [List.length_singleton] at h; omega)
    have := value_bracket (opens_printItems data.1) inner
    simpa [print] using this
  | .record [], bound + 1, r, _, _, _ => rfl
  | .record (f :: fs), bound + 1, r, data, h, _ => by
    rw [print, List.length_append, List.length_cons] at h
    have inner := fields_print (f :: fs) bound r (List.cons_ne_nil _ _) data
      (by simp only [List.length_singleton] at h; omega)
    have := value_brace (quote_printFields f fs) inner
    simpa [print] using this
  | .decimal, _ + 1, _, data, _, _ => data.elim
  | .unreadable, _ + 1, _, data, _, _ => data.elim
  | .nameless _, _ + 1, _, data, _, _ => data.elim
  | .misplaced _, _ + 1, _, data, _, _ => data.elim
  | .fault, _ + 1, _, data, _, _ => data.elim

theorem items_print : ∀ (vs : List Json) (bound : Nat) (r : Input), vs ≠ [] → AreData vs →
    2 * (printItems vs).length + 1 < bound →
    items bound ((printItems vs).map some ++ some ']' :: r) = (vs, some r)
  | _, 0, _, _, _, h => (Nat.not_lt_zero _ h).elim
  | [], _ + 1, _, some_item, _, _ => (some_item rfl).elim
  | [v], bound + 1, r, _, data, h => by
    rw [printItems] at h ⊢
    exact items_last (value_print v bound _ data.1 (by omega) (stops_bracket r))
  | v :: w :: vs, bound + 1, r, _, data, h => by
    rw [printItems_cons, List.length_append, List.length_cons] at h
    have first := value_print v bound _ data.1 (by omega)
      (stops_comma ((printItems (w :: vs)).map some ++ some ']' :: r))
    have rest := items_print (w :: vs) bound r (List.cons_ne_nil _ _) data.2 (by omega)
    have := items_more first rest
    simpa [printItems_cons] using this

theorem fields_print : ∀ (fs : List (String × Json)) (bound : Nat) (r : Input), fs ≠ [] →
    FieldsAreData fs → 2 * (printFields fs).length + 1 < bound →
    fields bound ((printFields fs).map some ++ some '}' :: r) = (fs, some r)
  | _, 0, _, _, _, h => (Nat.not_lt_zero _ h).elim
  | [], _ + 1, _, some_field, _, _ => (some_field rfl).elim
  | [(k, v)], bound + 1, r, _, data, h => by
    rw [printFields, List.length_append, List.length_cons] at h
    have := fields_last k (value_print v bound _ data.1 (by omega) (stops_brace r))
    simpa [printFields] using this
  | (k, v) :: g :: fs, bound + 1, r, _, data, h => by
    rw [printFields_cons, List.length_append, List.length_append, List.length_cons,
      List.length_cons] at h
    have first := value_print v bound _ data.1 (by omega)
      (stops_comma ((printFields (g :: fs)).map some ++ some '}' :: r))
    have rest := fields_print (g :: fs) bound r (List.cons_ne_nil _ _) data.2 (by omega)
    have := fields_more k first rest
    simpa [printFields_cons] using this

end

/-! ## Texts -/

theorem read_print {v : Json} (data : IsData v) : read (v.print.map some) = (v, true) := by
  have := value_print v (2 * (v.print.map some).length + 2) [] data
    (by rw [List.length_map]; omega) stops_nil
  rw [List.append_nil] at this
  unfold read
  rw [this]
  rfl

/-- The octets of a text are read as its characters. -/
theorem scan_toUTF8 (s : String) : scan s.toUTF8 = s.toList.map some := by
  apply scan_of_decode?
  unfold decode? String.fromUTF8?
  rw [dif_pos (show s.toUTF8.IsValidUTF8 from s.isValidUTF8)]
  rfl

/-- **A reader of octets sees the value that was printed.** -/
theorem decodeOctets_compact {α : Type} (r : Reader α) {v : Json} (data : IsData v) :
    decodeOctets r v.compact.toUTF8 = r v := by
  unfold decodeOctets decode
  rw [scan_toUTF8, compact, String.toList_ofList, read_print data]
  cases h : r v with
  | error e => simp [bind, Except.bind, h]
  | ok a => simp [bind, Except.bind, h]

end Marketplace.Json
