import Mathlib.Algebra.Group.Nat.Defs
import Mathlib.Data.List.TakeWhile
import Deliberation.Time.Timestamp
/-! The written form of an instant denotes it. Every number is written with all digits of its field, so
that reading it takes these digits and no more, whatever follows them. -/

namespace Deliberation

namespace Numeral

theorem isDigit_of_isDigit {c : Char} (h : c.isDigit = true) : isDigit c = true := by
  simp only [Char.isDigit, Bool.and_eq_true, decide_eq_true_eq] at h
  simp only [isDigit, Bool.and_eq_true, decide_eq_true_eq]
  exact h

theorem digitsValue_eq (digits : List Char) : digitsValue digits = Nat.ofDigitChars 10 digits 0 :=
  Nat.ofDigitChars_eq_foldl.symm

end Numeral

namespace Text

theorem isBlank_of_isDigit {c : Char} (h : Numeral.isDigit c = true) : isBlank c = false := by
  simp only [Numeral.isDigit, Bool.and_eq_true, decide_eq_true_eq, Char.le_def, UInt32.le_iff_toNat_le]
    at h
  have bounds : 48 ≤ c.toNat ∧ c.toNat ≤ 57 := h
  simp [isBlank]
  omega

theorem trimStart_cons {c : Char} (h : isBlank c = false) (rest : List Char) :
    trimStart (c :: rest) = c :: rest := by
  simp [trimStart, h]

end Text

namespace Timestamp

open Numeral (isDigit digitsValue)

theorem toList_pushn (c : Char) (count : Nat) : ("".pushn c count).toList = List.replicate count c := by
  rw [String.pushn_eq_repeat_push]
  induction count with
  | zero => rfl
  | succ n ih => rw [Nat.repeat, String.toList_push, ih, List.replicate_succ']

theorem toList_padded (width n : Nat) :
    (padded width n).toList =
      List.replicate (width - (Nat.toDigits 10 n).length) '0' ++ Nat.toDigits 10 n := by
  have written : (toString n).toList = Nat.toDigits 10 n := Nat.toList_repr
  have length : (toString n).length = (Nat.toDigits 10 n).length := by
    rw [← written, String.length_toList]
  simp only [padded, String.toList_append, toList_pushn, written, length]

/-- Digits that denote a number. -/
structure Digits (text : List Char) (n : Nat) : Prop where
  digits : ∀ c ∈ text, isDigit c = true
  nonempty : text ≠ []
  value : digitsValue text = n

theorem digits_padded (width n : Nat) : Digits (padded width n).toList n where
  digits := by
    intro c member
    rw [toList_padded] at member
    obtain filling | digit := List.mem_append.mp member
    · rw [List.eq_of_mem_replicate filling]
      decide
    · exact Numeral.isDigit_of_isDigit (Nat.isDigit_of_mem_toDigits (by decide) (by decide) digit)
  nonempty := by
    rw [toList_padded]
    exact List.append_ne_nil_of_right_ne_nil _ Nat.toDigits_ne_nil
  value := by
    rw [toList_padded, Numeral.digitsValue_eq, Nat.ofDigitChars_append, Nat.ofDigitChars_replicate_zero,
      Nat.mul_zero, Nat.ofDigitChars_ten_toDigits]

theorem length_padded {width n : Nat} (pos : 0 < width) (fits : n < 10 ^ width) :
    (padded width n).toList.length = width := by
  have digits := (Nat.length_toDigits_le_iff (by decide) pos).mpr fits
  rw [toList_padded, List.length_append, List.length_replicate]
  omega

section
variable {digits rest : List Char} {n : Nat}

theorem Digits.trimStart_eq (h : Digits digits n) (rest : List Char) :
    Text.trimStart (digits ++ rest) = digits ++ rest := by
  obtain ⟨c, more, rfl⟩ := List.exists_cons_of_ne_nil h.nonempty
  exact Text.trimStart_cons (Text.isBlank_of_isDigit (h.digits c List.mem_cons_self)) _

theorem Digits.takeWhile_eq (h : Digits digits n) (stops : rest.head?.any isDigit = false) :
    (digits ++ rest).takeWhile isDigit = digits := by
  have none_more : rest.takeWhile isDigit = [] := by
    cases rest with
    | nil => rfl
    | cons c more => exact List.takeWhile_cons_of_neg (by simpa using stops)
  rw [List.takeWhile_append_of_pos h.digits, none_more, List.append_nil]

theorem Digits.dropWhile_eq (h : Digits digits n) (stops : rest.head?.any isDigit = false) :
    (digits ++ rest).dropWhile isDigit = rest := by
  have whole := List.takeWhile_append_dropWhile (p := isDigit) (l := digits ++ rest)
  rw [h.takeWhile_eq stops] at whole
  exact List.append_cancel_left whole

theorem Digits.number?_eq (h : Digits digits n) (rest : List Char) :
    number? digits.length (digits ++ rest) = some (n, rest) := by
  have all : digits.takeWhile isDigit = digits := List.takeWhile_eq_self_iff.mpr h.digits
  simp [number?, h.trimStart_eq, all, h.nonempty, h.value]

end

theorem number?_padded {width n : Nat} (pos : 0 < width) (fits : n < 10 ^ width) (rest : List Char) :
    number? width ((padded width n).toList ++ rest) = some (n, rest) := by
  have read := (digits_padded width n).number?_eq rest
  rwa [length_padded pos fits] at read

theorem separator?_cons {c : Char} (solid : Text.isBlank c = false) (rest : List Char) :
    separator? c (c :: rest) = some rest := by
  simp [separator?, Text.trimStart_cons solid]

theorem year?_unsigned {c : Char} (digit : isDigit c = true) (rest : List Char) :
    year? (c :: rest) = (number? 4 (c :: rest)).map fun (n, rest) => ((n : Int), rest) := by
  rw [year?, Text.trimStart_cons (Text.isBlank_of_isDigit digit)]
  split
  · rename_i signed
    obtain ⟨rfl, -⟩ := List.cons.inj signed
    contradiction
  · rename_i signed
    obtain ⟨rfl, -⟩ := List.cons.inj signed
    contradiction
  · rfl

theorem year?_minus (rest : List Char) : year? ('-' :: rest) = year?.signed rest fun n => -(n : Int) := by
  rw [year?, Text.trimStart_cons (by decide)]
  rfl

theorem year?_plus (rest : List Char) : year? ('+' :: rest) = year?.signed rest fun n => (n : Int) := by
  rw [year?, Text.trimStart_cons (by decide)]
  rfl

theorem signed_eq {digits rest : List Char} {n : Nat} (h : Digits digits n)
    (stops : rest.head?.any isDigit = false) (toYear : Nat → Int) :
    year?.signed (digits ++ rest) toYear = some (toYear n, rest) := by
  simp only [year?.signed, h.takeWhile_eq stops, h.dropWhile_eq stops, h.nonempty, h.value, if_false]

theorem year?_yearText (year : Int) {rest : List Char} (stops : rest.head?.any isDigit = false) :
    year? ((yearText year).toList ++ rest) = some (year, rest) := by
  have digits := digits_padded 4
  unfold yearText
  split
  · rename_i plain
    have same : (year.toNat : Int) = year := Int.toNat_of_nonneg plain.1
    have read := number?_padded (by decide) (by omega : year.toNat < 10 ^ 4) rest
    obtain ⟨c, more, start⟩ := List.exists_cons_of_ne_nil (digits year.toNat).nonempty
    have first : isDigit c = true := (digits year.toNat).digits c (start ▸ List.mem_cons_self)
    rw [start, List.cons_append] at read ⊢
    rw [year?_unsigned first, read, Option.map_some]
    exact congrArg (fun year => some (year, rest)) same
  · have read := signed_eq (digits year.natAbs) stops
    have minus : ("-" : String).toList = ['-'] := rfl
    have plus : ("+" : String).toList = ['+'] := rfl
    rw [String.toList_append, List.append_assoc]
    split
    · have same : -(year.natAbs : Int) = year := by omega
      rw [minus, List.singleton_append, year?_minus, read, same]
    · have same : (year.natAbs : Int) = year := by omega
      rw [plus, List.singleton_append, year?_plus, read, same]

/-- A fraction reads back where the places that it leaves out are zeros. -/
theorem fraction?_padded {places nanosecond : Nat} (pos : 0 < places) (few : places ≤ 9)
    (fits : nanosecond < 10 ^ 9) (zeros : nanosecond % 10 ^ (9 - places) = 0) {rest : List Char}
    (stops : rest.head?.any isDigit = false) :
    fraction? (("." ++ padded places (nanosecond / 10 ^ (9 - places))).toList ++ rest) =
      some (nanosecond, rest) := by
  have whole : 10 ^ (9 - places) * 10 ^ places = 10 ^ 9 := by
    rw [← Nat.pow_add, Nat.sub_add_cancel few]
  have same : nanosecond / 10 ^ (9 - places) * 10 ^ (9 - places) = nanosecond :=
    Nat.div_mul_cancel (Nat.dvd_of_mod_eq_zero zeros)
  have digits := digits_padded places (nanosecond / 10 ^ (9 - places))
  have length := length_padded pos (Nat.div_lt_of_lt_mul (whole ▸ fits))
  have dot : ("." : String).toList = ['.'] := rfl
  rw [String.toList_append, dot, List.singleton_append]
  generalize (padded places (nanosecond / 10 ^ (9 - places))).toList = units at digits length
  have cut : (units ++ rest).take 9 = units ++ rest.take (9 - places) := by
    rw [List.take_append, length, List.take_of_length_le (length.le.trans few)]
  have stops_early : (rest.take (9 - places)).head?.any isDigit = false := by
    rw [List.head?_take]
    split
    · rfl
    · exact stops
  simp only [fraction?, List.cons_append, cut, digits.takeWhile_eq stops_early, digits.nonempty,
    digits.value, length, digits.dropWhile_eq stops, if_false]
  exact congrArg (fun n => some (n, rest)) same

theorem fraction?_fractionText {nanosecond : Nat} (h : nanosecond < 10 ^ 9) {rest : List Char}
    (stops : rest.head?.any isDigit = false) (other : rest.head? ≠ some '.') :
    fraction? ((fractionText nanosecond).toList ++ rest) = some (nanosecond, rest) := by
  unfold fractionText
  split
  · rename_i none_left
    subst none_left
    change fraction? rest = _
    unfold fraction?
    split
    · simp at other
    · rfl
  · split
    · rename_i millis
      exact fraction?_padded (by decide : 0 < 3) (by decide) h millis stops
    · split
      · rename_i micros
        exact fraction?_padded (by decide : 0 < 6) (by decide) h micros stops
      · have nanos := fraction?_padded (by decide : 0 < 9) (by decide) h (Nat.mod_one _) stops
        rwa [Nat.sub_self, Nat.pow_zero, Nat.div_one] at nanos

theorem ofNumbers?_date (d : Date) : Date.ofNumbers? d.year d.month d.day = some d :=
  dif_pos ⟨d.year_mem, d.day_mem⟩

/-- A leap second is written as the second 60, with the nanoseconds that pass the second before it. -/
theorem ofNumbers?_clock (c : Clock) :
    Clock.ofNumbers? c.hour c.minute (c.second + c.nanosecond / 1000000000)
      (c.nanosecond % 1000000000) = some c := by
  obtain ⟨hour, minute, second, nanosecond, hour_lt, minute_lt, second_lt, nanosecond_lt⟩ := c
  dsimp only [Clock.ofNumbers?]
  by_cases plain : nanosecond < 1000000000
  · simp only [Nat.div_eq_of_lt plain, Nat.mod_eq_of_lt plain, Nat.add_zero]
    rw [dif_pos ⟨hour_lt, minute_lt, second_lt, plain⟩]
  · obtain ⟨leap, rfl⟩ := nanosecond_lt.resolve_left plain
    have one : nanosecond / 1000000000 = 1 := by omega
    have passed : 1000000000 + nanosecond % 1000000000 = nanosecond := by omega
    simp only [one, passed]
    rw [dif_neg (by omega), dif_pos ⟨hour_lt, minute_lt, trivial, Nat.mod_lt _ (by decide)⟩]

theorem ofLocal?_utc (i : Instant) : Instant.ofLocal? i.date i.clock 0 = some i := by
  obtain ⟨date, clock⟩ := i
  have hour := clock.hour_lt
  have minute := clock.minute_lt
  have minutes : clock.minutes = 60 * clock.hour + clock.minute := rfl
  have same : clock.atMinute clock.minutes = clock := by
    have hours : clock.minutes / 60 % 24 = clock.hour := by omega
    have rest : clock.minutes % 60 = clock.minute := by omega
    simp only [Clock.atMinute, hours, rest]
  simp only [Instant.ofLocal?, Int.sub_zero, Int.toNat_natCast, same]
  rw [if_neg (by omega), if_pos (by omega)]

/-- Months and days are written with two digits. -/
theorem date_lt (d : Date) : d.month < 10 ^ 2 ∧ d.day < 10 ^ 2 := by
  obtain ⟨first, last⟩ := d.day_mem
  have days : daysInMonth d.year d.month ≤ 31 := by
    unfold daysInMonth
    split
    case h_12 => split <;> decide
    all_goals decide
  have months : 12 < d.month → daysInMonth d.year d.month = 0 := by
    intro beyond
    unfold daysInMonth
    split <;> first | rfl | omega
  omega

/-- Reading the text of an instant gives the instant. -/
theorem read?_text (i : Instant) : read? (text i).toList = some i := by
  obtain ⟨month, day⟩ := date_lt i.date
  have hour : i.clock.hour < 10 ^ 2 := by have := i.clock.hour_lt; omega
  have minute : i.clock.minute < 10 ^ 2 := by have := i.clock.minute_lt; omega
  have second : i.clock.second + i.clock.nanosecond / 1000000000 < 10 ^ 2 := by
    have := i.clock.second_lt
    have := i.clock.nanosecond_lt
    omega
  have two {n : Nat} (fits : n < 10 ^ 2) (rest : List Char) := number?_padded (by decide) fits rest
  have written : (text i).toList = (yearText i.date.year).toList ++ '-' ::
      ((padded 2 i.date.month).toList ++ '-' :: ((padded 2 i.date.day).toList ++ 'T' ::
        ((padded 2 i.clock.hour).toList ++ ':' :: ((padded 2 i.clock.minute).toList ++ ':' ::
          ((padded 2 (i.clock.second + i.clock.nanosecond / 1000000000)).toList ++
            ((fractionText (i.clock.nanosecond % 1000000000)).toList ++ ['Z'])))))) := by
    simp [text, String.toList_append, List.append_assoc]
  rw [written]
  have dash := separator?_cons (by decide : Text.isBlank '-' = false)
  have colon := separator?_cons (by decide : Text.isBlank ':' = false)
  have fraction : fraction? ((fractionText (i.clock.nanosecond % 1000000000)).toList ++ ['Z']) =
      some (i.clock.nanosecond % 1000000000, ['Z']) :=
    fraction?_fractionText (Nat.mod_lt _ (by decide)) rfl (by decide)
  have zone : offset? (Text.trimStart ['Z']) = some (0, []) := rfl
  have blank : Text.trimStart [] = [] := rfl
  simp only [read?, bind, Option.bind]
  rw [year?_yearText _ rfl]
  simp only [dash, colon, two month, two day, two hour, two minute, two second, ofNumbers?_date,
    true_or, if_true, fraction, ofNumbers?_clock, zone, blank, ofLocal?_utc]

end Timestamp

end Deliberation
