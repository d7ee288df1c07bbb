import FabricTopology.Calendar
import FabricTopology.Proofs.Decimal
import FabricTopology.Proofs.Text.Words
import Mathlib.Algebra.Group.Nat.Defs
import Mathlib.Data.List.TakeWhile
import Mathlib.Order.Defs.PartialOrder
import Mathlib.Tactic.ByContra

/-!
The text of a moment is read back as that moment (`ofText?_text`): each part is a row of digits of the
width that its reader takes, a mark that is no digit follows it, and the fraction of a second loses only
zeros at its end.

Moments compare as their places in one line do, and going back some days leads to no later moment.
-/
namespace FabricTopology.Calendar
open FabricTopology.Text FabricTopology.Decimal

/-! ### Rows of digits -/

theorem digitsValue_eq (ds : List Char) : digitsValue ds = Nat.ofDigitChars 10 ds 0 := Nat.ofDigitChars_eq_foldl.symm

theorem isDigit_of_mem_padded {width n : Nat} {c : Char} (member : c ∈ padded width n) : c.isDigit = true := by
  rcases List.mem_append.mp member with zero | digit
  · rw [List.eq_of_mem_replicate zero]
    decide
  · exact isDigit_of_mem_digits digit

theorem digitsValue_padded (width n : Nat) : digitsValue (padded width n) = n := by
  rw [digitsValue_eq, padded, Nat.ofDigitChars_append, Nat.ofDigitChars_replicate_zero, Nat.mul_zero]
  exact Nat.ofDigitChars_ten_toDigits

/-- Zeros at the end multiply. -/
theorem digitsValue_append_zeros (ds : List Char) (n : Nat) :
    digitsValue (ds ++ List.replicate n '0') = digitsValue ds * 10 ^ n := by
  rw [digitsValue_eq, digitsValue_eq, Nat.ofDigitChars_append, Nat.ofDigitChars_replicate_zero, Nat.mul_comm]

theorem padded_ne_nil (width n : Nat) : padded width n ≠ [] :=
  List.append_ne_nil_of_right_ne_nil _ (digits_ne_nil n)

theorem length_padded {width n : Nat} (positive : 0 < width) (fits : n < 10 ^ width) :
    (padded width n).length = width := by
  have short : (digits n).length ≤ width := (Nat.length_toDigits_le_iff (by omega) positive).mpr fits
  simp only [padded, List.length_append, List.length_replicate]
  omega

theorem trimStart_padded (width n : Nat) (rest : List Char) :
    trimStart (padded width n ++ rest) = padded width n ++ rest := by
  obtain ⟨c, more, cons⟩ := List.exists_cons_of_ne_nil (padded_ne_nil width n)
  have digit : c.isDigit = true := isDigit_of_mem_padded (by rw [cons]; exact List.mem_cons_self)
  rw [cons]
  exact List.dropWhile_cons_of_neg (by simp [isBlank_of_isDigit digit])

/-- The digits at the start of a text, if no digit follows them. -/
theorem takeWhile_padded (width n : Nat) {c : Char} (mark : c.isDigit = false) (rest : List Char) :
    (padded width n ++ c :: rest).takeWhile Char.isDigit = padded width n := by
  rw [List.takeWhile_append_of_pos fun d member => isDigit_of_mem_padded member]
  simp [mark]

/-! ### Parts -/

/-- A number of full width is read, whatever follows it. -/
theorem number?_padded {width n : Nat} (positive : 0 < width) (fits : n < 10 ^ width) (rest : List Char) :
    number? width (padded width n ++ rest) = some (n, rest) := by
  have length := length_padded positive fits
  have row : ((padded width n ++ rest).take width).takeWhile Char.isDigit = padded width n := by
    rw [List.take_append_of_le_length (by omega), List.take_of_length_le (by omega)]
    exact List.takeWhile_eq_self_iff.mpr fun c member => isDigit_of_mem_padded member
  simp only [number?, trimStart_padded, row]
  simp [padded_ne_nil, digitsValue_padded]

theorem afterMark?_mark {c : Char} (solid : isBlank c = false) (rest : List Char) :
    afterMark? c (c :: rest) = some rest := by
  simp [afterMark?, trimStart, solid]

/-- A year is read with its sign, if it has one, up to the hyphen after it. -/
theorem year?_yearText (year : Int) (rest : List Char) :
    year? (yearText year ++ '-' :: rest) = some (year, '-' :: rest) := by
  have signed (n : Nat) :
      (if ((padded 4 n ++ '-' :: rest).takeWhile Char.isDigit).isEmpty then none
        else some (digitsValue ((padded 4 n ++ '-' :: rest).takeWhile Char.isDigit),
          (padded 4 n ++ '-' :: rest).drop ((padded 4 n ++ '-' :: rest).takeWhile Char.isDigit).length)) =
        some (n, '-' :: rest) := by
    rw [takeWhile_padded 4 n (by decide) rest, digitsValue_padded, List.drop_left, if_neg (by simp [padded_ne_nil])]
  by_cases four : 0 ≤ year ∧ year ≤ 9999
  · rw [yearText, if_pos four, year?, trimStart_padded]
    have read : number? 4 (padded 4 year.toNat ++ '-' :: rest) = some (year.toNat, '-' :: rest) :=
      number?_padded (by decide) (by omega) _
    obtain ⟨c, more, cons⟩ := List.exists_cons_of_ne_nil (padded_ne_nil 4 year.toNat)
    have digit : c.isDigit = true := isDigit_of_mem_padded (by rw [cons]; exact List.mem_cons_self)
    have minus : c ≠ '-' := by rintro rfl; exact absurd digit (by decide)
    have plus : c ≠ '+' := by rintro rfl; exact absurd digit (by decide)
    rw [cons, List.cons_append] at read ⊢
    simp only
    split
    · next same => exact absurd (List.head_eq_of_cons_eq same) minus
    · next same => exact absurd (List.head_eq_of_cons_eq same) plus
    · rw [read, Option.map_some, Int.toNat_of_nonneg four.1]
  · have blank : isBlank '-' = false ∧ isBlank '+' = false := by decide
    rw [yearText, if_neg four]
    by_cases negative : year < 0
    · simp only [negative, if_true, List.cons_append, year?, trimStart, List.dropWhile_cons_of_neg, blank,
        Bool.false_eq_true, not_false_eq_true, signed, Option.map_some, Option.some.injEq, Prod.mk.injEq, and_true]
      omega
    · simp only [negative, if_false, List.cons_append, year?, trimStart, List.dropWhile_cons_of_neg, blank,
        Bool.false_eq_true, not_false_eq_true, signed, Option.map_some, Option.some.injEq, Prod.mk.injEq, and_true]
      omega

/-- Digits after a point count down from a tenth of a second. -/
theorem fraction?_padded {width n : Nat} (positive : 0 < width) (short : width ≤ 9) (fits : n < 10 ^ width)
    (rest : List Char) :
    fraction? ('.' :: padded width n ++ 'Z' :: rest) = some (n * 10 ^ (9 - width), 'Z' :: rest) := by
  have length := length_padded positive fits
  have row := takeWhile_padded width n (c := 'Z') (by decide) rest
  have nine : (padded width n ++ List.replicate 9 '0').take 9 = padded width n ++ List.replicate (9 - width) '0' := by
    rw [List.take_append, List.take_of_length_le (by omega), List.take_replicate, length, Nat.min_eq_left (by omega)]
  simp only [List.cons_append, fraction?, row]
  rw [nine, digitsValue_append_zeros, digitsValue_padded, List.drop_left]
  simp [padded_ne_nil]

/-- The fraction of a second is read whole. -/
theorem fraction?_fractionText {nano : Nat} (fits : nano < 10 ^ 9) (rest : List Char) :
    fraction? (fractionText nano ++ 'Z' :: rest) = some (nano, 'Z' :: rest) := by
  rw [fractionText]
  split
  · next none =>
    rw [none]
    rfl
  split
  · next millis =>
    rw [fraction?_padded (by decide) (by decide) (by omega)]
    simp only [Option.some.injEq, Prod.mk.injEq, and_true]
    omega
  split
  · next micros =>
    rw [fraction?_padded (by decide) (by decide) (by omega)]
    simp only [Option.some.injEq, Prod.mk.injEq, and_true]
    omega
  · rw [fraction?_padded (by decide) (by decide) fits]
    simp

/-! ### Moments -/

theorem Date.of?_parts (d : Date) : Date.of? d.year d.month d.day = some d := dif_pos ⟨d.inCalendar, d.inMonth⟩

theorem monthLength_le (year : Int) (month : Nat) : monthLength year month ≤ 31 := by
  have lengths : ∀ leap, ∀ length ∈ monthLengths leap, length ≤ 31 := by decide
  rw [monthLength]
  split
  · exact Nat.zero_le 31
  · rw [List.getD_eq_getElem?_getD]
    cases stands : (monthLengths (isLeap year))[month - 1]? with
    | none => exact Nat.zero_le 31
    | some length => exact lengths _ length (List.mem_of_getElem? stands)

theorem month_le_of_monthLength {year : Int} {month : Nat} (positive : 1 ≤ monthLength year month) : month ≤ 12 := by
  by_contra late
  have none : (monthLengths (isLeap year))[month - 1]? = none := by
    rw [List.getElem?_eq_none_iff]
    simp only [monthLengths, List.length_cons, List.length_nil]
    omega
  rw [monthLength, if_neg (by omega), List.getD_eq_getElem?_getD, none] at positive
  exact absurd positive (by decide)

theorem Date.bounds (d : Date) : d.month < 10 ^ 2 ∧ d.day < 10 ^ 2 := by
  obtain ⟨first, last⟩ := d.inMonth
  have month := month_le_of_monthLength (Nat.le_trans first last)
  have day := monthLength_le d.year d.month
  omega

namespace Timestamp

theorem of?_parts (t : Timestamp) : of? t.date t.hour t.minute t.second t.nano = some t := dif_pos t.inDay

/-- A clock that shows Universal Time is right. -/
theorem shift?_zero (t : Timestamp) : t.shift? 0 = some t := by
  obtain ⟨hour, minute, _, _⟩ := t.inDay
  have early : ¬ ((60 * t.hour + t.minute : Nat) : Int) - 0 < 0 := by omega
  have late : ¬ 1440 ≤ ((60 * t.hour + t.minute : Nat) : Int) - 0 := by omega
  have whole : ((((60 * t.hour + t.minute : Nat) : Int) - 0) % 1440).toNat = 60 * t.hour + t.minute := by omega
  have hours : (60 * t.hour + t.minute) / 60 = t.hour := by omega
  have minutes : (60 * t.hour + t.minute) % 60 = t.minute := by omega
  simp only [shift?, early, late, if_false, whole, hours, minutes]
  exact t.of?_parts

/-- The text of a moment stands for that moment. -/
theorem ofText?_text (t : Timestamp) : ofText? t.text = some t := by
  obtain ⟨month, day⟩ := t.date.bounds
  obtain ⟨hour, minute, second, nano⟩ := t.inDay
  have clock : t.hour < 10 ^ 2 ∧ t.minute < 10 ^ 2 ∧ t.second < 10 ^ 2 :=
    ⟨Nat.lt_trans hour (by decide), Nat.lt_trans minute (by decide), Nat.lt_of_le_of_lt second (by decide)⟩
  have two {n : Nat} (fits : n < 10 ^ 2) (rest : List Char) : number? 2 (padded 2 n ++ rest) = some (n, rest) :=
    number?_padded (by decide) fits rest
  have hyphen := afterMark?_mark (c := '-') (by decide)
  have colon := afterMark?_mark (c := ':') (by decide)
  have date : date? (yearText t.date.year ++ '-' :: (padded 2 t.date.month ++ '-' :: (padded 2 t.date.day ++
      'T' :: (padded 2 t.hour ++ ':' :: (padded 2 t.minute ++ ':' :: (padded 2 t.second ++
        (fractionText t.nano ++ ['Z']))))))) = some (t.date, 'T' :: (padded 2 t.hour ++ ':' :: (padded 2 t.minute ++
          ':' :: (padded 2 t.second ++ (fractionText t.nano ++ ['Z']))))) := by
    simp [date?, year?_yearText, hyphen, two month, two day, Date.of?_parts]
  have time : timeOn? t.date (padded 2 t.hour ++ ':' :: (padded 2 t.minute ++ ':' :: (padded 2 t.second ++
      (fractionText t.nano ++ ['Z'])))) = some (t, ['Z']) := by
    simp [timeOn?, colon, two clock.1, two clock.2.1, two clock.2.2, fraction?_fractionText nano, of?_parts]
  have zone : zone? (trimStart ['Z']) = some (0, []) := by decide
  simp only [text, List.append_assoc, List.cons_append] at date time ⊢
  simp only [ofText?, date, time, zone, shift?_zero, Option.bind_eq_bind, Option.bind_some, true_or, if_true,
    List.all_nil]

end Timestamp

/-! ### Order -/

/-- Place of a day among all days, with room for the months of a year and the days of a month. -/
def Date.rank (d : Date) : Int := (d.year * 13 + d.month) * 32 + d.day

theorem Date.rank_of? {year : Int} {month day : Nat} {d : Date} (stands : Date.of? year month day = some d) :
    d.rank = (year * 13 + month) * 32 + day := by
  rw [Date.of?] at stands
  split at stands
  · cases stands
    rfl
  · cases stands

theorem Date.rank_previous? {d p : Date} (before : d.previous? = some p) : p.rank < d.rank := by
  obtain ⟨first, _⟩ := d.inMonth
  rw [Date.previous?] at before
  split at before
  · next later =>
    rw [Date.rank_of? before, Date.rank]
    omega
  · split at before
    · next later =>
      have length := monthLength_le d.year (d.month - 1)
      rw [Date.rank_of? before, Date.rank]
      omega
    · rw [Date.rank_of? before, Date.rank]
      omega

theorem Date.rank_back (d : Date) (n : Nat) : (d.back n).rank ≤ d.rank := by
  induction n generalizing d with
  | zero => exact Int.le_refl _
  | succ n ih =>
    rw [Date.back]
    cases before : d.previous? with
    | none => exact Int.le_refl _
    | some p => exact Int.le_trans (ih p) (Int.le_of_lt (Date.rank_previous? before))

namespace Timestamp

instance : Preorder Timestamp where
  le_refl t := Int.le_refl t.ordinal
  le_trans _ _ _ := Int.le_trans
  lt_iff_le_not_ge _ _ := Int.lt_iff_le_and_not_ge

theorem lt_iff {t u : Timestamp} : t < u ↔ t.ordinal < u.ordinal := Iff.rfl

theorem ordinal_eq (t : Timestamp) :
    t.ordinal = (((t.date.rank * 24 + t.hour) * 60 + t.minute) * 61 + t.second) * 1000000000 + t.nano := rfl

theorem daysBack_le (t : Timestamp) (n : Nat) : t.daysBack n ≤ t := by
  have earlier := Date.rank_back t.date n
  show (t.daysBack n).ordinal ≤ t.ordinal
  rw [ordinal_eq, ordinal_eq]
  simp only [daysBack]
  omega

end Timestamp

end FabricTopology.Calendar
