import FabricTopology.Decimal
import FabricTopology.Text.Numeral
import Mathlib.Data.List.TakeWhile

/-!
The texts of numbers. That of an integer is digits after at most one minus sign; it spells a number
(`isNumeral_integerText`) and no other integer has it (`integerText_inj`). The text of a double consists of digits, a
point, the letter `e` and minus signs, whichever way the number is laid out (`numeric_finiteText`).
-/
namespace FabricTopology.Decimal
open FabricTopology.Text

/-! ### Integers -/

theorem isDigit_of_mem_digits {n : Nat} {c : Char} (member : c ∈ digits n) : c.isDigit = true :=
  Nat.isDigit_of_mem_toDigits (by omega) (by omega) member

theorem digits_ne_nil (n : Nat) : digits n ≠ [] := Nat.toDigits_ne_nil

theorem digits_inj {m n : Nat} (same : digits m = digits n) : m = n := by
  have value := congrArg (fun ds => Nat.ofDigitChars 10 ds 0) same
  simpa [digits, Nat.ofDigitChars_ten_toDigits] using value

/-- Of names that end in a number the number is told. -/
theorem numbered_inj {stem : String} {m n : Nat} (same : stem ++ toString m = stem ++ toString n) : m = n := by
  have texts := congrArg String.toList same
  rw [String.toList_append, String.toList_append, List.append_cancel_left_eq] at texts
  have numbers : digits m = digits n := by simpa [digits] using texts
  exact digits_inj numbers

theorem digits_cons (n : Nat) : ∃ c rest, digits n = c :: rest ∧ c.isDigit = true := by
  obtain ⟨c, rest, cons⟩ := List.exists_cons_of_ne_nil (digits_ne_nil n)
  exact ⟨c, rest, cons, isDigit_of_mem_digits (by rw [cons]; exact List.mem_cons_self)⟩

/-- An integer is written with a minus sign when it is negative and without a sign otherwise. -/
theorem integerText_cases (n : Int) :
    (n < 0 ∧ integerText n = '-' :: digits n.natAbs) ∨ (0 ≤ n ∧ integerText n = digits n.natAbs) := by
  by_cases negative : n < 0
  · exact .inl ⟨negative, by simp [integerText, negative]⟩
  · exact .inr ⟨by omega, by simp [integerText, negative]⟩

theorem digits_ne_minus (m n : Nat) : digits m ≠ '-' :: digits n := by
  intro same
  have digit : '-'.isDigit = true := isDigit_of_mem_digits (n := m) (by rw [same]; exact List.mem_cons_self)
  exact absurd digit (by decide)

theorem integerText_inj {m n : Int} (same : integerText m = integerText n) : m = n := by
  rcases integerText_cases m with ⟨below, left⟩ | ⟨above, left⟩ <;>
    rcases integerText_cases n with ⟨under, right⟩ | ⟨beyond, right⟩ <;> rw [left, right] at same
  · have size := digits_inj (List.tail_eq_of_cons_eq same)
    omega
  · exact absurd same.symm (digits_ne_minus _ _)
  · exact absurd same (digits_ne_minus _ _)
  · have size := digits_inj same
    omega

theorem isUnsignedNumber_digits (n : Nat) : isUnsignedNumber (digits n) = true := by
  have whole : (digits n).takeWhile Char.isDigit = digits n :=
    List.takeWhile_eq_self_iff.mpr fun c member => isDigit_of_mem_digits member
  have rest : (digits n).dropWhile Char.isDigit = [] :=
    List.dropWhile_eq_nil_iff.mpr fun c member => isDigit_of_mem_digits member
  simp [isUnsignedNumber, whole, rest, digits_ne_nil, isExponent]

theorem dropSign_digits (n : Nat) : dropSign (digits n) = digits n := by
  obtain ⟨c, rest, cons, digit⟩ := digits_cons n
  have plus : c ≠ '+' := by rintro rfl; exact absurd digit (by decide)
  have minus : c ≠ '-' := by rintro rfl; exact absurd digit (by decide)
  simp [cons, dropSign, plus, minus]

theorem isNumeral_integerText (n : Int) : isNumeral (integerText n) = true := by
  rcases integerText_cases n with ⟨_, text⟩ | ⟨_, text⟩
  · simp [text, isNumeral, dropSign, isUnsignedNumber_digits]
  · simp [text, isNumeral, dropSign_digits, isUnsignedNumber_digits]

/-! ### Doubles -/

/-- The marks among the digits of a number. -/
def numberMarks : List Char := ['.', 'e', '-']

/-- Nothing but digits and marks. -/
def Numeric (cs : List Char) : Prop := ∀ c ∈ cs, c.isDigit = true ∨ c ∈ numberMarks

theorem Numeric.append {cs ds : List Char} (left : Numeric cs) (right : Numeric ds) : Numeric (cs ++ ds) :=
  List.forall_mem_append.mpr ⟨left, right⟩

theorem Numeric.mark {c : Char} {cs : List Char} (mark : c ∈ numberMarks) (rest : Numeric cs) : Numeric (c :: cs) :=
  List.forall_mem_cons.mpr ⟨.inr mark, rest⟩

theorem Numeric.sublist {cs ds : List Char} (whole : Numeric cs) (part : ds.Sublist cs) : Numeric ds :=
  fun c member => whole c (part.subset member)

theorem numeric_digits (n : Nat) : Numeric (digits n) := fun _ member => .inl (isDigit_of_mem_digits member)

theorem numeric_zeros (n : Nat) : Numeric (List.replicate n '0') := by
  intro c member
  rw [List.eq_of_mem_replicate member]
  exact .inl (by decide)

/-- An exponent has a minus sign or none. -/
theorem numeric_scale (negative : Prop) [Decidable negative] (m n : Nat) :
    Numeric (if negative then '-' :: digits m else digits n) := by
  split
  · exact .mark (by decide) (numeric_digits m)
  · exact numeric_digits n

theorem numeric_layOut {ds : List Char} (numeric : Numeric ds) (e : Int) : Numeric (layOut ds e) := by
  have point : '.' ∈ numberMarks := by decide
  have letter : 'e' ∈ numberMarks := by decide
  unfold layOut
  simp only
  split
  · exact (numeric.append (numeric_zeros _)).append (.mark point (numeric_zeros 1))
  · split
    · exact (numeric.sublist (List.take_sublist _ _)).append (.mark point (numeric.sublist (List.drop_sublist _ _)))
    · split
      · exact (numeric_zeros 1).append (.mark point ((numeric_zeros _).append numeric))
      · split
        · exact numeric.append (.mark letter (numeric_scale _ _ _))
        · have first := numeric.sublist (List.take_sublist 1 _)
          have others := numeric.sublist (List.drop_sublist 1 _)
          exact (first.append (.mark point others)).append (.mark letter (numeric_scale _ _ _))

theorem numeric_finiteText (x : Float) : Numeric (finiteText x) := by
  have body := numeric_layOut (numeric_digits (Binary.ofFloat x).shortest.coefficient)
    (Binary.ofFloat x).shortest.exponent
  unfold finiteText
  simp only
  split
  · exact .mark (by decide) body
  · exact body

end FabricTopology.Decimal
