import FabricTopology.Json.Number
import FabricTopology.Proofs.Decimal
import FabricTopology.Proofs.Text.Numeral

/-!
Numbers read back from their texts. Reading looks no further than the number (`number?_append`), an integer of 64
bits is read as itself (`number?_integerText`), and a double is if it is legible: reading rounds after each step, so
not every double is.
-/
namespace FabricTopology.Json
open FabricTopology.Decimal FabricTopology.Text

/-- What may follow a number: nothing that the number could go on with. -/
def EndsNumber (rest : List Char) : Prop :=
  ∀ c ∈ rest.head?, c.isDigit = false ∧ c ≠ '.' ∧ c ≠ 'e' ∧ c ≠ 'E'

/-- A finite double that is read back from its text. -/
def LegibleNumber (x : Float) : Prop := x.isFinite = true ∧ number? (finiteText x) = some (.float x, [])

/-- Whether a number was read to its end as the given double. -/
def isReadAs (x : Float) : Option (Json × List Char) → Bool
  | some (.float y, []) => decide (y = x)
  | _ => false

theorem isReadAs_iff {x : Float} {read : Option (Json × List Char)} :
    isReadAs x read = true ↔ read = some (.float x, []) := by
  unfold isReadAs
  split
  · simp
  · rename_i other
    exact iff_of_false (by decide) fun same => other x same

instance (x : Float) : Decidable (LegibleNumber x) :=
  decidable_of_iff (x.isFinite = true ∧ isReadAs x (number? (finiteText x)) = true)
    (and_congr_right fun _ => isReadAs_iff)

section
variable {cs left rest : List Char}

theorem takeWhile_digits_append (ends : EndsNumber rest) (cs : List Char) :
    (cs ++ rest).takeWhile Char.isDigit = cs.takeWhile Char.isDigit := by
  induction cs with
  | nil =>
    cases rest with
    | nil => rfl
    | cons c rest => simp [(ends c rfl).1]
  | cons c cs ih => simp [List.takeWhile_cons, ih]

theorem length_takeWhile_digits (cs : List Char) : (cs.takeWhile Char.isDigit).length ≤ cs.length :=
  (List.takeWhile_sublist _).length_le

theorem wholeDigits?_append (ends : EndsNumber rest) {ds : List Char} (read : wholeDigits? cs = some (ds, left)) :
    wholeDigits? (cs ++ rest) = some (ds, left ++ rest) := by
  have short := length_takeWhile_digits cs
  rw [wholeDigits?, takeWhile_digits_append ends]
  rw [wholeDigits?] at read
  split at read
  · cases read
  · cases read
  · cases read
    rw [List.drop_append_of_le_length short]

theorem fractionDigits?_append (ends : EndsNumber rest) {ds : List Char}
    (read : fractionDigits? cs = some (ds, left)) : fractionDigits? (cs ++ rest) = some (ds, left ++ rest) := by
  unfold fractionDigits? at read
  split at read
  · rename_i more
    have short := length_takeWhile_digits more
    simp only [List.cons_append, fractionDigits?, takeWhile_digits_append ends]
    split at read
    · cases read
    · cases read
      rw [List.drop_append_of_le_length short]
  · rename_i unmarked
    cases read
    unfold fractionDigits?
    split
    · rename_i more same
      cases cs with
      | nil =>
        rw [List.nil_append] at same
        exact absurd rfl (ends '.' (by rw [same]; rfl)).2.1
      | cons c cs =>
        cases same
        exact absurd rfl (unmarked cs)
    · rfl

theorem dropSign_cons_append (c : Char) (cs rest : List Char) :
    dropSign (c :: cs ++ rest) = dropSign (c :: cs) ++ rest := by
  unfold dropSign
  split <;> simp_all

theorem exponentPart?_append (ends : EndsNumber rest) {e : Option Int}
    (read : exponentPart? cs = some (e, left)) : exponentPart? (cs ++ rest) = some (e, left ++ rest) := by
  cases cs with
  | nil =>
    cases read
    cases rest with
    | nil => rfl
    | cons c rest => simp [exponentPart?, (ends c rfl).2.2.1, (ends c rfl).2.2.2]
  | cons c more =>
    simp only [List.cons_append, exponentPart?] at read ⊢
    split at read
    · rename_i letter
      rw [if_pos letter]
      cases more with
      | nil => simp [dropSign] at read
      | cons d more =>
        have short := length_takeWhile_digits (dropSign (d :: more))
        rw [dropSign_cons_append, takeWhile_digits_append ends]
        split at read
        · cases read
        · cases read
          rw [List.drop_append_of_le_length short]
          rfl
    · rename_i other
      cases read
      rw [if_neg other]
      rfl

/-- Reading a number looks no further than the number. -/
theorem number?_append (ends : EndsNumber rest) {j : Json} (read : number? cs = some (j, left)) :
    number? (cs ++ rest) = some (j, left ++ rest) := by
  cases cs with
  | nil => simp [number?, wholeDigits?] at read
  | cons c cs =>
    simp only [number?, Option.bind_eq_bind, Option.bind_eq_some_iff] at read ⊢
    obtain ⟨⟨ds, afterWhole⟩, whole, ⟨fs, afterFraction⟩, fraction, ⟨e, afterExponent⟩, exponent, value⟩ := read
    refine ⟨⟨ds, afterWhole ++ rest⟩, ?_, ⟨fs, afterFraction ++ rest⟩, fractionDigits?_append ends fraction,
      ⟨e, afterExponent ++ rest⟩, exponentPart?_append ends exponent, ?_⟩
    · by_cases minus : c = '-'
      · subst minus
        exact wholeDigits?_append ends whole
      · have unsigned : ∀ more : List Char, ¬((c :: more).head? == some '-') = true := by simpa using minus
        rw [if_neg (unsigned cs)] at whole
        rw [List.cons_append, if_neg (unsigned (cs ++ rest))]
        exact wholeDigits?_append ends whole
    · cases value
      rfl

end

/-- A number starts with a digit or a minus sign. -/
theorem head_of_number? {cs : List Char} {r : Json × List Char} (read : number? cs = some r) :
    ∃ c more, cs = c :: more ∧ (c.isDigit = true ∨ c = '-') := by
  cases cs with
  | nil => simp [number?, wholeDigits?] at read
  | cons c cs =>
    refine ⟨c, cs, rfl, ?_⟩
    by_contra neither
    obtain ⟨digit, minus⟩ := not_or.mp neither
    simp [number?, minus, wholeDigits?, digit] at read

/-! ### Integers -/

theorem digitsValue_digits (n : Nat) : digitsValue (digits n) = n := by
  rw [digitsValue, ← Nat.ofDigitChars_eq_foldl, digits, Nat.ofDigitChars_ten_toDigits]

/-- Only zero is written with a zero in front. -/
theorem head?_digits {n : Nat} (positive : 0 < n) : (digits n).head? ≠ some '0' := by
  induction n using Nat.strongRecOn with
  | ind n ih =>
    by_cases small : n < 10
    · rw [digits, Nat.toDigits_of_lt_base small]
      have nonzero : ∀ d < 10, 0 < d → [Nat.digitChar d].head? ≠ some '0' := by decide
      exact nonzero n small positive
    · have more : digits n = digits (n / 10) ++ [(n % 10).digitChar] := Nat.toDigits_of_base_le (by omega) (by omega)
      obtain ⟨c, rest, cons, _⟩ := digits_cons (n / 10)
      have head := ih (n / 10) (by omega) (by omega)
      rw [cons] at head
      rwa [more, cons]

theorem wholeDigits?_digits (n : Nat) : wholeDigits? (digits n) = some (digits n, []) := by
  have all : (digits n).takeWhile Char.isDigit = digits n :=
    List.takeWhile_eq_self_iff.mpr fun _ member => isDigit_of_mem_digits member
  rw [wholeDigits?, all]
  split
  · rename_i none
    exact absurd none (digits_ne_nil n)
  · rename_i c more zero
    rcases Nat.eq_zero_or_pos n with rfl | positive
    · simp [digits] at zero
    · exact absurd (by rw [zero]; rfl) (head?_digits positive)
  · rw [List.drop_length]

theorem number?_digits {m : Nat} (fits : m ≤ word64Max) : number? (digits m) = some (.int m, []) := by
  have unsigned : (digits m).head? ≠ some '-' := by
    obtain ⟨c, rest, cons, digit⟩ := digits_cons m
    rw [cons]
    rintro minus
    cases minus
    exact absurd digit (by decide)
  simp [number?, unsigned, wholeDigits?_digits, fractionDigits?, exponentPart?, NumberText.value, NumberText.int?,
    digitsValue_digits, fits]

theorem number?_minus_digits {m : Nat} (fits : 1 ≤ m ∧ m ≤ 0x8000000000000000) :
    number? ('-' :: digits m) = some (.int (-m), []) := by
  simp [number?, wholeDigits?_digits, fractionDigits?, exponentPart?, NumberText.value, NumberText.int?,
    digitsValue_digits, fits]

/-- The integers of at most 64 bits, with or without a sign. -/
def IsWord (n : Int) : Prop := -0x8000000000000000 ≤ n ∧ n ≤ word64Max

/-- An integer of 64 bits is read back from its text. -/
theorem number?_integerText {n : Int} (fits : IsWord n) : number? (integerText n) = some (.int n, []) := by
  obtain ⟨above, below⟩ := fits
  rcases integerText_cases n with ⟨negative, text⟩ | ⟨natural, text⟩
  · have size : -(n.natAbs : Int) = n := by omega
    rw [text, number?_minus_digits (by omega), size]
  · have size : (n.natAbs : Int) = n := by omega
    rw [text, number?_digits (by omega), size]

end FabricTopology.Json
