import FabricTopology.Text.Numeral
import Mathlib.Algebra.Group.Nat.Defs

/-!
Numbers read back. A hexadecimal number written in a width that is enough for it stands for itself
(`hexNumber?_hexText`), and its text holds nothing but the sixteen digits in lower case. The grammar of numerals is an
optional sign, digits, an optional fraction and an optional exponent, and whatever is spelled by these rules is
recognised (`isNumeral_of_grammar`).
-/
namespace FabricTopology.Text

/-! ### Hexadecimal numbers -/

/-- The number that hexadecimal digits stand for. -/
def hexNumber? (ds : List Char) : Option Nat := do
  let values ← ds.mapM hexValue?
  return values.foldl (fun n d => 16 * n + d) 0

theorem hexValue?_digitChar : ∀ d < 16, hexValue? d.digitChar = some d := by decide

/-- Letters and digits by their code points. -/
theorem isAlphanum_iff {c : Char} : c.isAlphanum = true ↔
    (0x41 ≤ c.toNat ∧ c.toNat ≤ 0x5A) ∨ (0x61 ≤ c.toNat ∧ c.toNat ≤ 0x7A) ∨ (0x30 ≤ c.toNat ∧ c.toNat ≤ 0x39) := by
  change (decide (c.val ≥ 'A'.val ∧ c.val ≤ 'Z'.val) || (decide (c.val ≥ 'a'.val) && decide (c.val ≤ 'z'.val)) ||
    (decide (c.val ≥ '0'.val) && decide (c.val ≤ '9'.val))) = true ↔ _
  simp only [Bool.or_eq_true, Bool.and_eq_true, decide_eq_true_eq, ge_iff_le, UInt32.le_iff_toNat_le]
  exact or_assoc

/-- A hexadecimal digit is a digit or a letter. -/
theorem isAlphanum_of_hexValue? {c : Char} {d : Nat} (value : hexValue? c = some d) : c.isAlphanum = true := by
  unfold hexValue? at value
  simp only at value
  split at value
  · next digit => simp [Char.isAlphanum, digit]
  · rw [isAlphanum_iff]
    split at value
    · omega
    · split at value
      · omega
      · cases value

theorem hexNumber?_concat (ds : List Char) (d n : Nat) (small : d < 16) (value : hexNumber? ds = some n) :
    hexNumber? (ds ++ [d.digitChar]) = some (16 * n + d) := by
  simp only [hexNumber?, Option.bind_eq_bind, Option.bind_eq_some_iff] at value
  obtain ⟨values, read, sum⟩ := value
  have sum : values.foldl (fun n d => 16 * n + d) 0 = n := by simpa using sum
  simp [hexNumber?, List.mapM_append, read, hexValue?_digitChar d small, sum]

/-- A wider text ends in the last digit and begins with the text of the others. -/
theorem hexText_succ (width n : Nat) (wide : 0 < width) :
    hexText (width + 1) n = hexText width (n / 16) ++ [(n % 16).digitChar] := by
  by_cases small : n < 16
  · obtain ⟨w, rfl⟩ : ∃ w, width = w + 1 := ⟨width - 1, by omega⟩
    have zero : n / 16 = 0 := by omega
    simp [hexText, Nat.toDigits_of_lt_base small, zero, Nat.mod_eq_of_lt small, Nat.toDigits_zero,
      List.replicate_succ']
  · have more : Nat.toDigits 16 n = Nat.toDigits 16 (n / 16) ++ [(n % 16).digitChar] :=
      Nat.toDigits_of_base_le (by omega) (by omega)
    simp [hexText, more]

theorem hexText_one {n : Nat} (small : n < 16) : hexText 1 n = [n.digitChar] := by
  simp [hexText, Nat.toDigits_of_lt_base small]

theorem hexText_four {n : Nat} (fits : n < 16 ^ 4) :
    hexText 4 n = [(n / 16 / 16 / 16).digitChar, (n / 16 / 16 % 16).digitChar, (n / 16 % 16).digitChar,
      (n % 16).digitChar] := by
  rw [hexText_succ 3 n (by omega), hexText_succ 2 (n / 16) (by omega), hexText_succ 1 (n / 16 / 16) (by omega),
    hexText_one (by omega)]
  rfl

theorem hexNumber?_hexText (width n : Nat) (fits : n < 16 ^ (width + 1)) :
    hexNumber? (hexText (width + 1) n) = some n := by
  induction width generalizing n with
  | zero =>
    have small : n < 16 := by simpa using fits
    simp [hexText_one small, hexNumber?, hexValue?_digitChar n small]
  | succ width ih =>
    have fewer : n / 16 < 16 ^ (width + 1) := by rw [Nat.pow_succ] at fits; omega
    rw [hexText_succ (width + 1) n (by omega),
      hexNumber?_concat _ (n % 16) (n / 16) (by omega) (ih (n / 16) fewer)]
    congr 1
    omega

/-- Every character of a hexadecimal number is one of its sixteen digits. -/
theorem mem_hexText {width n : Nat} {c : Char} (wide : 0 < width) (fits : n < 16 ^ width) (member : c ∈ hexText width n) :
    ∃ d < 16, c = d.digitChar := by
  obtain ⟨w, rfl⟩ : ∃ w, width = w + 1 := ⟨width - 1, by omega⟩
  induction w generalizing n with
  | zero =>
    have small : n < 16 := by simpa using fits
    exact ⟨n, small, by simpa [hexText_one small] using member⟩
  | succ w ih =>
    rw [hexText_succ (w + 1) n (by omega), List.mem_append, List.mem_singleton] at member
    rcases member with before | last
    · exact ih (by omega) (by rw [Nat.pow_succ] at fits; omega) before
    · exact ⟨n % 16, by omega, last⟩

/-! ### The grammar of numerals -/

/-- Characters of one kind, at least one. -/
structure Row (kind : Char → Bool) (cs : List Char) : Prop where
  nonempty : cs ≠ []
  all : ∀ c ∈ cs, kind c = true

/-- What may stand before the digits of a number. -/
def signs : List (List Char) := [[], ['+'], ['-']]

/-- A point and digits after it, or nothing. -/
inductive Fraction : List Char → Prop where
  | absent : Fraction []
  | digits {ds : List Char} (all : ∀ d ∈ ds, d.isDigit = true) : Fraction ('.' :: ds)

/-- The letter `e`, an optional sign and digits, or nothing. -/
inductive Exponent : List Char → Prop where
  | absent : Exponent []
  | digits {letter : Char} {sign ds : List Char} (known : letter = 'e' ∨ letter = 'E') (signed : sign ∈ signs)
      (row : Row Char.isDigit ds) : Exponent (letter :: (sign ++ ds))

/-- Digits, an optional fraction and an optional exponent. -/
inductive UnsignedNumber : List Char → Prop where
  | parts {whole fraction exponent : List Char} (row : Row Char.isDigit whole) (broken : Fraction fraction)
      (scaled : Exponent exponent) : UnsignedNumber (whole ++ (fraction ++ exponent))

theorem Row.cons {kind : Char → Bool} {cs : List Char} (row : Row kind cs) :
    ∃ c rest, cs = c :: rest ∧ kind c = true := by
  obtain ⟨c, rest, rfl⟩ := List.exists_cons_of_ne_nil row.nonempty
  exact ⟨c, rest, rfl, row.all c List.mem_cons_self⟩

theorem dropSign_cons {c : Char} (bare : c ≠ '+' ∧ c ≠ '-') (cs : List Char) : dropSign (c :: cs) = c :: cs := by
  simp [dropSign, bare.1, bare.2]

/-- One sign is dropped, and no other character. -/
theorem dropSign_append {sign : List Char} {c : Char} (signed : sign ∈ signs) (bare : c ≠ '+' ∧ c ≠ '-')
    (cs : List Char) : dropSign (sign ++ c :: cs) = c :: cs := by
  simp only [signs, List.mem_cons, List.not_mem_nil, or_false] at signed
  rcases signed with rfl | rfl | rfl
  · exact dropSign_cons bare cs
  · rfl
  · rfl

theorem bare_of_isDigit {c : Char} (digit : c.isDigit = true) : c ≠ '+' ∧ c ≠ '-' := by
  constructor <;> rintro rfl <;> exact absurd digit (by decide)

theorem dropSign_row {sign ds : List Char} (signed : sign ∈ signs) (row : Row Char.isDigit ds) :
    dropSign (sign ++ ds) = ds := by
  obtain ⟨c, rest, rfl, digit⟩ := row.cons
  exact dropSign_append signed (bare_of_isDigit digit) rest

theorem isExponent_of_exponent {cs : List Char} (scaled : Exponent cs) : isExponent cs = true := by
  cases scaled with
  | absent => rfl
  | digits known signed row =>
    rw [isExponent, dropSign_row signed row]
    rcases known with rfl | rfl <;> simpa [isDigits, row.nonempty] using row.all

/-- What follows the digits of a number does not go on with a digit. -/
theorem takeWhile_digits {ds rest : List Char} (all : ∀ d ∈ ds, d.isDigit = true)
    (stops : ∀ c ∈ rest.head?, c.isDigit = false) :
    (ds ++ rest).takeWhile Char.isDigit = ds ∧ (ds ++ rest).dropWhile Char.isDigit = rest := by
  rw [List.takeWhile_append_of_pos all, List.dropWhile_append_of_pos all]
  cases rest with
  | nil => simp
  | cons c rest => simp [stops c rfl]

theorem Exponent.stops {cs : List Char} (scaled : Exponent cs) : ∀ c ∈ cs.head?, c.isDigit = false := by
  cases scaled with
  | absent => simp
  | digits known _ _ => rcases known with rfl | rfl <;> simp

theorem isUnsignedNumber_of_grammar {cs : List Char} (number : UnsignedNumber cs) : isUnsignedNumber cs = true := by
  obtain @⟨whole, fraction, exponent, row, broken, scaled⟩ := number
  have exponents := isExponent_of_exponent scaled
  cases broken with
  | absent =>
    obtain ⟨front, back⟩ := takeWhile_digits row.all scaled.stops
    rw [isUnsignedNumber, List.nil_append, front, back]
    cases scaled with
    | absent => simp [row.nonempty, isExponent]
    | digits known _ _ => rcases known with rfl | rfl <;> simpa [row.nonempty] using exponents
  | @digits ds all =>
    have point : ∀ c ∈ ('.' :: ds ++ exponent).head?, c.isDigit = false := by simp
    obtain ⟨front, back⟩ := takeWhile_digits row.all point
    obtain ⟨_, rest⟩ := takeWhile_digits all scaled.stops
    rw [isUnsignedNumber, front, back]
    simp [row.nonempty, rest, exponents]

/-- A number after a sign is recognised. -/
theorem isNumeral_of_grammar {sign cs : List Char} (signed : sign ∈ signs) (number : UnsignedNumber cs) :
    isNumeral (sign ++ cs) = true := by
  have recognised := isUnsignedNumber_of_grammar number
  obtain ⟨row, _, _⟩ := number
  obtain ⟨c, rest, rfl, digit⟩ := row.cons
  rw [isNumeral, List.cons_append, dropSign_append signed (bare_of_isDigit digit), ← List.cons_append, recognised,
    Bool.true_or]

/-- A row of digits is a number. -/
theorem unsignedNumber_of_row {ds : List Char} (row : Row Char.isDigit ds) : UnsignedNumber ds := by
  have plain := UnsignedNumber.parts row .absent .absent
  rwa [List.append_nil, List.append_nil] at plain

end FabricTopology.Text
