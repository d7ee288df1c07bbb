import FabricTopology.Proofs.Text.Numeral
import FabricTopology.Proofs.Yaml.Inline

/-!
What a reader makes of a text without quotes. By its spelling it is null, a truth value, an integer or a
double, and a text otherwise (`Spells`, `ReadsAsText`). Quotes keep all of these spellings from texts but
one kind: integers in base two, and those in any base but ten after a plus sign (`Overlooked`), are written
plain (`misread_iff`).
-/
namespace FabricTopology.Yaml
open FabricTopology.Text

/-- What a reader may find in a plain text instead of a text. -/
inductive Kind where
  | null
  | bool
  | int
  | float
deriving DecidableEq

/-- A base that integers are written in after a mark. -/
structure Base where
  mark : List Char
  size : Nat

/-- The digits of a base. -/
def Base.isDigit (b : Base) (c : Char) : Bool := (hexValue? c).any fun d => d < b.size

def hexadecimal : Base := ⟨['0', 'x'], 16⟩

def octal : Base := ⟨['0', 'o'], 8⟩

def binary : Base := ⟨['0', 'b'], 2⟩

def bases : List Base := [hexadecimal, octal, binary]

/-- The spellings of null. -/
def nullWords : List (List Char) := ["", "~", "null", "Null", "NULL"].map String.toList

/-- The spellings of the truth values. -/
def boolWords : List (List Char) := ["true", "True", "TRUE", "false", "False", "FALSE"].map String.toList

/-- The spellings of infinity without its sign. -/
def infinityWords : List (List Char) := [".inf", ".Inf", ".INF"].map String.toList

/-- The spellings of what is not a number. -/
def nanWords : List (List Char) := [".nan", ".NaN", ".NAN"].map String.toList

/-- What plain texts a reader takes for something else. -/
inductive Spells : Kind → List Char → Prop where
  | null {cs : List Char} (word : cs ∈ nullWords) : Spells .null cs
  | bool {cs : List Char} (word : cs ∈ boolWords) : Spells .bool cs
  | decimal {sign ds : List Char} (signed : sign ∈ signs) (row : Row Char.isDigit ds) : Spells .int (sign ++ ds)
  | based {sign ds : List Char} {b : Base} (known : b ∈ bases) (signed : sign ∈ signs) (row : Row b.isDigit ds) :
      Spells .int (sign ++ (b.mark ++ ds))
  | number {sign cs : List Char} (signed : sign ∈ signs) (number : UnsignedNumber cs) : Spells .float (sign ++ cs)
  | infinity {sign cs : List Char} (signed : sign ∈ signs) (word : cs ∈ infinityWords) : Spells .float (sign ++ cs)
  | nan {cs : List Char} (word : cs ∈ nanWords) : Spells .float cs

/-- A reader takes the plain text for the text that it is. -/
def ReadsAsText (cs : List Char) : Prop := ∀ kind, ¬ Spells kind cs

/-- An integer in base two, or in any base but ten after a plus sign. -/
def Overlooked (cs : List Char) : Prop :=
  ∃ b ∈ bases, ∃ sign ds, Row b.isDigit ds ∧ cs = sign ++ (b.mark ++ ds) ∧ (sign = ['+'] ∨ sign = [] ∧ b = binary)

/-! ### Spellings that have quotes -/

theorem styleOf_eq_plain_iff {inFlow : Bool} {cs : List Char} : styleOf inFlow cs = .plain ↔ PlainText inFlow cs := by
  rw [← needsQuotes_eq_false_iff, styleOf]
  cases needsQuotes inFlow cs with
  | false => simp
  | true => cases cs.any breaksLine <;> simp

section
variable {inFlow : Bool} {cs : List Char}

/-- A plain text has no minus sign before it. -/
theorem PlainText.sign_eq {sign : List Char} (plain : PlainText inFlow (sign ++ cs)) (signed : sign ∈ signs) :
    sign = [] ∨ sign = ['+'] := by
  simp only [signs, List.mem_cons, List.not_mem_nil, or_false] at signed
  rcases signed with rfl | rfl | rfl
  · exact .inl rfl
  · exact .inr rfl
  · exact absurd (show '-' ∈ indicators by decide) (plain.start '-' rfl)

theorem PlainText.not_numeral (plain : PlainText inFlow cs) : ¬ isNumeral cs = true := by
  have numeric := plain.notNumeric
  simp only [looksNumeric, Bool.or_eq_false_iff] at numeric
  exact Bool.eq_false_iff.mp numeric.1.1.1

theorem PlainText.not_word (plain : PlainText inFlow cs) {words : List (List Char)}
    (known : words.all (fun w => w.isEmpty || isReserved w) = true) : cs ∉ words := by
  intro word
  have quoted := List.all_eq_true.mp known cs word
  simp [plain.nonempty, plain.unreserved] at quoted

/-- Only the overlooked ones of the spellings of something else are plain. -/
theorem PlainText.overlooked (plain : PlainText inFlow cs) {kind : Kind} (spells : Spells kind cs) :
    Overlooked cs := by
  cases spells with
  | null word => exact absurd word (plain.not_word (by decide))
  | bool word => exact absurd word (plain.not_word (by decide))
  | nan word => exact absurd word (plain.not_word (by decide))
  | @infinity sign x signed word =>
    have words : sign ++ x ∈ signs.flatMap fun sign => infinityWords.map (sign ++ ·) :=
      List.mem_flatMap.mpr ⟨sign, signed, List.mem_map_of_mem word⟩
    exact absurd words (plain.not_word (by decide))
  | number signed number => exact absurd (isNumeral_of_grammar signed number) plain.not_numeral
  | decimal signed row => exact absurd (isNumeral_of_grammar signed (unsignedNumber_of_row row)) plain.not_numeral
  | @based sign ds b known signed row =>
    -- Marks of bases are looked for at the very start only, and that of base two is not.
    rcases plain.sign_eq signed with rfl | rfl
    · have numeric := plain.notNumeric
      simp only [bases, List.mem_cons, List.not_mem_nil, or_false] at known
      rcases known with rfl | rfl | rfl
      · simp [looksNumeric, hexadecimal] at numeric
      · simp [looksNumeric, octal] at numeric
      · exact ⟨binary, by simp [bases], [], ds, row, rfl, .inr ⟨rfl, rfl⟩⟩
    · exact ⟨b, known, ['+'], ds, row, rfl, .inl rfl⟩

/-! ### Spellings that have no quotes -/

theorem Overlooked.spells (overlooked : Overlooked cs) : Spells .int cs := by
  obtain ⟨b, known, sign, ds, row, rfl, before⟩ := overlooked
  refine .based known ?_ row
  rcases before with rfl | ⟨rfl, _⟩ <;> simp [signs]

theorem isAlphanum_of_isDigit {b : Base} {c : Char} (digit : b.isDigit c = true) : c.isAlphanum = true := by
  simp only [Base.isDigit, Option.any_eq_true] at digit
  obtain ⟨d, value, _⟩ := digit
  exact isAlphanum_of_hexValue? value

/-- How an overlooked text is spelled: a zero and a letter come first, after at most a plus sign. -/
structure ZeroSpelled (cs sign : List Char) (letter : Char) (ds : List Char) : Prop where
  text : cs = sign ++ '0' :: letter :: ds
  sign : sign = ['+'] ∨ sign = [] ∧ letter = 'b'
  letter : letter = 'x' ∨ letter = 'o' ∨ letter = 'b'
  all : ∀ d ∈ ds, d.isAlphanum = true

theorem Overlooked.zeroSpelled (overlooked : Overlooked cs) : ∃ sign letter ds, ZeroSpelled cs sign letter ds := by
  obtain ⟨b, known, sign, ds, row, rfl, before⟩ := overlooked
  have all : ∀ d ∈ ds, d.isAlphanum = true := fun d member => isAlphanum_of_isDigit (row.all d member)
  have mark : ∃ letter, b.mark = ['0', letter] ∧ (letter = 'x' ∨ letter = 'o' ∨ letter = 'b') ∧
      (b = binary → letter = 'b') := by
    simp only [bases, List.mem_cons, List.not_mem_nil, or_false] at known
    rcases known with rfl | rfl | rfl
    · exact ⟨'x', rfl, .inl rfl, fun same => by cases same⟩
    · exact ⟨'o', rfl, .inr (.inl rfl), fun same => by cases same⟩
    · exact ⟨'b', rfl, .inr (.inr rfl), fun _ => rfl⟩
  obtain ⟨letter, mark, letters, two⟩ := mark
  exact ⟨sign, letter, ds, by rw [mark]; rfl, before.imp_right (And.imp_right two), letters, all⟩

namespace ZeroSpelled
variable {sign ds : List Char} {letter : Char}

theorem solid (spelled : ZeroSpelled cs sign letter ds) : ∀ c ∈ cs, c.isAlphanum = true ∨ c = '+' := by
  intro c member
  rw [spelled.text, List.mem_append, List.mem_cons, List.mem_cons] at member
  rcases member with first | rfl | rfl | rest
  · rcases spelled.sign with rfl | ⟨rfl, _⟩
    · exact .inr (List.mem_singleton.mp first)
    · cases first
  · exact .inl (by decide)
  · rcases spelled.letter with rfl | rfl | rfl <;> exact .inl (by decide)
  · exact .inl (spelled.all c rest)

theorem notMem (spelled : ZeroSpelled cs sign letter ds) {marks : List Char}
    (foreign : marks.all (fun c => !c.isAlphanum && c != '+') = true) {c : Char} (mark : c ∈ marks) : c ∉ cs := by
  intro member
  have other := List.all_eq_true.mp foreign c mark
  rcases spelled.solid c member with alphanum | rfl
  · simp [alphanum] at other
  · simp at other

theorem isBlank_eq_false (spelled : ZeroSpelled cs sign letter ds) : ∀ c ∈ cs, isBlank c = false := by
  intro c member
  rcases spelled.solid c member with alphanum | rfl
  · have visible := toNat_of_isAlphanum alphanum
    simp only [isBlank, Bool.or_eq_false_iff, Bool.and_eq_false_imp, decide_eq_true_eq, decide_eq_false_iff_not,
      beq_eq_false_iff_ne]
    omega
  · decide

theorem unbroken (spelled : ZeroSpelled cs sign letter ds) : Unbroken cs := by
  intro c member
  rcases spelled.solid c member with alphanum | rfl
  · exact breaksLine_of_isAtomChar (by simp [isAtomChar, alphanum])
  · decide

theorem zero_mem (spelled : ZeroSpelled cs sign letter ds) : '0' ∈ cs := by
  rw [spelled.text]
  simp

/-- A word without a zero is another text, in any case. -/
theorem map_toLower_ne (spelled : ZeroSpelled cs sign letter ds) {w : String} (missing : '0' ∉ w.toList) :
    cs.map Char.toLower ≠ w.toList := by
  intro same
  refine missing ?_
  rw [← same]
  exact List.mem_map.mpr ⟨'0', spelled.zero_mem, by decide⟩

theorem isReserved_eq_false (spelled : ZeroSpelled cs sign letter ds) : isReserved cs = false := by
  have missing : reserved.all (fun w => !w.toList.contains '0') = true := by decide
  simp only [isReserved, List.any_eq_false, beq_iff_eq]
  intro w member
  have free := List.all_eq_true.mp missing w member
  exact spelled.map_toLower_ne (by simpa using free)

theorem dropSign_eq (spelled : ZeroSpelled cs sign letter ds) : dropSign cs = '0' :: letter :: ds := by
  rw [spelled.text]
  refine dropSign_append ?_ (by decide) _
  rcases spelled.sign with rfl | ⟨rfl, _⟩ <;> simp [signs]

/-- A text of this spelling is no decimal number: a letter follows the zero. -/
theorem isNumeral_eq_false (spelled : ZeroSpelled cs sign letter ds) : isNumeral cs = false := by
  rw [isNumeral, spelled.dropSign_eq]
  rcases spelled.letter with rfl | rfl | rfl <;> simp [isUnsignedNumber, isExponent, isNonFiniteWord]

theorem looksNumeric_eq_false (spelled : ZeroSpelled cs sign letter ds) : looksNumeric cs = false := by
  rw [looksNumeric, spelled.isNumeral_eq_false, spelled.text]
  rcases spelled.sign with rfl | ⟨rfl, rfl⟩ <;> simp [isDigitGroup, List.isPrefixOf]

end ZeroSpelled

/-- An overlooked text is plain, in a block and in a flow. -/
theorem Overlooked.plainText (overlooked : Overlooked cs) (inFlow : Bool) : PlainText inFlow cs := by
  obtain ⟨sign, letter, ds, spelled⟩ := overlooked.zeroSpelled
  have colon : ':' ∉ cs := spelled.notMem (show [':', ' '].all _ = true by decide) (by simp)
  have space : ' ' ∉ cs := spelled.notMem (show [':', ' '].all _ = true by decide) (by simp)
  refine
    { nonempty := ?_
      trimmed := trim_eq_self spelled.isBlank_eq_false
      unreserved := spelled.isReserved_eq_false
      notNumeric := spelled.looksNumeric_eq_false
      start := ?_
      noColon := hasPair_of_notMem colon
      noComment := hasPair_of_notMem space
      noKey := fun last => colon (List.mem_of_getLast? last)
      noMarks := fun _ c member mark => spelled.notMem (show flowMarks.all _ = true by decide) mark member
      unbroken := spelled.unbroken }
  · rintro rfl
    cases spelled.zero_mem
  · intro c first mark
    exact spelled.notMem (show indicators.all _ = true by decide) mark (List.mem_of_head? first)

end

/-! ### What is misread -/

/-- The texts without quotes that a reader takes for something else are the overlooked ones, in a block and in
    a flow. -/
theorem misread_iff (inFlow : Bool) (cs : List Char) :
    styleOf inFlow cs = .plain ∧ ¬ ReadsAsText cs ↔ Overlooked cs := by
  rw [styleOf_eq_plain_iff]
  constructor
  · rintro ⟨plain, misread⟩
    simp only [ReadsAsText, not_forall, not_not] at misread
    obtain ⟨kind, spells⟩ := misread
    exact plain.overlooked spells
  · intro overlooked
    exact ⟨overlooked.plainText inFlow, fun reads => reads .int overlooked.spells⟩

/-- Five in base two is written plain and comes back as an integer. -/
theorem binary_misread : styleOf false "0b101".toList = .plain ∧ styleOf true "0b101".toList = .plain ∧
    Spells .int "0b101".toList := by
  refine ⟨by decide, by decide, ?_⟩
  have row : Row binary.isDigit ['1', '0', '1'] := ⟨by simp, List.all_eq_true.mp (by decide)⟩
  exact .based (show binary ∈ bases by simp [bases]) (show [] ∈ signs by simp [signs]) row

end FabricTopology.Yaml
