import FabricTopology.Text.Words
import Mathlib.Data.List.DropRight
import Mathlib.Data.List.TakeWhile
import Mathlib.Tactic.ByContra

/-!
The parts of a text. What stands before the first separator and what stands after it are determined by the text. A text
that trimming leaves as it is neither begins nor ends with a blank, and nothing remains of a text that is all blank.
What trimming leaves has the words of the text (`words_trim`).
-/
namespace FabricTopology.Text

/-! ### The first segment -/

theorem segments_append_cons {separator : Char} {cs : List Char} (missing : separator ∉ cs) (rest : List Char) :
    segments separator (cs ++ separator :: rest) = cs :: segments separator rest := by
  induction cs with
  | nil => simp [segments]
  | cons c cs ih =>
    simp only [List.mem_cons, not_or] at missing
    simp [segments, ih missing.2, Ne.symm missing.1]

theorem segments_of_notMem {separator : Char} {cs : List Char} (missing : separator ∉ cs) :
    segments separator cs = [cs] := by
  induction cs with
  | nil => rfl
  | cons c cs ih =>
    simp only [List.mem_cons, not_or] at missing
    simp [segments, ih missing.2, Ne.symm missing.1]

/-- There is one segment more than there are separators. -/
theorem length_segments (separator : Char) (cs : List Char) :
    (segments separator cs).length = cs.count separator + 1 := by
  fun_induction segments separator cs with
  | case1 => rfl
  | case2 rest ih => rw [List.length_cons, ih, List.count_cons_self]
  | case3 c rest other s more hs ih => rw [hs] at ih; rw [List.count_cons_of_ne other, ← ih]; rfl
  | case4 c rest other none => exact absurd none (segments_ne_nil separator rest)

theorem segments_inj {separator : Char} {cs ds : List Char} (same : segments separator cs = segments separator ds) :
    cs = ds := by
  rw [← intercalate_segments separator cs, same, intercalate_segments]

/-- A text without the separator and what follows the separator after it are determined. -/
theorem append_separator_inj {separator : Char} {cs ds rest more : List Char} (left : separator ∉ cs)
    (right : separator ∉ ds) (same : cs ++ separator :: rest = ds ++ separator :: more) : cs = ds ∧ rest = more := by
  have cut := congrArg (segments separator) same
  rw [segments_append_cons left, segments_append_cons right, List.cons.injEq] at cut
  exact ⟨cut.1, segments_inj cut.2⟩

/-! ### Trimmed texts -/

theorem isBlank_of_isDigit {c : Char} (digit : c.isDigit = true) : isBlank c = false := by
  simp only [Char.isDigit, Bool.and_eq_true, decide_eq_true_eq, ge_iff_le, UInt32.le_iff_toNat_le] at digit
  have low : '0'.val.toNat = 48 := rfl
  have high : '9'.val.toNat = 57 := rfl
  have code : c.val.toNat = c.toNat := rfl
  simp only [isBlank, Bool.or_eq_false_iff, Bool.and_eq_false_imp, decide_eq_true_eq, decide_eq_false_iff_not,
    beq_eq_false_iff_ne]
  omega

theorem length_trimStart_le (cs : List Char) : (trimStart cs).length ≤ cs.length :=
  (List.dropWhile_sublist isBlank).length_le

theorem length_trim_le (cs : List Char) : (trim cs).length ≤ (trimStart cs).length := by
  have bound := length_trimStart_le (trimStart cs).reverse
  simpa [trim] using bound

/-- A trimmed text does not begin with a blank. -/
theorem isBlank_head_of_trim {c : Char} {rest : List Char} (trimmed : trim (c :: rest) = c :: rest) :
    isBlank c = false := by
  by_contra solid
  have blank : isBlank c = true := by simpa using solid
  have shorter : trimStart (c :: rest) = trimStart rest := by simp [trimStart, blank]
  have bound := length_trim_le (c :: rest)
  have below := length_trimStart_le rest
  rw [trimmed, shorter] at bound
  simp only [List.length_cons] at bound
  omega

theorem isBlank_head?_trimStart (cs : List Char) : ∀ c ∈ (trimStart cs).head?, isBlank c = false := by
  intro c first
  have solid := List.head?_dropWhile_not isBlank cs
  rw [trimStart, Option.mem_def] at first
  rw [first] at solid
  simpa using solid

/-- A trimmed text does not end with a blank. -/
theorem isBlank_getLast?_of_trim {cs : List Char} (trimmed : trim cs = cs) : ∀ c ∈ cs.getLast?, isBlank c = false := by
  rw [← trimmed, trim, List.getLast?_reverse]
  exact isBlank_head?_trimStart _

theorem trimStart_eq_nil_iff {cs : List Char} : trimStart cs = [] ↔ ∀ c ∈ cs, isBlank c = true :=
  List.dropWhile_eq_nil_iff

/-- Nothing remains of a text exactly if it is all blank. -/
theorem trim_eq_nil_iff {cs : List Char} : trim cs = [] ↔ ∀ c ∈ cs, isBlank c = true := by
  rw [← trimStart_eq_nil_iff, trim, List.reverse_eq_nil_iff, trimStart_eq_nil_iff]
  constructor
  · intro blank
    -- What remains at the front does not begin with a blank, so there is nothing.
    cases start : trimStart cs with
    | nil => rfl
    | cons c rest =>
      have solid := isBlank_head?_trimStart cs c (by rw [start]; rfl)
      have same := blank c (List.mem_reverse.mpr (by rw [start]; exact List.mem_cons_self))
      rw [solid] at same
      cases same
  · intro none c member
    rw [none] at member
    cases member

theorem isAllBlank_iff {s : String} : isAllBlank s = true ↔ trim s.toList = [] := by
  rw [isAllBlank, List.all_eq_true, trim_eq_nil_iff]

theorem trimStart_eq_self {cs : List Char} (solid : ∀ c ∈ cs, isBlank c = false) : trimStart cs = cs := by
  cases cs with
  | nil => rfl
  | cons c rest => simp [trimStart, solid c List.mem_cons_self]

/-- A text without blanks is trimmed. -/
theorem trim_eq_self {cs : List Char} (solid : ∀ c ∈ cs, isBlank c = false) : trim cs = cs := by
  have backwards : ∀ c ∈ cs.reverse, isBlank c = false := fun c member => solid c (List.mem_reverse.mp member)
  rw [trim, trimStart_eq_self solid, trimStart_eq_self backwards, List.reverse_reverse]

/-! ### Words -/

section
variable {cs : List Char}

theorem trim_eq_rdropWhile (cs : List Char) : trim cs = (trimStart cs).rdropWhile isBlank := rfl

theorem isBlank_head?_trim (cs : List Char) : ∀ c ∈ (trim cs).head?, isBlank c = false := by
  intro c first
  obtain ⟨rest, whole⟩ := List.rdropWhile_prefix isBlank (trimStart cs)
  rw [← trim_eq_rdropWhile] at whole
  refine isBlank_head?_trimStart cs c ?_
  rw [← whole, List.head?_append, Option.mem_def.mp first]
  rfl

theorem isBlank_getLast?_trim (cs : List Char) : ∀ c ∈ (trim cs).getLast?, isBlank c = false := by
  rw [trim, List.getLast?_reverse]
  exact isBlank_head?_trimStart _

theorem words_eq_nil_iff : words cs = [] ↔ ∀ c ∈ cs, isBlank c = true := by
  fun_induction words cs with
  | case1 => simp
  | case2 c first => simp [first]
  | case3 c first => simp [first]
  | case4 c d rest first ih => simp only [ih, List.mem_cons, forall_eq_or_imp, first, true_and]
  | case5 c d rest first second ih => simp [first]
  | case6 c d rest first second w ws more ih => simp [first]
  | case7 c d rest first second none ih => simp [first]

theorem words_trimStart (cs : List Char) : words (trimStart cs) = words cs := by
  induction cs with
  | nil => rfl
  | cons c cs ih =>
    by_cases blank : isBlank c = true
    · rw [words_blank_cons blank, ← ih, trimStart, trimStart, List.dropWhile_cons_of_pos blank]
    · rw [trimStart, List.dropWhile_cons_of_neg blank]

theorem words_concat_blank {b : Char} (blank : isBlank b = true) (cs : List Char) : words (cs ++ [b]) = words cs := by
  fun_induction words cs with
  | case1 => simp [words, blank]
  | case2 c first => simp [words, first, blank]
  | case3 c first => simp [words, first, blank]
  | case4 c d rest first ih =>
    rw [List.cons_append, words_blank_cons first, ih]
  | case5 c d rest first second ih =>
    rw [List.cons_append] at ih ⊢
    rw [List.cons_append, words, if_neg first, if_pos second, ih]
  | case6 c d rest first second w ws more ih =>
    rw [List.cons_append] at ih ⊢
    rw [List.cons_append, words, if_neg first, if_neg second, ih, more]
  | case7 c d rest first second none ih =>
    rw [List.cons_append] at ih ⊢
    rw [List.cons_append, words, if_neg first, if_neg second, ih, none]

/-- Trimming keeps the words. -/
theorem words_trim (cs : List Char) : words (trim cs) = words cs := by
  rw [trim_eq_rdropWhile, ← words_trimStart cs]
  induction trimStart cs using List.reverseRecOn with
  | nil => rfl
  | append_singleton cs c ih =>
    by_cases blank : isBlank c = true
    · rw [List.rdropWhile_concat_pos _ _ _ blank, ih, words_concat_blank blank]
    · rw [List.rdropWhile_concat_neg _ _ _ blank]

/-- A character of joined texts is one of the joint or of a text. -/
theorem mem_intercalate {joint : List Char} {parts : List (List Char)} {c : Char}
    (member : c ∈ joint.intercalate parts) : c ∈ joint ∨ ∃ part ∈ parts, c ∈ part := by
  induction parts with
  | nil => exact absurd member List.not_mem_nil
  | cons part parts ih =>
    cases parts with
    | nil =>
      rw [List.intercalate_singleton] at member
      exact .inr ⟨part, List.mem_cons_self, member⟩
    | cons next parts =>
      rw [List.intercalate_cons_cons, List.append_assoc] at member
      rcases List.mem_append.mp member with here | later
      · exact .inr ⟨part, List.mem_cons_self, here⟩
      · rcases List.mem_append.mp later with between | later
        · exact .inl between
        · exact (ih later).imp_right fun ⟨found, listed, stands⟩ => ⟨found, List.mem_cons_of_mem part listed, stands⟩

end

end FabricTopology.Text
