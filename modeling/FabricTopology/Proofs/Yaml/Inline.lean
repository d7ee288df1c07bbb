import FabricTopology.Proofs.Decimal
import FabricTopology.Proofs.Lists
import FabricTopology.Proofs.Yaml.Quoting
import FabricTopology.Yaml.Writer

/-!
What stands on one line: scalars, sequences between brackets and empty collections. For trees as the
documents have them (`Tree.IsBuilt`), a text on one line stands for one tree only (`inline?_inj`): an
atom is never spelled like a text, because a text that could be read as something else has quotes. Of
whatever tree it is, a text on one line neither ends that line nor begins like a comment (`fit_inline?`).
-/
namespace FabricTopology.Yaml
open FabricTopology.Text FabricTopology.Decimal

namespace Tree

mutual

/-- Nothing but null, truth values, integers, texts, sequences, and mappings with texts as keys.
    Whether a key is repeated makes no difference here. -/
def IsBuilt : Tree → Prop
  | null | bool _ | int _ | str _ => True
  | float _ | tagged _ _ => False
  | seq items => AreBuilt items
  | map entries => EntriesBuilt entries

/-- `IsBuilt` of every item. -/
def AreBuilt : List Tree → Prop
  | [] => True
  | t :: rest => t.IsBuilt ∧ AreBuilt rest

/-- `IsBuilt` of every value, and texts as keys. -/
def EntriesBuilt : List (Tree × Tree) → Prop
  | [] => True
  | (str _, value) :: rest => value.IsBuilt ∧ EntriesBuilt rest
  | _ :: _ => False

end

end Tree

/-! ### Atoms -/

/-- A word that stands for something else than a text. -/
structure AtomText (cs : List Char) : Prop where
  nonempty : cs ≠ []
  solid : ∀ c ∈ cs, c.isAlphanum = true ∨ c = '-'
  negative : ∀ rest, cs = '-' :: rest → ∃ c more, rest = c :: more ∧ c.isDigit = true
  ambiguous : isReserved cs = true ∨ isNumeral cs = true

theorem atomText_integer (n : Int) : AtomText (integerText n) := by
  have solid : ∀ c ∈ digits n.natAbs, c.isAlphanum = true := fun c member => by
    simp [Char.isAlphanum, isDigit_of_mem_digits member]
  obtain ⟨c, rest, cons, digit⟩ := digits_cons n.natAbs
  rcases integerText_cases n with ⟨_, text⟩ | ⟨_, text⟩
  · refine ⟨by simp [text], ?_, ?_, .inr (isNumeral_integerText n)⟩
    · intro d member
      rw [text] at member
      rcases List.mem_cons.mp member with first | later
      · exact .inr first
      · exact .inl (solid d later)
    · intro more same
      rw [text] at same
      exact ⟨c, rest, by rw [← List.tail_eq_of_cons_eq same, cons], digit⟩
  · refine ⟨by simp [text, digits_ne_nil], ?_, ?_, .inr (isNumeral_integerText n)⟩
    · intro d member
      rw [text] at member
      exact .inl (solid d member)
    · intro more same
      rw [text, cons] at same
      rw [List.head_eq_of_cons_eq same] at digit
      exact absurd digit (by decide)

/-- The atoms other than integers, with their spellings. -/
def wordAtoms : List (Tree × List Char) :=
  [(.null, "null".toList), (.bool true, "true".toList), (.bool false, "false".toList)]

theorem atomText_word {word : Tree × List Char} (member : word ∈ wordAtoms) :
    AtomText word.2 ∧ isNumeral word.2 = false := by
  simp only [wordAtoms, List.mem_cons, List.not_mem_nil, or_false] at member
  have solid : word.2.all Char.isAlphanum = true := by rcases member with rfl | rfl | rfl <;> decide
  have reserved : isReserved word.2 = true := by rcases member with rfl | rfl | rfl <;> decide
  have numeral : isNumeral word.2 = false := by rcases member with rfl | rfl | rfl <;> decide
  refine ⟨⟨?_, fun c inside => .inl (List.all_eq_true.mp solid c inside), ?_, .inl reserved⟩, numeral⟩
  · rcases member with rfl | rfl | rfl <;> decide
  · intro rest same
    have dash : '-'.isAlphanum = false := by decide
    simp [same, dash] at solid

theorem wordAtoms_inj {one two : Tree × List Char} (left : one ∈ wordAtoms) (right : two ∈ wordAtoms)
    (same : one.2 = two.2) : one = two := by
  simp only [wordAtoms, List.mem_cons, List.not_mem_nil, or_false] at left right
  rcases left with rfl | rfl | rfl <;> rcases right with rfl | rfl | rfl <;>
    first | rfl | exact absurd same (by decide)

/-- An atom of a built tree is a word or an integer. -/
theorem atom?_cases {t : Tree} {cs : List Char} (built : t.IsBuilt) (atom : atom? t = some cs) :
    (t, cs) ∈ wordAtoms ∨ ∃ n, t = .int n ∧ cs = integerText n := by
  cases t with
  | null => exact .inl (by simp_all [atom?, wordAtoms])
  | bool b => cases b <;> exact .inl (by simp_all [atom?, wordAtoms])
  | int n => exact .inr ⟨n, rfl, by simpa [atom?] using atom.symm⟩
  | float _ => exact built.elim
  | str _ | seq _ | map _ | tagged _ _ => simp [atom?] at atom

theorem atomText_of_atom? {t : Tree} {cs : List Char} (built : t.IsBuilt) (atom : atom? t = some cs) : AtomText cs := by
  rcases atom?_cases built atom with word | ⟨n, _, rfl⟩
  · exact (atomText_word word).1
  · exact atomText_integer n

theorem word_ne_integer {t : Tree} {n : Int} : (t, integerText n) ∉ wordAtoms := by
  intro member
  have other := (atomText_word member).2
  rw [isNumeral_integerText] at other
  cases other

/-- The spelling of an atom tells which one it is. -/
theorem atom?_inj {s t : Tree} {cs : List Char} (left : s.IsBuilt) (right : t.IsBuilt) (one : atom? s = some cs)
    (two : atom? t = some cs) : s = t := by
  rcases atom?_cases left one with word | ⟨m, rfl, rfl⟩
  · rcases atom?_cases right two with other | ⟨n, rfl, rfl⟩
    · exact congrArg Prod.fst (wordAtoms_inj word other rfl)
    · exact absurd word word_ne_integer
  · rcases atom?_cases right two with other | ⟨n, rfl, same⟩
    · exact absurd other word_ne_integer
    · rw [integerText_inj same]

theorem AtomText.notMem {cs : List Char} (atom : AtomText cs) {c : Char} (word : c.isAlphanum = false)
    (dash : c ≠ '-') : c ∉ cs := by
  intro member
  rcases atom.solid c member with alphanum | same
  · simp [word] at alphanum
  · exact dash same

theorem AtomText.notMem_of_mem {cs : List Char} (atom : AtomText cs) {c : Char} {marks : List Char}
    (foreign : marks.all (fun d => !d.isAlphanum && d != '-') = true) (mark : c ∈ marks) : c ∉ cs := by
  have one := List.all_eq_true.mp foreign c mark
  simp only [Bool.and_eq_true, Bool.not_eq_true', bne_iff_ne] at one
  exact atom.notMem one.1 one.2

theorem hasPair_of_notMem {a b : Char} {cs : List Char} (missing : a ∉ cs) : hasPair a b cs = false := by
  fun_induction hasPair a b cs with
  | case1 c d rest ih =>
    have other : c ≠ a := fun same => missing (by simp [same])
    have later : hasPair a b (d :: rest) = false := ih fun member => missing (List.mem_cons_of_mem c member)
    simp [other, later]
  | case2 => rfl

theorem AtomText.unmarked {cs : List Char} (atom : AtomText cs) (inFlow : Bool) : Unmarked inFlow cs := by
  refine ⟨hasPair_of_notMem (atom.notMem (by decide) (by decide)), ?_, ?_⟩
  · intro last
    exact atom.notMem (c := ':') (by decide) (by decide) (List.mem_of_getLast? last)
  · intro _ c member mark
    exact atom.notMem_of_mem (show flowMarks.all (fun d => !d.isAlphanum && d != '-') = true by decide) mark member

/-- A text spelled like an atom has quotes. -/
theorem scalar_ne_atom {cs : List Char} (atom : AtomText cs) (inFlow : Bool) : scalar inFlow cs ≠ cs := by
  intro same
  rcases scalar_cases inFlow cs with ⟨plain, _⟩ | ⟨_, single⟩ | double
  · rcases atom.ambiguous with reserved | numeral
    · simp [plain.unreserved] at reserved
    · have numeric := plain.notNumeric
      simp [looksNumeric, numeral] at numeric
  · refine atom.notMem (c := singleQuote) (by decide) (by decide) ?_
    rw [← same, single]
    exact List.mem_cons_self
  · refine atom.notMem (c := '"') (by decide) (by decide) ?_
    rw [← same, double]
    exact List.mem_cons_self

/-! ### Scalars -/

/-- The text of a scalar: an atom or a text. -/
def scalarText? (inFlow : Bool) : Tree → Option (List Char)
  | .str s => some (scalar inFlow s.toList)
  | t => atom? t

theorem flowItem?_eq (t : Tree) : flowItem? t = scalarText? true t := by
  cases t <;> rfl

/-- A scalar is a text in its style or an atom. -/
theorem scalarText?_cases {inFlow : Bool} {t : Tree} {x : List Char} (text : scalarText? inFlow t = some x) :
    (∃ s, t = .str s ∧ x = scalar inFlow s.toList) ∨ atom? t = some x := by
  cases t with
  | str s => exact .inl ⟨s, rfl, by simpa [scalarText?] using text.symm⟩
  | _ => exact .inr text

theorem readScalar_atom {cs rest : List Char} {inFlow : Bool} (atom : AtomText cs)
    (ends : endsPlain inFlow rest = true) : readScalar inFlow (cs ++ rest) = some (cs, rest) := by
  obtain ⟨c, more, rfl⟩ := List.exists_cons_of_ne_nil atom.nonempty
  have noDouble : c ≠ '"' := by
    rintro rfl
    exact atom.notMem (by decide) (by decide) List.mem_cons_self
  have noSingle : c ≠ singleQuote := by
    rintro rfl
    exact atom.notMem (by decide) (by decide) List.mem_cons_self
  have whole := readPlain_append (atom.unmarked inFlow) ends
  simp only [List.cons_append] at whole
  simp [readScalar, noDouble, noSingle, whole]

/-- A text that has a place among scalars is never an atom of the same spelling. -/
private theorem scalar_append_ne_atom {inFlow : Bool} {s x rest more : List Char} (atom : AtomText x)
    (ends : endsPlain inFlow rest = true) (stops : endsPlain inFlow more = true) :
    scalar inFlow s ++ rest ≠ x ++ more := by
  intro same
  have read := readScalar_scalar s ends
  rw [same, readScalar_atom atom stops] at read
  simp only [Option.some.injEq, Prod.mk.injEq] at read
  obtain ⟨rfl, rfl⟩ := read
  exact scalar_ne_atom atom inFlow (List.append_cancel_right same)

/-- A scalar and what follows it are determined by their text. -/
theorem scalarText?_append_inj {inFlow : Bool} {s t : Tree} {x y rest more : List Char} (left : s.IsBuilt)
    (right : t.IsBuilt) (one : scalarText? inFlow s = some x) (two : scalarText? inFlow t = some y)
    (ends : endsPlain inFlow rest = true) (stops : endsPlain inFlow more = true) (same : x ++ rest = y ++ more) :
    s = t ∧ rest = more := by
  rcases scalarText?_cases one with ⟨a, rfl, rfl⟩ | first <;>
    rcases scalarText?_cases two with ⟨b, rfl, rfl⟩ | second
  · obtain ⟨text, rfl⟩ := scalar_append_inj ends stops same
    exact ⟨by rw [String.toList_inj.mp text], rfl⟩
  · exact absurd same (scalar_append_ne_atom (atomText_of_atom? right second) ends stops)
  · exact absurd same.symm (scalar_append_ne_atom (atomText_of_atom? left first) stops ends)
  · have read := readScalar_atom (atomText_of_atom? left first) ends
    rw [same, readScalar_atom (atomText_of_atom? right second) stops] at read
    simp only [Option.some.injEq, Prod.mk.injEq] at read
    obtain ⟨rfl, rfl⟩ := read
    exact ⟨atom?_inj left right first second, rfl⟩

/-- How a scalar begins: never like a bracket or a dash of a sequence. -/
theorem scalarText?_start {inFlow : Bool} {t : Tree} {x : List Char} (built : t.IsBuilt)
    (text : scalarText? inFlow t = some x) :
    ∃ c rest, x = c :: rest ∧ c ∉ ['[', ']', '\x7b', ' '] ∧ (c = '-' → ∃ d more, rest = d :: more ∧ d ≠ ' ') := by
  rcases scalarText?_cases text with ⟨s, rfl, rfl⟩ | atom
  · obtain ⟨c, rest, cons, start⟩ := scalar_start inFlow s.toList
    refine ⟨c, rest, cons, ?_, ?_⟩
    · rcases start with rfl | rfl | ⟨plain, solid⟩
      · decide
      · decide
      · intro member
        simp only [List.mem_cons, List.not_mem_nil, or_false] at member
        rcases member with rfl | rfl | rfl | rfl
        · exact plain (by decide)
        · exact plain (by decide)
        · exact plain (by decide)
        · exact absurd solid (by decide)
    · rintro rfl
      have indicator : '-' ∈ indicators := by decide
      rcases start with quote | quote | ⟨plain, _⟩
      · exact absurd quote (by decide)
      · exact absurd quote (by decide)
      · exact absurd indicator plain
  · have atomText := atomText_of_atom? built atom
    obtain ⟨c, rest, rfl⟩ := List.exists_cons_of_ne_nil atomText.nonempty
    refine ⟨c, rest, rfl, ?_, ?_⟩
    · intro member
      exact atomText.notMem_of_mem (by decide) member List.mem_cons_self
    · rintro rfl
      obtain ⟨d, more, next, digit⟩ := atomText.negative rest rfl
      exact ⟨d, more, next, by rintro rfl; exact absurd digit (by decide)⟩

/-! ### Sequences between brackets -/

/-- What follows an item between brackets, given the texts of the later items. -/
def afterItem : List (List Char) → List Char
  | [] => [']']
  | part :: rest => ',' :: ' ' :: part ++ afterItem rest

theorem intercalate_append_bracket (part : List Char) (rest : List (List Char)) :
    [',', ' '].intercalate (part :: rest) ++ [']'] = part ++ afterItem rest := by
  induction rest generalizing part with
  | nil => simp [afterItem]
  | cons next rest ih =>
    rw [List.intercalate_cons_cons, List.append_assoc, ih next]
    simp [afterItem]

theorem endsPlain_afterItem (parts : List (List Char)) : endsPlain true (afterItem parts) = true := by
  cases parts <;> simp [afterItem, endsPlain]

theorem afterItem_inj {ts us : List Tree} {parts others : List (List Char)} (left : Tree.AreBuilt ts)
    (right : Tree.AreBuilt us) (one : ts.mapM flowItem? = some parts) (two : us.mapM flowItem? = some others)
    (same : afterItem parts = afterItem others) : ts = us := by
  induction ts generalizing us parts others with
  | nil =>
    obtain rfl : [] = parts := by simpa using one
    cases us with
    | nil => rfl
    | cons u us =>
      obtain ⟨part, rest, _, _, rfl⟩ := mapM_cons_eq_some.mp two
      simp [afterItem] at same
  | cons t ts ih =>
    obtain ⟨part, rest, first, later, rfl⟩ := mapM_cons_eq_some.mp one
    cases us with
    | nil =>
      obtain rfl : [] = others := by simpa using two
      simp [afterItem] at same
    | cons u us =>
      obtain ⟨part', rest', first', later', rfl⟩ := mapM_cons_eq_some.mp two
      simp only [afterItem, List.cons_append, List.cons.injEq, true_and] at same
      rw [flowItem?_eq] at first first'
      obtain ⟨rfl, tails⟩ := scalarText?_append_inj left.1 right.1 first first' (endsPlain_afterItem rest)
        (endsPlain_afterItem rest') same
      rw [ih left.2 right.2 later later' tails]

/-- Sequences with the same text between brackets are equal. -/
theorem flow_inj {ts us : List Tree} {parts others : List (List Char)} (left : Tree.AreBuilt ts)
    (right : Tree.AreBuilt us) (one : ts.mapM flowItem? = some parts) (two : us.mapM flowItem? = some others)
    (same : [',', ' '].intercalate parts ++ [']'] = [',', ' '].intercalate others ++ [']']) : ts = us := by
  cases ts with
  | nil =>
    obtain rfl : [] = parts := by simpa using one
    cases us with
    | nil => rfl
    | cons u us =>
      obtain ⟨part, rest, first, _, rfl⟩ := mapM_cons_eq_some.mp two
      rw [flowItem?_eq] at first
      obtain ⟨c, more, rfl, start, _⟩ := scalarText?_start right.1 first
      rw [intercalate_append_bracket] at same
      have bracket : ']' = c := by simpa using List.head_eq_of_cons_eq same
      exact absurd (by simp [← bracket]) start
  | cons t ts =>
    obtain ⟨part, rest, first, _, rfl⟩ := mapM_cons_eq_some.mp one
    cases us with
    | nil =>
      obtain rfl : [] = others := by simpa using two
      rw [flowItem?_eq] at first
      obtain ⟨c, more, rfl, start, _⟩ := scalarText?_start left.1 first
      rw [intercalate_append_bracket] at same
      have bracket : c = ']' := by simpa using List.head_eq_of_cons_eq same
      exact absurd (by simp [bracket]) start
    | cons u us =>
      obtain ⟨part', rest', _, _, rfl⟩ := mapM_cons_eq_some.mp two
      rw [intercalate_append_bracket, intercalate_append_bracket] at same
      exact afterItem_inj left right one two (by simp only [afterItem, List.cons_append, same])

/-! ### One line, one tree -/

/-- The three kinds of text on one line. -/
theorem inline?_cases {t : Tree} {x : List Char} (built : t.IsBuilt) (inline : inline? t = some x) :
    scalarText? false t = some x ∨
    (∃ items parts, t = .seq items ∧ items.mapM flowItem? = some parts ∧
      x = '[' :: ([',', ' '].intercalate parts ++ [']'])) ∨
    (t = .map [] ∧ x = ['\x7b', '\x7d']) := by
  match t with
  | .null | .bool _ | .int _ | .str _ => exact .inl inline
  | .seq items =>
    simp only [inline?, Option.map_eq_some_iff] at inline
    obtain ⟨parts, read, rfl⟩ := inline
    exact .inr (.inl ⟨items, parts, rfl, read, rfl⟩)
  | .map [] => exact .inr (.inr ⟨rfl, by simpa [inline?] using inline.symm⟩)
  | .map (_ :: _) => simp [inline?] at inline
  | .float _ | .tagged _ _ => exact built.elim

theorem scalarText?_ne_open {t : Tree} {c : Char} {rest : List Char} (built : t.IsBuilt)
    (mark : c = '[' ∨ c = '\x7b') : scalarText? false t ≠ some (c :: rest) := by
  intro text
  obtain ⟨d, more, cons, start, _⟩ := scalarText?_start built text
  rw [← List.head_eq_of_cons_eq cons] at start
  rcases mark with rfl | rfl <;> exact start (by decide)

/-- A text on one line stands for one tree only. -/
theorem inline?_inj {s t : Tree} {x : List Char} (left : s.IsBuilt) (right : t.IsBuilt) (one : inline? s = some x)
    (two : inline? t = some x) : s = t := by
  rcases inline?_cases left one with first | ⟨items, parts, rfl, first, rfl⟩ | ⟨rfl, rfl⟩
  · rcases inline?_cases right two with second | ⟨items, parts, rfl, second, rfl⟩ | ⟨rfl, rfl⟩
    · have same : x ++ [] = x ++ [] := rfl
      exact (scalarText?_append_inj left right first second rfl rfl same).1
    · exact absurd first (scalarText?_ne_open left (.inl rfl))
    · exact absurd first (scalarText?_ne_open left (.inr rfl))
  · rcases inline?_cases right two with second | ⟨others, parts', rfl, second, same⟩ | ⟨rfl, same⟩
    · exact absurd second (scalarText?_ne_open right (.inl rfl))
    · rw [flow_inj left right first second (List.tail_eq_of_cons_eq same)]
    · simp at same
  · rcases inline?_cases right two with second | ⟨others, parts', rfl, second, same⟩ | ⟨rfl, _⟩
    · exact absurd second (scalarText?_ne_open right (.inr rfl))
    · simp at same
    · rfl

/-! ### Texts of any tree -/

/-- A text that may begin a line, after nothing but spaces, and does not end it. -/
structure Fit (x : List Char) : Prop where
  unbroken : Unbroken x
  start : ∀ c ∈ x.head?, c ≠ ' ' ∧ c ≠ '#'

theorem fit_scalar (inFlow : Bool) (cs : List Char) : Fit (scalar inFlow cs) := by
  refine ⟨unbroken_scalar inFlow cs, fun c first => ?_⟩
  obtain ⟨d, rest, cons, kind⟩ := scalar_start inFlow cs
  rw [cons, List.head?_cons, Option.mem_def, Option.some.injEq] at first
  subst d
  constructor <;> rintro rfl <;> revert kind <;> decide

/-- The characters of null, truth values and numbers. -/
def isAtomChar (c : Char) : Bool := c.isAlphanum || c == '-' || c == '.'

theorem toNat_of_isAlphanum {c : Char} (alphanum : c.isAlphanum = true) : 0x20 < c.toNat ∧ c.toNat < 0x7F := by
  rw [isAlphanum_iff] at alphanum
  omega

theorem breaksLine_of_isAtomChar {c : Char} (plain : isAtomChar c = true) : breaksLine c = false := by
  simp only [isAtomChar, Bool.or_eq_true, beq_iff_eq] at plain
  rcases plain with (alphanum | rfl) | rfl
  · have visible := toNat_of_isAlphanum alphanum
    simp only [breaksLine, Bool.or_eq_false_iff, Bool.and_eq_false_imp, decide_eq_true_eq, decide_eq_false_iff_not,
      beq_eq_false_iff_ne]
    omega
  · decide
  · decide

theorem all_isAtomChar_floatText (x : Float) : (floatText x).all isAtomChar = true := by
  unfold floatText
  split
  · decide
  · split
    · split <;> decide
    · refine List.all_eq_true.mpr fun c member => ?_
      rcases numeric_finiteText x c member with digit | mark
      · simp [isAtomChar, Char.isAlphanum, digit]
      · simp only [numberMarks, List.mem_cons, List.not_mem_nil, or_false] at mark
        rcases mark with rfl | rfl | rfl <;> decide

/-- An atom of any tree has no other characters. -/
theorem all_isAtomChar {t : Tree} {x : List Char} (atom : atom? t = some x) : x.all isAtomChar = true := by
  cases t with
  | null => cases atom; decide
  | bool b => cases atom; cases b <;> decide
  | int n =>
    cases atom
    refine List.all_eq_true.mpr fun c member => ?_
    rcases (atomText_integer n).solid c member with alphanum | rfl
    · simp [isAtomChar, alphanum]
    · decide
  | float x => cases atom; exact all_isAtomChar_floatText x
  | str _ | seq _ | map _ | tagged _ _ => cases atom

theorem fit_atom? {t : Tree} {x : List Char} (atom : atom? t = some x) : Fit x := by
  have plain := List.all_eq_true.mp (all_isAtomChar atom)
  refine ⟨fun c member => breaksLine_of_isAtomChar (plain c member), fun c first => ?_⟩
  have known := plain c (List.mem_of_head? first)
  constructor <;> rintro rfl <;> exact absurd known (by decide)

theorem unbroken_flowItems {ts : List Tree} {parts : List (List Char)} (texts : ts.mapM flowItem? = some parts) :
    ∀ part ∈ parts, Unbroken part := by
  induction ts generalizing parts with
  | nil =>
    obtain rfl : [] = parts := by simpa using texts
    simp
  | cons t ts ih =>
    obtain ⟨part, rest, first, later, rfl⟩ := mapM_cons_eq_some.mp texts
    refine List.forall_mem_cons.mpr ⟨?_, ih later⟩
    rw [flowItem?_eq] at first
    rcases scalarText?_cases first with ⟨s, _, rfl⟩ | atom
    · exact unbroken_scalar true s.toList
    · exact (fit_atom? atom).unbroken

theorem unbroken_afterItem {parts : List (List Char)} (unbroken : ∀ part ∈ parts, Unbroken part) :
    Unbroken (afterItem parts) := by
  induction parts with
  | nil => decide
  | cons part rest ih =>
    rw [List.forall_mem_cons] at unbroken
    exact .cons (by decide) (.cons (by decide) (unbroken.1.append (ih unbroken.2)))

theorem fit_flow {parts : List (List Char)} (unbroken : ∀ part ∈ parts, Unbroken part) :
    Fit ('[' :: [',', ' '].intercalate parts ++ [']']) := by
  refine ⟨?_, by simp⟩
  cases parts with
  | nil => decide
  | cons part rest =>
    rw [List.forall_mem_cons] at unbroken
    rw [List.cons_append, intercalate_append_bracket]
    exact .cons (by decide) (unbroken.1.append (unbroken_afterItem unbroken.2))

/-- A text on one line does not end that line and does not begin like a comment. -/
theorem fit_inline? {t : Tree} {x : List Char} (inline : inline? t = some x) : Fit x := by
  match t with
  | .null => exact fit_atom? (t := .null) inline
  | .bool b => exact fit_atom? (t := .bool b) inline
  | .int n => exact fit_atom? (t := .int n) inline
  | .float f => exact fit_atom? (t := .float f) inline
  | .str s =>
    cases inline
    exact fit_scalar false s.toList
  | .seq items =>
    simp only [inline?, Option.map_eq_some_iff] at inline
    obtain ⟨parts, texts, rfl⟩ := inline
    exact fit_flow (unbroken_flowItems texts)
  | .map [] =>
    cases inline
    exact ⟨by decide, by simp⟩
  | .map (_ :: _) => simp [inline?] at inline
  | .tagged _ t => exact fit_inline? (t := t) inline

end FabricTopology.Yaml
