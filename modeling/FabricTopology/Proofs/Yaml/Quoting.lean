import FabricTopology.Proofs.Text.Numeral
import FabricTopology.Proofs.Text.Words
import FabricTopology.Yaml.Writer
import Mathlib.Algebra.Group.Nat.Defs
import Mathlib.Tactic.SplitIfs

/-!
Scalars read back. `readScalar` undoes the three styles: it takes the escapes out of double quotes, one
quote out of each pair within single quotes, and a plain text up to the first mark that ends it.
Whatever follows a scalar in a document, the reader finds its text again (`readScalar_scalar`), so a
scalar and what follows it are determined by their text (`scalar_append_inj`).
-/
namespace FabricTopology.Yaml
open FabricTopology.Text

/-! ### Lines -/

/-- No character of the text could end a line. -/
def Unbroken (cs : List Char) : Prop := ∀ c ∈ cs, breaksLine c = false

instance (cs : List Char) : Decidable (Unbroken cs) := List.decidableBAll (fun c => breaksLine c = false) cs

theorem Unbroken.cons {c : Char} {cs : List Char} (first : breaksLine c = false) (rest : Unbroken cs) :
    Unbroken (c :: cs) :=
  List.forall_mem_cons.mpr ⟨first, rest⟩

theorem Unbroken.append {cs ds : List Char} (left : Unbroken cs) (right : Unbroken ds) : Unbroken (cs ++ ds) :=
  List.forall_mem_append.mpr ⟨left, right⟩

theorem unbroken_flatMap {cs : List Char} {f : Char → List Char} (unbroken : ∀ c ∈ cs, Unbroken (f c)) :
    Unbroken (cs.flatMap f) := by
  intro d member
  obtain ⟨c, inside, image⟩ := List.mem_flatMap.mp member
  exact unbroken c inside d image

theorem Unbroken.newline_notMem {cs : List Char} (unbroken : Unbroken cs) : '\n' ∉ cs := by
  intro member
  exact absurd (unbroken '\n' member) (by decide)

/-! ### Plain texts -/

/-- What a text has to be so that it can stand without quotes. -/
structure PlainText (inFlow : Bool) (cs : List Char) : Prop where
  nonempty : cs ≠ []
  trimmed : trim cs = cs
  unreserved : isReserved cs = false
  notNumeric : looksNumeric cs = false
  start : ∀ c ∈ cs.head?, c ∉ indicators
  noColon : hasPair ':' ' ' cs = false
  noComment : hasPair ' ' '#' cs = false
  noKey : cs.getLast? ≠ some ':'
  noMarks : inFlow = true → ∀ c ∈ cs, c ∉ flowMarks
  unbroken : Unbroken cs

theorem needsQuotes_eq_false_iff (inFlow : Bool) (cs : List Char) :
    needsQuotes inFlow cs = false ↔ PlainText inFlow cs := by
  simp only [needsQuotes, Bool.or_eq_false_iff, Bool.and_eq_false_imp, List.any_eq_false]
  constructor
  · rintro ⟨⟨⟨⟨⟨⟨⟨⟨⟨empty, trimmed⟩, reserved⟩, numeric⟩, start⟩, colon⟩, comment⟩, key⟩, marks⟩, broken⟩
    refine ⟨by simpa using empty, by simpa using trimmed, reserved, numeric, ?_, colon, comment, by simpa using key,
      ?_, fun c member => by simpa using broken c member⟩
    · intro c first
      simpa [Option.mem_def.mp first] using start
    · intro flow c member
      simpa using marks flow c member
  · intro plain
    refine ⟨⟨⟨⟨⟨⟨⟨⟨⟨by simpa using plain.nonempty, by simpa using plain.trimmed⟩, plain.unreserved⟩,
      plain.notNumeric⟩, ?_⟩, plain.noColon⟩, plain.noComment⟩, by simpa using plain.noKey⟩, ?_⟩,
      fun c member => by simpa using plain.unbroken c member⟩
    · cases first : cs.head? with
      | none => rfl
      | some c => simpa using plain.start c first
    · intro flow c member
      simpa using plain.noMarks flow c member

theorem scalar_plain {inFlow : Bool} {cs : List Char} (plain : PlainText inFlow cs) : scalar inFlow cs = cs := by
  simp [scalar, styleOf, (needsQuotes_eq_false_iff inFlow cs).mpr plain, inStyle]

/-- No quote begins a plain text. -/
theorem PlainText.not_quoted {inFlow : Bool} {c : Char} {rest : List Char} (plain : PlainText inFlow (c :: rest)) :
    c ≠ '"' ∧ c ≠ singleQuote := by
  have first : c ∉ indicators := plain.start c rfl
  constructor
  · rintro rfl
    exact first (by decide)
  · rintro rfl
    exact first (by decide)

/-- The three forms of a scalar. -/
theorem scalar_cases (inFlow : Bool) (cs : List Char) :
    (PlainText inFlow cs ∧ scalar inFlow cs = cs) ∨
    (Unbroken cs ∧
      scalar inFlow cs = singleQuote :: cs.flatMap escapeSingle ++ [singleQuote]) ∨
    scalar inFlow cs = '"' :: cs.flatMap escapeDouble ++ ['"'] := by
  cases quotes : needsQuotes inFlow cs with
  | false =>
    have plain := (needsQuotes_eq_false_iff inFlow cs).mp quotes
    exact .inl ⟨plain, scalar_plain plain⟩
  | true =>
    cases broken : cs.any breaksLine with
    | false =>
      refine .inr (.inl ⟨?_, by simp [scalar, styleOf, quotes, broken, inStyle]⟩)
      simpa [Unbroken] using broken
    | true => exact .inr (.inr (by simp [scalar, styleOf, quotes, broken, inStyle]))

theorem breaksLine_lt {c : Char} (breaks : breaksLine c = true) : c.toNat < 16 ^ 4 := by
  simp only [breaksLine, Bool.or_eq_true, Bool.and_eq_true, decide_eq_true_eq, beq_iff_eq] at breaks
  omega

theorem breaksLine_digitChar : ∀ d < 16, breaksLine d.digitChar = false := by decide

/-- The characters that have an escape of one letter, with the letter. -/
def lettered : List (Char × Char) :=
  [('"', '"'), ('\\', '\\'), ('\n', 'n'), ('\t', 't'), ('\r', 'r'), ('\u0085', 'N'), ('\u2028', 'L'), ('\u2029', 'P')]

/-- A character between double quotes has an escape of one letter, an escape by number, or none. -/
theorem escapeDouble_cases (c : Char) :
    (∃ a, (c, a) ∈ lettered ∧ escapeDouble c = ['\\', a]) ∨
    (breaksLine c = true ∧ escapeDouble c = '\\' :: 'u' :: hexText 4 c.toNat) ∨
    (c ≠ '"' ∧ c ≠ '\\' ∧ breaksLine c = false ∧ escapeDouble c = [c]) := by
  by_cases known : c ∈ lettered.map (·.1)
  · left
    simp only [lettered, List.map_cons, List.map_nil, List.mem_cons, List.not_mem_nil, or_false] at known
    rcases known with rfl | rfl | rfl | rfl | rfl | rfl | rfl | rfl
    all_goals exact ⟨_, by simp [lettered], rfl⟩
  · right
    simp only [lettered, List.map_cons, List.map_nil, List.mem_cons, List.not_mem_nil, or_false, not_or] at known
    obtain ⟨quote, backslash, lf, tab, cr, nel, ls, ps⟩ := known
    rw [escapeDouble, if_neg quote, if_neg backslash, if_neg lf, if_neg tab, if_neg cr, if_neg nel, if_neg ls,
      if_neg ps]
    cases breaks : breaksLine c with
    | true => exact .inl ⟨rfl, rfl⟩
    | false => exact .inr ⟨quote, backslash, rfl, rfl⟩

/-- No escape needs an escape. -/
theorem unbroken_escapeDouble (c : Char) : Unbroken (escapeDouble c) := by
  rcases escapeDouble_cases c with ⟨a, letter, escape⟩ | ⟨breaks, escape⟩ | ⟨_, _, whole, escape⟩ <;> rw [escape]
  · have letters : lettered.all (fun e => !breaksLine e.2) = true := by decide
    have whole : breaksLine a = false := by simpa using List.all_eq_true.mp letters _ letter
    exact .cons (by decide) (.cons whole (by decide))
  · refine .cons (by decide) (.cons (by decide) fun d digit => ?_)
    obtain ⟨n, small, rfl⟩ := mem_hexText (by omega) (breaksLine_lt breaks) digit
    exact breaksLine_digitChar n small
  · exact .cons whole (by decide)

theorem unbroken_escapeSingle {c : Char} (whole : breaksLine c = false) : Unbroken (escapeSingle c) := by
  unfold escapeSingle
  split_ifs with quote
  · decide
  · exact .cons whole (by decide)

/-- A scalar stays on its line. -/
theorem unbroken_scalar (inFlow : Bool) (cs : List Char) : Unbroken (scalar inFlow cs) := by
  rcases scalar_cases inFlow cs with ⟨plain, same⟩ | ⟨unbroken, single⟩ | double
  · rw [same]
    exact plain.unbroken
  · have escaped := unbroken_flatMap fun c member => unbroken_escapeSingle (unbroken c member)
    rw [single]
    exact .cons (by decide) (escaped.append (by decide))
  · have escaped : Unbroken (cs.flatMap escapeDouble) := unbroken_flatMap fun c _ => unbroken_escapeDouble c
    rw [double]
    exact .cons (by decide) (escaped.append (by decide))

/-- The first character of a scalar is a quote or no indicator at all. -/
theorem scalar_start (inFlow : Bool) (cs : List Char) :
    ∃ c rest, scalar inFlow cs = c :: rest ∧ (c = '"' ∨ c = singleQuote ∨ c ∉ indicators ∧ isBlank c = false) := by
  rcases scalar_cases inFlow cs with ⟨plain, same⟩ | ⟨_, single⟩ | double
  · obtain ⟨c, rest, rfl⟩ := List.exists_cons_of_ne_nil plain.nonempty
    exact ⟨c, rest, same, .inr (.inr ⟨plain.start c rfl, isBlank_head_of_trim plain.trimmed⟩)⟩
  · exact ⟨_, _, single, .inr (.inl rfl)⟩
  · exact ⟨_, _, double, .inl rfl⟩

/-! ### The reader -/

/-- The text before the closing single quote, and what follows that quote. -/
def readSingle : List Char → Option (List Char × List Char)
  | [] => none
  | [c] => if c = singleQuote then some ([], []) else none
  | c :: d :: rest =>
    if c = singleQuote then
      if d = singleQuote then (readSingle rest).map fun r => (singleQuote :: r.1, r.2) else some ([], d :: rest)
    else (readSingle (d :: rest)).map fun r => (c :: r.1, r.2)

/-- The character that a letter after a backslash stands for. -/
def escapedLetter? (c : Char) : Option Char :=
  if c = '"' ∨ c = '\\' then some c
  else if c = 'n' then some '\n'
  else if c = 't' then some '\t'
  else if c = 'r' then some '\r'
  else if c = 'N' then some '\u0085'
  else if c = 'L' then some '\u2028'
  else if c = 'P' then some '\u2029'
  else none

/-- The text before the closing double quote, and what follows that quote. -/
def readDouble : List Char → Option (List Char × List Char)
  | [] => none
  | '"' :: rest => some ([], rest)
  | '\\' :: 'u' :: a :: b :: c :: d :: rest => do
    let n ← hexNumber? [a, b, c, d]
    let (cs, rest) ← readDouble rest
    some (Char.ofNat n :: cs, rest)
  | '\\' :: c :: rest => do
    let e ← escapedLetter? c
    let (cs, rest) ← readDouble rest
    some (e :: cs, rest)
  | c :: rest => (readDouble rest).map fun r => (c :: r.1, r.2)

/-- Whether a plain text ends before the given one: at the end of a line, at a colon that belongs to a
    key, and in a flow at the end of an item. -/
def endsPlain (inFlow : Bool) : List Char → Bool
  | [] => true
  | [':'] => true
  | ':' :: ' ' :: _ => true
  | c :: _ => inFlow && (c == ',' || c == ']')

/-- A plain text and what follows it. -/
def readPlain (inFlow : Bool) : List Char → List Char × List Char
  | [] => ([], [])
  | c :: rest =>
    if endsPlain inFlow (c :: rest) then ([], c :: rest)
    else (c :: (readPlain inFlow rest).1, (readPlain inFlow rest).2)

/-- A scalar in any style and what follows it. -/
def readScalar (inFlow : Bool) : List Char → Option (List Char × List Char)
  | [] => none
  | c :: rest =>
    if c = '"' then readDouble rest
    else if c = singleQuote then readSingle rest
    else some (readPlain inFlow (c :: rest))

/-- A text in single quotes ends at its first quote that stands alone. -/
theorem readSingle_escaped (cs rest : List Char) (alone : rest.head? ≠ some singleQuote) :
    readSingle (cs.flatMap escapeSingle ++ singleQuote :: rest) = some (cs, rest) := by
  induction cs with
  | nil =>
    cases rest with
    | nil => simp [readSingle]
    | cons c rest =>
      have other : c ≠ singleQuote := by simpa using alone
      simp [readSingle, other]
  | cons c cs ih =>
    -- The reader looks at two characters at a time, and there is always a second one.
    obtain ⟨d, more, next⟩ : ∃ d more, cs.flatMap escapeSingle ++ singleQuote :: rest = d :: more := by
      cases cs.flatMap escapeSingle with
      | nil => exact ⟨_, _, rfl⟩
      | cons d more => exact ⟨_, _, rfl⟩
    by_cases quote : c = singleQuote
    · simp [escapeSingle, quote, readSingle, ih]
    · rw [next] at ih
      simp [escapeSingle, quote, readSingle, ih, next]

/-- An escape by number takes exactly four digits. -/
theorem readDouble_hexText {c : Char} (rest : List Char) (breaks : breaksLine c = true) :
    readDouble ('\\' :: 'u' :: hexText 4 c.toNat ++ rest) = (readDouble rest).map fun r => (c :: r.1, r.2) := by
  have fits := breaksLine_lt breaks
  have value := hexNumber?_hexText 3 c.toNat fits
  rw [hexText_four fits] at value ⊢
  cases read : readDouble rest <;> simp [readDouble, value, read]

/-- Reading between double quotes undoes one escape at a time. -/
theorem readDouble_escape (c : Char) (rest : List Char) :
    readDouble (escapeDouble c ++ rest) = (readDouble rest).map fun r => (c :: r.1, r.2) := by
  rcases escapeDouble_cases c with ⟨a, letter, escape⟩ | ⟨breaks, escape⟩ | ⟨quote, backslash, _, escape⟩ <;> rw [escape]
  · have letters : lettered.all (fun e => e.2 != 'u' && escapedLetter? e.2 == some e.1) = true := by decide
    have read := List.all_eq_true.mp letters _ letter
    simp only [Bool.and_eq_true, bne_iff_ne, beq_iff_eq] at read
    obtain ⟨other, stands⟩ := read
    cases later : readDouble rest <;> simp [readDouble, other, stands, later]
  · exact readDouble_hexText rest breaks
  · simp [readDouble, backslash]

/-- A text in double quotes ends at its first quote without a backslash. -/
theorem readDouble_escaped (cs rest : List Char) :
    readDouble (cs.flatMap escapeDouble ++ '"' :: rest) = some (cs, rest) := by
  induction cs with
  | nil => simp [readDouble]
  | cons c cs ih => simp [List.flatMap_cons, readDouble_escape, ih]

/-- A text that the reader of plain texts takes whole. -/
structure Unmarked (inFlow : Bool) (cs : List Char) : Prop where
  noColon : hasPair ':' ' ' cs = false
  noKey : cs.getLast? ≠ some ':'
  noMarks : inFlow = true → ∀ c ∈ cs, c ∉ flowMarks

theorem PlainText.unmarked {inFlow : Bool} {cs : List Char} (plain : PlainText inFlow cs) : Unmarked inFlow cs :=
  ⟨plain.noColon, plain.noKey, plain.noMarks⟩

theorem Unmarked.tail {inFlow : Bool} {c : Char} {cs : List Char} (unmarked : Unmarked inFlow (c :: cs)) :
    Unmarked inFlow cs := by
  refine ⟨?_, ?_, fun flow d member => unmarked.noMarks flow d (List.mem_cons_of_mem c member)⟩
  · cases cs with
    | nil => rfl
    | cons d cs =>
      have pair := unmarked.noColon
      simp only [hasPair, Bool.or_eq_false_iff] at pair
      exact pair.2
  · cases cs with
    | nil => simp
    | cons d cs => simpa using unmarked.noKey

theorem endsPlain_append {inFlow : Bool} {c : Char} {cs : List Char} (rest : List Char)
    (unmarked : Unmarked inFlow (c :: cs)) : endsPlain inFlow (c :: cs ++ rest) = false := by
  have marks : (inFlow && (c == ',' || c == ']')) = false := by
    cases inFlow with
    | false => rfl
    | true =>
      have free := unmarked.noMarks rfl c List.mem_cons_self
      simp only [Bool.true_and, Bool.or_eq_false_iff, beq_eq_false_iff_ne]
      exact ⟨fun same => free (by subst same; decide), fun same => free (by subst same; decide)⟩
  by_cases colon : c = ':'
  · subst colon
    cases cs with
    | nil => exact absurd rfl unmarked.noKey
    | cons d cs =>
      have pair := unmarked.noColon
      have space : d ≠ ' ' := by
        rintro rfl
        simp [hasPair] at pair
      simp [endsPlain, space]
  · simp [endsPlain, colon, marks]

theorem readPlain_append {inFlow : Bool} {cs rest : List Char} (unmarked : Unmarked inFlow cs)
    (ends : endsPlain inFlow rest = true) : readPlain inFlow (cs ++ rest) = (cs, rest) := by
  induction cs with
  | nil => cases rest <;> simp [readPlain, ends]
  | cons c cs ih =>
    have goesOn := endsPlain_append rest unmarked
    simp only [List.cons_append] at goesOn ⊢
    simp [readPlain, goesOn, ih unmarked.tail]

theorem endsPlain_alone {inFlow : Bool} {rest : List Char} (ends : endsPlain inFlow rest = true) :
    rest.head? ≠ some singleQuote := by
  rintro quote
  obtain ⟨more, rfl⟩ : ∃ more, rest = singleQuote :: more := by
    cases rest with
    | nil => simp at quote
    | cons c more => exact ⟨more, by simpa using quote⟩
  simp [endsPlain, singleQuote] at ends

/-- A scalar reads back as its text, whatever ends it. -/
theorem readScalar_scalar {inFlow : Bool} (cs : List Char) {rest : List Char} (ends : endsPlain inFlow rest = true) :
    readScalar inFlow (scalar inFlow cs ++ rest) = some (cs, rest) := by
  rcases scalar_cases inFlow cs with ⟨plain, same⟩ | ⟨_, single⟩ | double
  · obtain ⟨c, more, rfl⟩ := List.exists_cons_of_ne_nil plain.nonempty
    obtain ⟨noDouble, noSingle⟩ := plain.not_quoted
    have whole := readPlain_append plain.unmarked ends
    simp only [List.cons_append] at whole
    simp [same, readScalar, noDouble, noSingle, whole]
  · have different : singleQuote ≠ '"' := by decide
    simp [single, readScalar, different, readSingle_escaped cs rest (endsPlain_alone ends)]
  · simp [double, readScalar, readDouble_escaped]

/-- A scalar and what follows it are determined by their text. -/
theorem scalar_append_inj {inFlow : Bool} {cs ds rest more : List Char} (ends : endsPlain inFlow rest = true)
    (stops : endsPlain inFlow more = true) (same : scalar inFlow cs ++ rest = scalar inFlow ds ++ more) :
    cs = ds ∧ rest = more := by
  have read := readScalar_scalar cs ends
  rw [same, readScalar_scalar ds stops] at read
  simp only [Option.some.injEq, Prod.mk.injEq] at read
  exact ⟨read.1.symm, read.2.symm⟩

end FabricTopology.Yaml
