import FabricTopology.Proofs.Yaml.Resolution
import Mathlib.Data.List.Infix

/-!
Scalars undone by the rules of their style. The first character tells the style; quotes end at the first closing
quote that is not escaped; between double quotes every escape stands for one character, between single quotes two
quotes stand for one, and a plain text stands for itself. However a text is written, undoing gives it back
(`undoable_scalar`).
-/
namespace FabricTopology.Yaml
open FabricTopology.Text

/-! ### The rules -/

/-- The character that one letter stands for after a backslash. -/
def named? : Char → Option Char
  | '0' => some '\x00'
  | 'a' => some '\x07'
  | 'b' => some '\x08'
  | 't' => some '\t'
  | '\t' => some '\t'
  | 'n' => some '\n'
  | 'v' => some '\x0b'
  | 'f' => some '\x0c'
  | 'r' => some '\r'
  | 'e' => some '\x1b'
  | ' ' => some ' '
  | '"' => some '"'
  | '/' => some '/'
  | '\\' => some '\\'
  | 'N' => some '\u0085'
  | '_' => some '\u00a0'
  | 'L' => some '\u2028'
  | 'P' => some '\u2029'
  | _ => none

/-- The character with a code point in hexadecimal digits. -/
def coded? (ds : List Char) : Option Char := do
  let n ← hexNumber? ds
  if n.isValidChar then some (Char.ofNat n) else none

/-- The text that stands between double quotes. -/
def unescape : List Char → Option (List Char)
  | [] => some []
  | ['\\'] => none
  | '\\' :: 'x' :: a :: b :: rest => do return (← coded? [a, b]) :: (← unescape rest)
  | '\\' :: 'u' :: a :: b :: c :: d :: rest => do return (← coded? [a, b, c, d]) :: (← unescape rest)
  | '\\' :: 'U' :: a :: b :: c :: d :: e :: f :: g :: h :: rest => do
    return (← coded? [a, b, c, d, e, f, g, h]) :: (← unescape rest)
  | '\\' :: c :: rest => do return (← named? c) :: (← unescape rest)
  | c :: rest => do return c :: (← unescape rest)

/-- What stands before the first double quote without a backslash, and what follows that quote. -/
def cutDouble : List Char → Option (List Char × List Char)
  | [] => none
  | '"' :: rest => some ([], rest)
  | '\\' :: c :: rest => (cutDouble rest).map fun r => ('\\' :: c :: r.1, r.2)
  | c :: rest => (cutDouble rest).map fun r => (c :: r.1, r.2)

/-- What stands before the first single quote that is not one of a pair, and what follows that quote. -/
def cutSingle : List Char → Option (List Char × List Char)
  | [] => none
  | [c] => if c = singleQuote then some ([], []) else none
  | c :: d :: rest =>
    if c = singleQuote then
      if d = singleQuote then (cutSingle rest).map fun r => (c :: d :: r.1, r.2) else some ([], d :: rest)
    else (cutSingle (d :: rest)).map fun r => (c :: r.1, r.2)

/-- The text that stands between single quotes. -/
def halve : List Char → List Char
  | c :: d :: rest => if c = singleQuote ∧ d = singleQuote then c :: halve rest else c :: halve (d :: rest)
  | cs => cs

/-- The style that the first character tells. -/
def styleAt : Option Char → Style
  | some c => if c = '"' then .double else if c = singleQuote then .single else .plain
  | none => .plain

/-- The text that a scalar stands for, if the scalar is nothing but that. -/
def undo (cs : List Char) : Option (List Char) :=
  match styleAt cs.head? with
  | .plain => some cs
  | .single => do
    let (inner, rest) ← cutSingle cs.tail
    if rest = [] then some (halve inner) else none
  | .double => do
    let (inner, rest) ← cutDouble cs.tail
    if rest = [] then unescape inner else none

/-! ### Double quotes -/

theorem coded?_hexText {c : Char} (breaks : breaksLine c = true) : coded? (hexText 4 c.toNat) = some c := by
  have valid : c.toNat.isValidChar := c.valid
  have value := hexNumber?_hexText 3 c.toNat (breaksLine_lt breaks)
  simp [coded?, value, valid]

theorem unescape_coded {a b c d e : Char} (coded : coded? [a, b, c, d] = some e) (rest : List Char) :
    unescape ('\\' :: 'u' :: a :: b :: c :: d :: rest) = (unescape rest).map fun cs => e :: cs := by
  show ((coded? [a, b, c, d]).bind fun e => (unescape rest).bind fun cs => some (e :: cs)) = _
  rw [coded, Option.bind_some, Option.map_eq_bind]
  rfl

theorem unescape_named {a e : Char} (named : named? a = some e) (rest : List Char) :
    unescape ('\\' :: a :: rest) = (unescape rest).map fun cs => e :: cs := by
  rw [unescape, named, Option.map_eq_bind]
  · rfl
  -- The letters of the escapes by number have no name.
  · rintro _ _ _ rfl
    cases named
  · rintro _ _ _ _ _ rfl
    cases named
  · rintro _ _ _ _ _ _ _ _ _ rfl
    cases named

theorem unescape_unescaped {c : Char} (other : c ≠ '\\') (rest : List Char) :
    unescape (c :: rest) = (unescape rest).map fun cs => c :: cs := by
  rw [unescape, Option.map_eq_bind]
  · rfl
  · exact fun same _ => other same
  all_goals
    intros
    exact other ‹_›

/-- Every escape stands for the character that it was made of. -/
theorem unescape_escapeDouble (c : Char) (rest : List Char) :
    unescape (escapeDouble c ++ rest) = (unescape rest).map fun cs => c :: cs := by
  rcases escapeDouble_cases c with ⟨a, letter, escape⟩ | ⟨breaks, escape⟩ | ⟨_, backslash, _, escape⟩ <;> rw [escape]
  · have letters : lettered.all (fun e => named? e.2 == some e.1) = true := by decide
    have named : named? a = some c := by simpa using List.all_eq_true.mp letters _ letter
    exact unescape_named named rest
  · have coded := coded?_hexText breaks
    rw [hexText_four (breaksLine_lt breaks)] at coded ⊢
    exact unescape_coded coded rest
  · exact unescape_unescaped backslash rest

theorem unescape_escaped (cs : List Char) : unescape (cs.flatMap escapeDouble) = some cs := by
  induction cs with
  | nil => rfl
  | cons c cs ih => rw [List.flatMap_cons, unescape_escapeDouble, ih, Option.map_some]

/-- Characters that are neither quotes nor backslashes are passed over. -/
theorem cutDouble_append {ds : List Char} (solid : ∀ d ∈ ds, d ≠ '"' ∧ d ≠ '\\') (rest : List Char) :
    cutDouble (ds ++ rest) = (cutDouble rest).map fun r => (ds ++ r.1, r.2) := by
  induction ds with
  | nil => simp
  | cons d ds ih =>
    obtain ⟨⟨quote, backslash⟩, later⟩ := List.forall_mem_cons.mp solid
    cases cut : cutDouble rest <;> simp [cutDouble, backslash, ih later, cut]

theorem digitChar_solid : ∀ n < 16, n.digitChar ≠ '"' ∧ n.digitChar ≠ '\\' := by decide

/-- No escape holds a quote that is not escaped. -/
theorem cutDouble_escapeDouble (c : Char) (rest : List Char) :
    cutDouble (escapeDouble c ++ rest) = (cutDouble rest).map fun r => (escapeDouble c ++ r.1, r.2) := by
  rcases escapeDouble_cases c with ⟨a, _, escape⟩ | ⟨breaks, escape⟩ | ⟨quote, backslash, _, escape⟩
  · rw [escape]
    rfl
  · have solid : ∀ d ∈ hexText 4 c.toNat, d ≠ '"' ∧ d ≠ '\\' := by
      intro d digit
      obtain ⟨n, small, rfl⟩ := mem_hexText (by omega) (breaksLine_lt breaks) digit
      exact digitChar_solid n small
    cases cut : cutDouble rest <;> simp [escape, cutDouble, cutDouble_append solid, cut]
  · rw [escape]
    exact cutDouble_append (by simp [quote, backslash]) rest

theorem cutDouble_escaped (cs rest : List Char) :
    cutDouble (cs.flatMap escapeDouble ++ '"' :: rest) = some (cs.flatMap escapeDouble, rest) := by
  induction cs with
  | nil => rfl
  | cons c cs ih => rw [List.flatMap_cons, List.append_assoc, cutDouble_escapeDouble, ih, Option.map_some]

/-! ### Single quotes -/

theorem halve_escapeSingle (c : Char) (rest : List Char) : halve (escapeSingle c ++ rest) = c :: halve rest := by
  unfold escapeSingle
  split_ifs with quote
  · simp [halve, quote]
  · cases rest <;> simp [halve, quote]

theorem halve_escaped (cs : List Char) : halve (cs.flatMap escapeSingle) = cs := by
  induction cs with
  | nil => rfl
  | cons c cs ih => rw [List.flatMap_cons, halve_escapeSingle, ih]

theorem cutSingle_escapeSingle (c : Char) (rest : List Char) :
    cutSingle (escapeSingle c ++ rest) = (cutSingle rest).map fun r => (escapeSingle c ++ r.1, r.2) := by
  unfold escapeSingle
  split_ifs with quote
  · simp [cutSingle]
  · cases rest <;> simp [cutSingle, quote]

/-- A quote that is not followed by another one ends the text. -/
theorem cutSingle_escaped (cs rest : List Char) (alone : rest.head? ≠ some singleQuote) :
    cutSingle (cs.flatMap escapeSingle ++ singleQuote :: rest) = some (cs.flatMap escapeSingle, rest) := by
  induction cs with
  | nil =>
    cases rest with
    | nil => rfl
    | cons d rest =>
      have other : d ≠ singleQuote := by simpa using alone
      simp [cutSingle, other]
  | cons c cs ih => rw [List.flatMap_cons, List.append_assoc, cutSingle_escapeSingle, ih, Option.map_some]

/-! ### Plain texts -/

theorem hasPair_iff {a b : Char} {cs : List Char} : hasPair a b cs = true ↔ [a, b] <:+: cs := by
  induction cs with
  | nil => simp [hasPair]
  | cons c cs ih =>
    cases cs with
    | nil => simp [hasPair, List.infix_cons_iff]
    | cons d rest =>
      rw [hasPair, List.infix_cons_iff, ← ih, List.cons_prefix_cons, List.cons_prefix_cons, Bool.or_eq_true,
        Bool.and_eq_true, beq_iff_eq, beq_iff_eq, @eq_comm _ a, @eq_comm _ b]
      simp only [List.nil_prefix, and_true]

/-- A text that stands whole without quotes: neither its ends nor the marks in it could make a reader stop before its
    end or take it for something else. -/
structure Unquoted (inFlow : Bool) (cs : List Char) : Prop where
  first : ∀ c ∈ cs.head?, isBlank c = false ∧ c ∉ indicators
  last : ∀ c ∈ cs.getLast?, isBlank c = false ∧ c ≠ ':'
  noColon : ¬ [':', ' '] <:+: cs
  noComment : ¬ [' ', '#'] <:+: cs
  noMarks : inFlow = true → ∀ c ∈ cs, c ∉ flowMarks

theorem PlainText.unquoted {inFlow : Bool} {cs : List Char} (plain : PlainText inFlow cs) : Unquoted inFlow cs where
  first := by
    intro c first
    refine ⟨?_, plain.start c first⟩
    obtain ⟨rest, rfl⟩ := List.head?_eq_some_iff.mp first
    exact isBlank_head_of_trim plain.trimmed
  last := by
    intro c last
    refine ⟨isBlank_getLast?_of_trim plain.trimmed c last, ?_⟩
    rintro rfl
    exact plain.noKey last
  noColon := by rw [← hasPair_iff, plain.noColon]; exact Bool.false_ne_true
  noComment := by rw [← hasPair_iff, plain.noComment]; exact Bool.false_ne_true
  noMarks := plain.noMarks

/-! ### Scalars -/

/-- A scalar that gives its text back: its first character tells its style, quotes end with the scalar, and without
    quotes nothing else could be read. -/
structure Undoable (inFlow : Bool) (cs : List Char) : Prop where
  text : undo (scalar inFlow cs) = some cs
  style : styleAt (scalar inFlow cs).head? = styleOf inFlow cs
  double : styleOf inFlow cs = .double → ∃ inner, scalar inFlow cs = '"' :: inner ++ ['"'] ∧
    ∀ rest, cutDouble (inner ++ '"' :: rest) = some (inner, rest)
  single : styleOf inFlow cs = .single → ∃ inner, scalar inFlow cs = singleQuote :: inner ++ [singleQuote] ∧
    ∀ rest, rest.head? ≠ some singleQuote → cutSingle (inner ++ singleQuote :: rest) = some (inner, rest)
  plain : styleOf inFlow cs = .plain → Unquoted inFlow (scalar inFlow cs)
  line : Unbroken (scalar inFlow cs)

theorem styleAt_scalar (inFlow : Bool) (cs : List Char) : styleAt (scalar inFlow cs).head? = styleOf inFlow cs := by
  cases style : styleOf inFlow cs with
  | plain =>
    have plain := styleOf_eq_plain_iff.mp style
    obtain ⟨c, rest, rfl⟩ := List.exists_cons_of_ne_nil plain.nonempty
    obtain ⟨noDouble, noSingle⟩ := plain.not_quoted
    simp [scalar_plain plain, styleAt, noDouble, noSingle]
  | single =>
    rw [scalar, style]
    rfl
  | double =>
    rw [scalar, style]
    rfl

/-- Undoing a scalar gives its text. -/
theorem undo_scalar (inFlow : Bool) (cs : List Char) : undo (scalar inFlow cs) = some cs := by
  rw [undo, styleAt_scalar]
  cases style : styleOf inFlow cs with
  | plain => rw [scalar_plain (styleOf_eq_plain_iff.mp style)]
  | single =>
    have cut := cutSingle_escaped cs [] (by simp)
    simp [scalar, style, inStyle, cut, halve_escaped]
  | double =>
    have cut := cutDouble_escaped cs []
    simp [scalar, style, inStyle, cut, unescape_escaped]

/-- However a text is written, undoing its style gives it back. -/
theorem undoable_scalar (inFlow : Bool) (cs : List Char) : Undoable inFlow cs where
  text := undo_scalar inFlow cs
  style := styleAt_scalar inFlow cs
  double := by
    intro style
    exact ⟨_, by rw [scalar, style, inStyle], cutDouble_escaped cs⟩
  single := by
    intro style
    exact ⟨_, by rw [scalar, style, inStyle], cutSingle_escaped cs⟩
  plain := by
    intro style
    have plain := styleOf_eq_plain_iff.mp style
    rw [scalar_plain plain]
    exact plain.unquoted
  line := unbroken_scalar inFlow cs

end FabricTopology.Yaml
