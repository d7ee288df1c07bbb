import FabricTopology.Proofs.Yaml.Width

/-!
Which texts of a tree its lines show. A character beyond ASCII that the writer does not escape comes from one of these
texts and from nothing else, and every such character of them is there (`Foreign.occurs_block`): quotes, escapes,
dashes, brackets and atoms are ASCII.
-/
namespace FabricTopology.Yaml
open Layout FabricTopology.Text

/-! ### The texts of a tree -/

namespace Tree

/-- The text of a scalar that is one. -/
def ownTexts : Tree → List String
  | str s => [s]
  | _ => []

/-- The texts that a tree shows where it has one line only. -/
def lineTexts : Tree → List String
  | str s => [s]
  | seq items => if items.all isScalar then items.flatMap ownTexts else []
  | tagged _ t => lineTexts t
  | _ => []

mutual

/-- The texts that a tree shows, alone or as an item. -/
def shown : Tree → List String
  | map es => shownEntries es
  | seq ts => shownItems ts
  | t => t.lineTexts

/-- The texts that a tree shows under a key. -/
def shownUnder : Tree → List String
  | map es => shownEntries es
  | seq ts => shownItems ts
  | tagged _ t => shownUnder t
  | t => t.lineTexts

/-- The texts that entries show. -/
def shownEntries : List (Tree × Tree) → List String
  | [] => []
  | (key, value) :: rest => key.lineTexts ++ shownUnder value ++ shownEntries rest

/-- The texts that items show. -/
def shownItems : List Tree → List String
  | [] => []
  | t :: rest => shown t ++ shownItems rest

end

theorem lineTexts_of_none {t : Tree} (none : inline? t = none) : t.lineTexts = [] := by
  match t with
  | seq items =>
    rw [inline?_seq, ite_eq_right_iff] at none
    rw [lineTexts, if_neg fun scalars => by cases none scalars]
  | map _ => rfl
  | tagged _ t => exact lineTexts_of_none (t := t) none

/-- Scalars show the same texts between brackets and one below the other. -/
theorem shownItems_of_isScalar {items : List Tree} (scalars : items.all isScalar = true) :
    shownItems items = items.flatMap ownTexts := by
  induction items with
  | nil => rfl
  | cons t rest ih =>
    rw [List.all_cons, Bool.and_eq_true] at scalars
    rw [shownItems, ih scalars.2, List.flatMap_cons]
    cases t with
    | seq _ | map _ | tagged _ _ => cases scalars.1
    | null | bool _ | int _ | float _ | str _ => rfl

end Tree

/-- The character is in one of the texts. -/
def Among (c : Char) (texts : List String) : Prop := ∃ s ∈ texts, c ∈ s.toList

/-- The character is on one of the lines. -/
def Occurs (c : Char) (lines : List Line) : Prop := ∃ line ∈ lines, c ∈ line

section
variable {c : Char} {texts more : List String} {line : Line} {lines others : List Line}

@[simp] theorem among_nil : ¬ Among c [] := by simp [Among]

@[simp] theorem among_cons {s : String} : Among c (s :: texts) ↔ c ∈ s.toList ∨ Among c texts := by simp [Among]

@[simp] theorem among_append : Among c (texts ++ more) ↔ Among c texts ∨ Among c more := by
  simp [Among, or_and_right, exists_or]

@[simp] theorem occurs_nil : ¬ Occurs c [] := by simp [Occurs]

@[simp] theorem occurs_cons : Occurs c (line :: lines) ↔ c ∈ line ∨ Occurs c lines := by simp [Occurs]

@[simp] theorem occurs_append : Occurs c (lines ++ others) ↔ Occurs c lines ∨ Occurs c others := by
  simp [Occurs, or_and_right, exists_or]

end

/-! ### Characters that stay as they are -/

/-- A character beyond ASCII that needs no escape. -/
structure Foreign (c : Char) : Prop where
  beyond : 0x7E < c.toNat
  whole : breaksLine c = false

namespace Foreign
variable {c : Char}

section
variable (foreign : Foreign c)
include foreign

theorem ne {d : Char} (ascii : d.toNat ≤ 0x7E) : c ≠ d := by
  rintro rfl
  exact absurd foreign.beyond (Nat.not_lt.mpr ascii)

theorem mem_escapeSingle (d : Char) : c ∈ escapeSingle d ↔ c = d := by
  have quote : c ≠ singleQuote := foreign.ne (by decide)
  by_cases same : d = singleQuote
  · simp [escapeSingle, same, quote]
  · simp [escapeSingle, same]

theorem mem_escapeDouble (d : Char) : c ∈ escapeDouble d ↔ c = d := by
  have backslash : c ≠ '\\' := foreign.ne (by decide)
  rcases escapeDouble_cases d with ⟨a, letter, escape⟩ | ⟨breaks, escape⟩ | ⟨_, _, _, escape⟩ <;> rw [escape]
  · have ascii : lettered.all (fun e => decide (e.2.toNat ≤ 0x7E)) = true := by decide
    have escaped : lettered.all (fun e => decide (e.1.toNat ≤ 0x7E) || breaksLine e.1) = true := by decide
    have other : c ≠ a := foreign.ne (by simpa using List.all_eq_true.mp ascii _ letter)
    have unlike : c ≠ d := by
      rintro rfl
      have known : c.toNat ≤ 0x7E := by simpa [foreign.whole] using List.all_eq_true.mp escaped _ letter
      exact absurd foreign.beyond (Nat.not_lt.mpr known)
    simp [backslash, other, unlike]
  · have unlike : c ≠ d := by
      rintro rfl
      exact absurd breaks (by simp [foreign.whole])
    have digits : c ∉ hexText 4 d.toNat := fun digit => by
      obtain ⟨n, small, rfl⟩ := mem_hexText (by omega) (breaksLine_lt breaks) digit
      have ascii : ∀ n < 16, n.digitChar.toNat ≤ 0x7E := by decide
      exact foreign.ne (ascii n small) rfl
    simp [backslash, foreign.ne (d := 'u') (by decide), digits, unlike]
  · simp

/-- A scalar holds the character exactly if its text does. -/
theorem mem_scalar (inFlow : Bool) (cs : List Char) : c ∈ scalar inFlow cs ↔ c ∈ cs := by
  rcases scalar_cases inFlow cs with ⟨_, same⟩ | ⟨_, single⟩ | double
  · rw [same]
  · have quote : c ≠ singleQuote := foreign.ne (by decide)
    simp [single, foreign.mem_escapeSingle, quote]
  · have quote : c ≠ '"' := foreign.ne (by decide)
    simp [double, foreign.mem_escapeDouble, quote]

theorem notMem_atom {t : Tree} {x : List Char} (atom : atom? t = some x) : c ∉ x := by
  intro member
  have known := List.all_eq_true.mp (all_isAtomChar atom) c member
  simp only [isAtomChar, Bool.or_eq_true, beq_iff_eq] at known
  rcases known with (alphanum | same) | same
  · have visible := toNat_of_isAlphanum alphanum
    have beyond := foreign.beyond
    omega
  · exact foreign.ne (by decide) same
  · exact foreign.ne (by decide) same

/-! ### One line -/

theorem mem_itemText (t : Tree) : c ∈ itemText t ↔ Among c t.ownTexts := by
  cases t with
  | str s => simpa [itemText, flowItem?, Tree.ownTexts] using foreign.mem_scalar true s.toList
  | null => exact iff_of_false (foreign.notMem_atom (t := .null) rfl) among_nil
  | bool b => exact iff_of_false (foreign.notMem_atom (t := .bool b) rfl) among_nil
  | int n => exact iff_of_false (foreign.notMem_atom (t := .int n) rfl) among_nil
  | float x => exact iff_of_false (foreign.notMem_atom (t := .float x) rfl) among_nil
  | seq _ | map _ | tagged _ _ => exact iff_of_false List.not_mem_nil among_nil

theorem mem_afterItem (parts : List Line) : c ∈ afterItem parts ↔ Occurs c parts := by
  have bracket : c ≠ ']' := foreign.ne (by decide)
  have comma : c ≠ ',' := foreign.ne (by decide)
  have space : c ≠ ' ' := foreign.ne (by decide)
  induction parts with
  | nil => simp [afterItem, bracket]
  | cons part rest ih => simp [afterItem, comma, space, ih]

theorem occurs_itemTexts (items : List Tree) :
    Occurs c (items.map itemText) ↔ Among c (items.flatMap Tree.ownTexts) := by
  induction items with
  | nil => simp
  | cons t rest ih => rw [List.map_cons, List.flatMap_cons, occurs_cons, among_append, foreign.mem_itemText, ih]

theorem mem_bracketed (items : List Tree) : c ∈ bracketed items ↔ Among c (items.flatMap Tree.ownTexts) := by
  have opening : c ≠ '[' := foreign.ne (by decide)
  have closing : c ≠ ']' := foreign.ne (by decide)
  rw [← foreign.occurs_itemTexts, bracketed]
  cases items with
  | nil => simp [opening, closing]
  | cons t rest =>
    rw [List.map_cons, List.cons_append, intercalate_append_bracket]
    simp [opening, foreign.mem_afterItem]

/-- What a tree has on one line. -/
theorem mem_inline? {t : Tree} {x : Line} (inline : inline? t = some x) : c ∈ x ↔ Among c t.lineTexts := by
  match t with
  | .str s =>
    cases inline
    simpa [Tree.lineTexts] using foreign.mem_scalar false s.toList
  | .seq items =>
    rw [inline?_seq, Option.ite_none_right_eq_some] at inline
    obtain ⟨scalars, line⟩ := inline
    cases line
    rw [Tree.lineTexts, if_pos scalars, foreign.mem_bracketed]
  | .map [] =>
    cases inline
    simp [Tree.lineTexts, foreign.ne (d := '\x7b') (by decide), foreign.ne (d := '\x7d') (by decide)]
  | .map (_ :: _) => cases inline
  | .tagged _ t => exact mem_inline? (t := t) inline
  | .null | .bool _ | .int _ | .float _ =>
    have absent := foreign.notMem_atom inline
    simp [absent, Tree.lineTexts]

theorem mem_lineOf (t : Tree) : c ∈ lineOf t ↔ Among c t.lineTexts := by
  rw [lineOf]
  cases inline : inline? t with
  | some x => exact foreign.mem_inline? inline
  | none => simp [Tree.lineTexts_of_none inline]

theorem mem_keyText (t : Tree) : c ∈ keyText t ↔ Among c t.lineTexts := by
  rw [keyText]
  cases inline : inline? t with
  | some x => exact foreign.mem_inline? inline
  | none => simp [Tree.lineTexts_of_none inline, foreign.ne (d := '?') (by decide)]

/-! ### Lines -/

theorem mem_keyLine (key : Line) : c ∈ keyLine key ↔ c ∈ key := by
  simp [keyLine, foreign.ne (d := ':') (by decide)]

theorem mem_indented (n : Nat) (line : Line) : c ∈ indented n line ↔ c ∈ line := by
  simp [indented, List.mem_replicate, foreign.ne (d := ' ') (by decide)]

theorem occurs_map_indented (n : Nat) (lines : List Line) : Occurs c (lines.map (indented n)) ↔ Occurs c lines := by
  simp [Occurs, foreign.mem_indented]

theorem occurs_hung (lines : List Line) : Occurs c (hung lines) ↔ Occurs c lines := by
  cases lines with
  | nil => rfl
  | cons line rest =>
    simp [hung, foreign.occurs_map_indented, foreign.ne (d := '-') (by decide), foreign.ne (d := ' ') (by decide)]

/-- The line of a key and a text. -/
theorem occurs_keyLine (key after : Line) : Occurs c [keyLine key ++ ' ' :: after] ↔ c ∈ key ∨ c ∈ after := by
  simp [foreign.mem_keyLine, foreign.ne (d := ' ') (by decide)]

/-- The line of a key and lines below it. -/
theorem occurs_below (key : Line) (lines : List Line) :
    Occurs c (keyLine key :: lines.map (indented 2)) ↔ c ∈ key ∨ Occurs c lines := by
  rw [occurs_cons, foreign.mem_keyLine, foreign.occurs_map_indented]

/-- The line of a dash and a text. -/
theorem occurs_dashLine (line : Line) : Occurs c [['-', ' '] ++ line] ↔ c ∈ line := by
  simp [foreign.ne (d := '-') (by decide), foreign.ne (d := ' ') (by decide)]

end

mutual

theorem occurs_entries (foreign : Foreign c) (indent : Nat) (es : List (Tree × Tree)) :
    Occurs c (entries indent es) ↔ Among c (Tree.shownEntries es) := by
  match es with
  | [] => simp [entries, Tree.shownEntries]
  | (key, value) :: rest =>
    rw [entries, Tree.shownEntries, occurs_append, among_append, among_append,
      foreign.occurs_entry indent (keyText key) value, foreign.occurs_entries indent rest, foreign.mem_keyText]

theorem occurs_entry (foreign : Foreign c) (indent : Nat) (key : Line) (value : Tree) :
    Occurs c (entry indent key value) ↔ c ∈ key ∨ Among c value.shownUnder := by
  match value with
  | .map (e :: es) =>
    rw [entry, foreign.occurs_below, foreign.occurs_entries (indent + 2) (e :: es)]
    rfl
  | .seq (t :: ts) =>
    rw [entry]
    split
    · next flow fits =>
      have inline := Option.eq_some_of_filter_eq_some fits
      have line := foreign.mem_inline? inline
      rw [inline?_seq, Option.ite_none_right_eq_some] at inline
      rw [foreign.occurs_keyLine, line, Tree.lineTexts, if_pos inline.1, ← Tree.shownItems_of_isScalar inline.1]
      rfl
    · rw [foreign.occurs_below, foreign.occurs_items (indent + 2) (t :: ts)]
      rfl
  | .tagged _ t => exact foreign.occurs_entry indent key t
  | .null | .bool _ | .int _ | .float _ | .str _ | .seq [] | .map [] =>
    exact (foreign.occurs_keyLine key _).trans (or_congr_right (foreign.mem_lineOf _))

theorem occurs_items (foreign : Foreign c) (indent : Nat) (ts : List Tree) :
    Occurs c (items indent ts) ↔ Among c (Tree.shownItems ts) := by
  match ts with
  | [] => simp [items, Tree.shownItems]
  | t :: rest =>
    rw [items, Tree.shownItems, occurs_append, among_append, foreign.occurs_item indent t,
      foreign.occurs_items indent rest]

theorem occurs_item (foreign : Foreign c) (indent : Nat) (t : Tree) : Occurs c (item indent t) ↔ Among c t.shown := by
  match t with
  | .map (e :: es) =>
    rw [item, foreign.occurs_hung, foreign.occurs_entries (indent + 2) (e :: es)]
    rfl
  | .seq (t :: ts) =>
    have dash : c ≠ '-' := foreign.ne (by decide)
    rw [item, occurs_cons, foreign.occurs_map_indented, foreign.occurs_items (indent + 2) (t :: ts)]
    simp [dash, Tree.shown]
  | .tagged _ _ | .null | .bool _ | .int _ | .float _ | .str _ | .seq [] | .map [] =>
    exact (foreign.occurs_dashLine _).trans (foreign.mem_lineOf _)

end

theorem occurs_block (foreign : Foreign c) (t : Tree) : Occurs c (block t) ↔ Among c t.shown := by
  match t with
  | .map (e :: es) => exact foreign.occurs_entries 0 (e :: es)
  | .seq (t :: ts) => exact foreign.occurs_items 0 (t :: ts)
  | .tagged _ _ | .null | .bool _ | .int _ | .float _ | .str _ | .seq [] | .map [] =>
    exact occurs_cons.trans ((or_iff_left occurs_nil).trans (foreign.mem_lineOf _))

theorem mem_unlines (foreign : Foreign c) (lines : List Line) : c ∈ unlines lines ↔ Occurs c lines := by
  simp [unlines, Occurs, foreign.ne (d := '\n') (by decide)]

end Foreign

end FabricTopology.Yaml
