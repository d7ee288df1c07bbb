import FabricTopology.Proofs.Yaml.Lines
import FabricTopology.Yaml.Writer

/-!
Which sequences stand between brackets. The writer adds up columns before it writes a line, and the sum is right at
every depth: wherever an entry stands in a tree, the line that its sequence would make between brackets is counted
whole, with its indentation, a dash in front and the quotes of its key (`collection_fill`). So the sequence stands on
the line of its key exactly if it holds nothing but scalars and that line has at most `lineWidth` bytes
(`holds_fill`).
-/
namespace FabricTopology.Yaml
open Layout

/-! ### Brackets -/

/-- Null, a truth value, a number or a text. -/
def Tree.isScalar : Tree → Bool
  | null | bool _ | int _ | float _ | str _ => true
  | seq _ | map _ | tagged _ _ => false

/-- A scalar between brackets. -/
def itemText (t : Tree) : Line := (flowItem? t).getD []

/-- Scalars between brackets. -/
def bracketed (items : List Tree) : Line := '[' :: [',', ' '].intercalate (items.map itemText) ++ [']']

theorem flowItem?_eq_ite (t : Tree) : flowItem? t = if t.isScalar then some (itemText t) else none := by
  cases t <;> rfl

theorem mapM_flowItem? (items : List Tree) :
    items.mapM flowItem? = if items.all Tree.isScalar then some (items.map itemText) else none := by
  induction items with
  | nil => rfl
  | cons t rest ih =>
    rw [List.mapM_cons, ih, flowItem?_eq_ite, List.all_cons]
    cases t.isScalar <;> cases rest.all Tree.isScalar <;> rfl

/-- A sequence has a line of its own exactly if it holds nothing but scalars. -/
theorem inline?_seq (items : List Tree) :
    inline? (.seq items) = if items.all Tree.isScalar then some (bracketed items) else none := by
  rw [inline?, mapM_flowItem?]
  split <;> rfl

/-! ### Bytes -/

@[simp] theorem byteCount_nil : byteCount [] = 0 := rfl

@[simp] theorem byteCount_cons (c : Char) (cs : List Char) : byteCount (c :: cs) = c.utf8Size + byteCount cs := rfl

@[simp] theorem byteCount_append (cs ds : List Char) : byteCount (cs ++ ds) = byteCount cs + byteCount ds := by
  induction cs with
  | nil => simp
  | cons c cs ih => rw [List.cons_append, byteCount_cons, byteCount_cons, ih, Nat.add_assoc]

/-! ### The lines of an entry -/

/-- The line of a key after what stands before it. -/
def headLine (lead : Line) (key : Tree) : Line := lead ++ keyLine (keyText key)

/-- The line of a key and a sequence between brackets. -/
def flowLine (lead : Line) (key : Tree) (items : List Tree) : Line := headLine lead key ++ ' ' :: bracketed items

/-- A sequence of scalars that makes a line of at most `lineWidth` bytes, `column` bytes further in. -/
def Fits (column : Nat) (lead : Line) (key : Tree) (items : List Tree) : Prop :=
  (∀ t ∈ items, t.isScalar = true) ∧ column + byteCount (flowLine lead key items) ≤ lineWidth

/-- The lines of items below a key, two columns further in. -/
def itemLines (column : Nat) (lead : Line) (items : List Tree) : List Line :=
  (Layout.items (column + lead.length + 2) items).map (indented (lead.length + 2))

instance (column : Nat) (lead : Line) (key : Tree) (items : List Tree) : Decidable (Fits column lead key items) :=
  inferInstanceAs (Decidable (_ ∧ _))

/-- The lines of an entry whose value is a sequence. -/
def entryLines (column : Nat) (lead : Line) (key : Tree) (items : List Tree) : List Line :=
  if Fits column lead key items then [flowLine lead key items] else headLine lead key :: itemLines column lead items

section
variable (column : Nat) (lead : Line) (key : Tree) (items : List Tree)

theorem entryLines_ne_nil : entryLines column lead key items ≠ [] := by
  unfold entryLines
  split <;> simp

/-- One byte and a space in front count as two columns. -/
theorem fits_cons {c : Char} (one : c.utf8Size = 1) :
    Fits column (c :: ' ' :: lead) key items ↔ Fits (column + 2) lead key items := by
  have space : ' '.utf8Size = 1 := rfl
  have size : byteCount (flowLine (c :: ' ' :: lead) key items) = byteCount (flowLine lead key items) + 2 := by
    simp only [flowLine, headLine, List.cons_append, byteCount_cons, one, space]
    omega
  rw [Fits, Fits, size, Nat.add_assoc, Nat.add_comm 2]

theorem itemLines_cons (c : Char) :
    itemLines column (c :: ' ' :: lead) items = (itemLines (column + 2) lead items).map (indented 2) := by
  rw [itemLines, itemLines, map_indented_indented]
  have columns : column + (c :: ' ' :: lead).length + 2 = column + 2 + lead.length + 2 := by
    simp only [List.length_cons]
    omega
  have width : (c :: ' ' :: lead).length + 2 = 2 + (lead.length + 2) := by
    simp only [List.length_cons]
    omega
  rw [columns, width]

/-- The lines of an entry two columns further in. -/
theorem map_indented_entryLines :
    (entryLines (column + 2) lead key items).map (indented 2) = entryLines column (' ' :: ' ' :: lead) key items := by
  rw [entryLines, entryLines, itemLines_cons]
  simp only [fits_cons column lead key items (c := ' ') rfl]
  split <;> rfl

/-- The lines of an entry that begins an item. -/
theorem hung_entryLines :
    hung (entryLines (column + 2) lead key items) = entryLines column ('-' :: ' ' :: lead) key items := by
  rw [entryLines, entryLines, itemLines_cons]
  simp only [fits_cons column lead key items (c := '-') rfl]
  split <;> rfl

/-- The writer's sum of columns is the number of bytes of the line. -/
theorem fits_iff : Fits column [] key items ↔
    items.all Tree.isScalar = true ∧
      column + byteCount (keyText key) + 2 + byteCount (bracketed items) ≤ lineWidth := by
  have colon : ':'.utf8Size = 1 := rfl
  have space : ' '.utf8Size = 1 := rfl
  have size : column + byteCount (flowLine [] key items) =
      column + byteCount (keyText key) + 2 + byteCount (bracketed items) := by
    simp only [flowLine, headLine, keyLine, List.nil_append, byteCount_append, byteCount_cons, byteCount_nil, colon,
      space]
    omega
  rw [Fits, size, List.all_eq_true]

theorem flow?_eq_ite :
    flow? column (keyText key) items = if Fits column [] key items then some (bracketed items) else none := by
  rw [flow?, inline?_seq]
  cases scalars : items.all Tree.isScalar <;> simp [fits_iff, scalars, Option.filter]

theorem entry_seq (t : Tree) (ts : List Tree) :
    entry column (keyText key) (.seq (t :: ts)) = entryLines column [] key (t :: ts) := by
  rw [entry, flow?_eq_ite, entryLines]
  by_cases fits : Fits column [] key (t :: ts)
  · rw [if_pos fits, if_pos fits]
    rfl
  · rw [if_neg fits, if_neg fits]
    rfl

end

/-! ### Places -/

/-- A place for an entry in a tree: among the entries of the mapping that the tree is, or in the value of one of
    them, or in an item of the sequence that the tree is. -/
inductive Place where
  | among (before after : List (Tree × Tree))
  | under (before : List (Tree × Tree)) (outer : Tree) (inner : Place) (after : List (Tree × Tree))
  | within (before : List Tree) (inner : Place) (after : List Tree)

namespace Place

/-- The tree with an entry in the place. -/
def fill (key value : Tree) : Place → Tree
  | among before after => .map (before ++ (key, value) :: after)
  | under before outer inner after => .map (before ++ (outer, inner.fill key value) :: after)
  | within before inner after => .seq (before ++ inner.fill key value :: after)

/-- The entry is the first one of the mapping that the tree is. -/
def isFirst : Place → Bool
  | among before _ => before.isEmpty
  | under _ _ _ _ | within _ _ _ => false

/-- What stands before the key on its line: two columns for each collection around the mapping of the entry. The
    dash of an item stands in its columns if the entry is the first one of the item. -/
def lead : Place → Line
  | among _ _ => []
  | under _ _ inner _ => ' ' :: ' ' :: inner.lead
  | within _ inner _ => (if inner.isFirst then '-' else ' ') :: ' ' :: inner.lead

end Place

/-! ### Lines around a place -/

namespace Layout

theorem entries_append (column : Nat) (es fs : List (Tree × Tree)) :
    entries column (es ++ fs) = entries column es ++ entries column fs := by
  induction es with
  | nil => rfl
  | cons e es ih => rw [List.cons_append, entries, entries, ih, List.append_assoc]

theorem items_append (column : Nat) (ts us : List Tree) :
    items column (ts ++ us) = items column ts ++ items column us := by
  induction ts with
  | nil => rfl
  | cons t ts ih => rw [List.cons_append, items, items, ih, List.append_assoc]

theorem hung_append {lines : List Line} (more : List Line) (some : lines ≠ []) :
    hung (lines ++ more) = hung lines ++ more.map (indented 2) := by
  obtain ⟨line, rest, rfl⟩ := List.exists_cons_of_ne_nil some
  simp [hung]

/-- The lines of a collection in some column. -/
def collection (column : Nat) : Tree → List Line
  | .map es => entries column es
  | .seq ts => items column ts
  | _ => []

end Layout

namespace Place

theorem exists_cons_of_middle {α : Type} (before : List α) (a : α) (after : List α) :
    ∃ b rest, before ++ a :: after = b :: rest :=
  List.exists_cons_of_ne_nil (List.append_ne_nil_of_right_ne_nil before (List.cons_ne_nil a after))

/-- A collection that holds a place is written below its key. -/
theorem entry_fill (column : Nat) (name : Line) (key value : Tree) (p : Place) :
    entry column name (p.fill key value) =
      keyLine name :: (collection (column + 2) (p.fill key value)).map (indented 2) := by
  cases p with
  | among before after | under before outer inner after =>
    rw [fill]
    obtain ⟨e, es, cons⟩ := exists_cons_of_middle before _ after
    rw [cons, entry, collection]
  | within before inner after =>
    have collected : (inner.fill key value).isScalar = false := by cases inner <;> rfl
    have broad : flow? column name (before ++ inner.fill key value :: after) = none := by
      rw [flow?, inline?_seq, if_neg (by simp [collected])]
      rfl
    rw [fill]
    obtain ⟨t, ts, cons⟩ := exists_cons_of_middle before _ after
    rw [cons] at broad
    rw [cons, entry, broad, collection]

/-- The lines of a collection that is an item, from the lines of the collection alone: entries go on after the dash,
    and items stand below it. -/
def asItem (lines : List Line) : Place → List Line
  | among _ _ | under _ _ _ _ => hung lines
  | within _ _ _ => ['-'] :: lines.map (indented 2)

theorem item_fill (column : Nat) (key value : Tree) (p : Place) :
    item column (p.fill key value) = p.asItem (collection (column + 2) (p.fill key value)) := by
  cases p with
  | among before after | under before outer inner after =>
    rw [fill]
    obtain ⟨e, es, cons⟩ := exists_cons_of_middle before _ after
    rw [cons, item, asItem, collection]
  | within before inner after =>
    rw [fill]
    obtain ⟨t, ts, cons⟩ := exists_cons_of_middle before _ after
    rw [cons, item, asItem, collection]

/-- The lines above an entry in a place. -/
def linesAbove (column : Nat) : Place → List Line
  | among before _ => entries column before
  | under before outer inner _ =>
    entries column before ++ keyLine (keyText outer) :: (inner.linesAbove (column + 2)).map (indented 2)
  | within before inner _ => items column before ++ inner.asItem (inner.linesAbove (column + 2))

/-- The lines below an entry in a place. -/
def linesBelow (column : Nat) : Place → List Line
  | among _ after => entries column after
  | under _ _ inner after => (inner.linesBelow (column + 2)).map (indented 2) ++ entries column after
  | within _ inner after => (inner.linesBelow (column + 2)).map (indented 2) ++ items column after

/-- The first line of an item is the first line above the entry, or else that of the entry. -/
theorem asItem_append (p : Place) (column : Nat) {own : List Line} (more : List Line) (some : own ≠ []) :
    p.asItem (p.linesAbove column ++ (own ++ more)) =
      p.asItem (p.linesAbove column) ++ (if p.isFirst then hung own else own.map (indented 2)) ++
        more.map (indented 2) := by
  cases p with
  | among before after =>
    cases before with
    | nil =>
      have none : hung [] = [] := rfl
      simp [asItem, linesAbove, entries, isFirst, hung_append more some, none]
    | cons e es =>
      have above := entries_ne_nil column e es
      simp [asItem, linesAbove, isFirst, hung_append _ above]
  | under before outer inner after =>
    simp only [asItem, linesAbove, isFirst]
    rw [hung_append _ (List.append_ne_nil_of_right_ne_nil _ (List.cons_ne_nil _ _))]
    simp
  | within before inner after => simp [asItem, isFirst]

/-- Above and below an entry stand the same lines, whatever the entry is. -/
theorem collection_fill (p : Place) (column : Nat) (key t : Tree) (ts : List Tree) :
    collection column (p.fill key (.seq (t :: ts))) =
      p.linesAbove column ++ (entryLines column p.lead key (t :: ts) ++ p.linesBelow column) := by
  -- Each collection around the entry moves its lines two columns further in, and the place grows by what these
  -- columns hold.
  induction p generalizing column with
  | among before after =>
    rw [fill, collection, entries_append, entries, entry_seq]
    rfl
  | under before outer inner after ih =>
    rw [fill, collection, entries_append, entries, entry_fill, ih, List.map_append, List.map_append,
      map_indented_entryLines]
    simp [linesAbove, linesBelow, lead]
  | within before inner after ih =>
    rw [fill, collection, items_append, items, item_fill, ih, asItem_append _ _ _ (entryLines_ne_nil _ _ _ _),
      map_indented_entryLines, hung_entryLines]
    cases first : inner.isFirst <;> simp [linesAbove, linesBelow, lead, first]

theorem block_fill (p : Place) (key value : Tree) : block (p.fill key value) = collection 0 (p.fill key value) := by
  cases p with
  | among before after | under before outer inner after =>
    rw [fill]
    obtain ⟨e, es, cons⟩ := exists_cons_of_middle before _ after
    rw [cons, block, collection]
  | within before inner after =>
    rw [fill]
    obtain ⟨t, ts, cons⟩ := exists_cons_of_middle before _ after
    rw [cons, block, collection]

end Place

/-! ### The line width -/

/-- Where the lines of a text hold an entry whose value is a sequence: on the line of its key exactly if it is a
    sequence of scalars and that line has at most 120 bytes, and below its key otherwise. A longer line at that place
    is the line of the key alone. -/
structure Holds (lines above below : List Line) (lead : Line) (key : Tree) (items : List Tree) : Prop where
  onLine : (∀ t ∈ items, t.isScalar = true) ∧ byteCount (flowLine lead key items) ≤ 120 →
    lines = above ++ flowLine lead key items :: below
  asBlock : ¬ ((∀ t ∈ items, t.isScalar = true) ∧ byteCount (flowLine lead key items) ≤ 120) →
    lines = above ++ headLine lead key :: itemLines 0 lead items ++ below
  exactly : lines[above.length]? = some (flowLine lead key items) ↔
    (∀ t ∈ items, t.isScalar = true) ∧ byteCount (flowLine lead key items) ≤ 120
  long : ∀ line, lines[above.length]? = some line → 120 < byteCount line → line = headLine lead key

theorem headLine_ne_flowLine (lead : Line) (key : Tree) (items : List Tree) :
    headLine lead key ≠ flowLine lead key items := by
  intro same
  rw [flowLine, List.self_eq_append_right] at same
  cases same

theorem holds_entryLines (above below : List Line) (lead : Line) (key : Tree) (items : List Tree) :
    Holds (above ++ (entryLines 0 lead key items ++ below)) above below lead key items := by
  have fits : Fits 0 lead key items ↔
      (∀ t ∈ items, t.isScalar = true) ∧ byteCount (flowLine lead key items) ≤ 120 := by
    rw [Fits, Nat.zero_add]
    rfl
  simp only [entryLines, fits]
  split
  · next some =>
    refine ⟨fun _ => rfl, fun none => absurd some none, iff_of_true (by simp) some, ?_⟩
    · intro line stands wide
      obtain rfl : flowLine lead key items = line := by simpa using stands
      omega
  · next none =>
    refine ⟨fun some => absurd some none, fun _ => by simp, iff_of_false (by simp [headLine_ne_flowLine]) none, ?_⟩
    · intro line stands _
      simpa using stands.symm

/-- Wherever an entry stands in a tree whose value is a sequence of at least one item, the lines above and below it do
    not depend on it, and it stands on one line between them exactly if that line has room for it. -/
theorem holds_fill (p : Place) : ∃ above below : List Line, ∀ (key t : Tree) (ts : List Tree),
    Holds (linesOf (render (p.fill key (.seq (t :: ts)))).toList) above below p.lead key (t :: ts) := by
  refine ⟨p.linesAbove 0, p.linesBelow 0, fun key t ts => ?_⟩
  rw [render, String.toList_ofList, linesOf_text, p.block_fill, p.collection_fill]
  exact holds_entryLines _ _ _ _ _

end FabricTopology.Yaml
