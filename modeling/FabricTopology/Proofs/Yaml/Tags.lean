import FabricTopology.Proofs.Yaml.Unambiguous
import FabricTopology.Proofs.Yaml.Width

/-!
What a tag does to the text of a tree. A tag on the value of an entry does nothing to it. Anywhere else the writer looks
at what the tag stands on only for a line, so that a collection under a tag loses its block, and a sequence that would
stand between brackets loses them with the first tag on one of its items. These are all the places where a tag is seen:
a tree without them has the text of the same tree without tags, and a tree with one of them has another text
(`render_untagged_iff`).
-/
namespace FabricTopology.Yaml
open Layout

namespace Tree

/-! ### Trees without tags -/

mutual

/-- The tree without its tags. -/
def untagged : Tree → Tree
  | seq ts => seq (untaggedItems ts)
  | map es => map (untaggedEntries es)
  | tagged _ t => untagged t
  | t => t

/-- The items without their tags. -/
def untaggedItems : List Tree → List Tree
  | [] => []
  | t :: rest => untagged t :: untaggedItems rest

/-- The entries without the tags of their keys and values. -/
def untaggedEntries : List (Tree × Tree) → List (Tree × Tree)
  | [] => []
  | (key, value) :: rest => (untagged key, untagged value) :: untaggedEntries rest

end

/-- A tag stands on the tree. -/
def isTagged : Tree → Bool
  | tagged _ _ => true
  | _ => false

/-- No tag is seen in the tree as a key: no item of a sequence that would have a line without its tags has one. -/
def transparentKey : Tree → Bool
  | seq ts => !(untaggedItems ts).all isScalar || !ts.any isTagged
  | tagged _ t => transparentKey t
  | _ => true

mutual

/-- No tag is seen in the tree alone or as an item, with what it holds in `column`. A tag may stand on a scalar or on an
    empty collection. -/
def transparent (column : Nat) : Tree → Bool
  | map es => transparentEntries column es
  | seq ts => transparentItems column ts
  | tagged _ t => isLeaf t.untagged
  | _ => true

/-- No tag is seen in the tree as the value of an entry in `column`, wherever one stands on it. No item has one if the
    items would stand on the line of the key without their tags. -/
def transparentUnder (column : Nat) (key : Tree) : Tree → Bool
  | map es => transparentEntries (column + 2) es
  | seq ts =>
    if Fits column [] key (untaggedItems ts) then !ts.any isTagged else transparentItems (column + 2) ts
  | tagged _ t => transparentUnder column key t
  | _ => true

/-- No tag is seen in entries in `column`. -/
def transparentEntries (column : Nat) : List (Tree × Tree) → Bool
  | [] => true
  | (key, value) :: rest =>
    key.transparentKey && transparentUnder column key value && transparentEntries column rest

/-- No tag is seen in items in `column`. -/
def transparentItems (column : Nat) : List Tree → Bool
  | [] => true
  | t :: rest => transparent (column + 2) t && transparentItems column rest

end

theorem untagged_of_isScalar {t : Tree} (scalar : t.isScalar = true) : t.untagged = t := by
  cases t with
  | seq _ | map _ | tagged _ _ => cases scalar
  | null | bool _ | int _ | float _ | str _ => rfl

theorem isScalar_eq_and (t : Tree) : t.isScalar = (!t.isTagged && t.untagged.isScalar) := by
  cases t <;> rfl

/-- A sequence of scalars is one of scalars without its tags, and no item has one. -/
theorem all_isScalar_eq_and (ts : List Tree) :
    ts.all isScalar = (!ts.any isTagged && (untaggedItems ts).all isScalar) := by
  induction ts with
  | nil => rfl
  | cons t rest ih =>
    rw [List.all_cons, ih, isScalar_eq_and, untaggedItems, List.any_cons, List.all_cons]
    cases t.isTagged <;> cases t.untagged.isScalar <;> simp

theorem untaggedItems_of_isScalar {ts : List Tree} (scalars : ts.all isScalar = true) : untaggedItems ts = ts := by
  induction ts with
  | nil => rfl
  | cons t rest ih =>
    rw [List.all_cons, Bool.and_eq_true] at scalars
    rw [untaggedItems, untagged_of_isScalar scalars.1, ih scalars.2]

end Tree

/-! ### One line -/

/-- A sequence with a tag on an item has no line, and any other has the line that it has without tags. -/
theorem inline?_seq_eq_ite (ts : List Tree) :
    inline? (.seq ts) = if ts.any Tree.isTagged then none else inline? (.seq (Tree.untaggedItems ts)) := by
  have tags := Tree.all_isScalar_eq_and ts
  rw [inline?_seq, inline?_seq]
  cases some : ts.any Tree.isTagged with
  | true =>
    rw [some, Bool.not_true, Bool.false_and] at tags
    rw [tags]
    rfl
  | false =>
    rw [some, Bool.not_false, Bool.true_and] at tags
    rw [← tags]
    cases scalars : ts.all Tree.isScalar with
    | true =>
      rw [Tree.untaggedItems_of_isScalar scalars]
      rfl
    | false => rfl

theorem fits_iff_untagged (column : Nat) (key : Tree) (ts : List Tree) :
    Fits column [] key ts ↔ ts.any Tree.isTagged = false ∧ Fits column [] key (Tree.untaggedItems ts) := by
  have tags := Tree.all_isScalar_eq_and ts
  rw [fits_iff, fits_iff]
  cases some : ts.any Tree.isTagged with
  | true =>
    rw [some, Bool.not_true, Bool.false_and] at tags
    simp [tags]
  | false =>
    rw [some, Bool.not_false, Bool.true_and] at tags
    rw [← tags, eq_self, true_and]
    exact and_congr_right fun scalars => by rw [Tree.untaggedItems_of_isScalar scalars]

namespace Tree

/-- The lines of a key that shows its tags: it has one without them only, and that one begins with a bracket. -/
theorem inline?_untagged_of_not_transparentKey {t : Tree} (seen : t.transparentKey = false) :
    inline? t = none ∧ ∃ x, inline? t.untagged = some ('[' :: x) := by
  match t with
  | seq ts =>
    simp only [transparentKey, Bool.or_eq_false_iff, Bool.not_eq_false'] at seen
    rw [untagged, inline?_seq_eq_ite, if_pos seen.2, inline?_seq, if_pos seen.1]
    exact ⟨rfl, _, rfl⟩
  | tagged _ t => exact inline?_untagged_of_not_transparentKey (t := t) seen
  | null | bool _ | int _ | float _ | str _ | map _ => cases seen

theorem inline?_untagged {t : Tree} (clear : t.transparentKey = true) : inline? t.untagged = inline? t := by
  match t with
  | seq ts =>
    rw [inline?_seq_eq_ite ts, untagged]
    cases some : ts.any isTagged with
    | false => rfl
    | true =>
      have broad : (untaggedItems ts).all isScalar = false := by simpa [transparentKey, some] using clear
      rw [inline?_seq, if_neg (by simp [broad])]
      rfl
  | tagged _ t => exact inline?_untagged (t := t) clear
  | map [] | map (_ :: _) => rfl
  | null | bool _ | int _ | float _ | str _ => rfl

/-- A line is the same without tags. -/
theorem inline?_untagged_of_some {t : Tree} {x : Line} (line : inline? t = some x) : inline? t.untagged = some x := by
  cases clear : t.transparentKey with
  | true => rw [inline?_untagged clear, line]
  | false => simp [(inline?_untagged_of_not_transparentKey clear).1] at line

theorem keyText_untagged_iff (t : Tree) : keyText t.untagged = keyText t ↔ t.transparentKey = true := by
  cases clear : t.transparentKey with
  | true => simp [keyText, inline?_untagged clear]
  | false =>
    obtain ⟨none, x, some⟩ := inline?_untagged_of_not_transparentKey clear
    simp [keyText, none, some]

theorem transparentKey_of_isLeaf {t : Tree} (leaf : isLeaf t.untagged = true) : t.transparentKey = true := by
  match t with
  | seq [] => rfl
  | seq (_ :: _) => cases leaf
  | tagged _ t => exact transparentKey_of_isLeaf (t := t) leaf
  | null | bool _ | int _ | float _ | str _ | map _ => rfl

end Tree

namespace Layout
open Yaml.Tree

theorem lineOf_untagged {t : Tree} (leaf : isLeaf t.untagged = true) : lineOf t.untagged = lineOf t := by
  rw [lineOf, lineOf, inline?_untagged (transparentKey_of_isLeaf leaf)]

/-- Entries under a tag have an empty line. -/
theorem lineOf_eq_nil {t : Tree} {e : Tree × Tree} {es : List (Tree × Tree)} (entries : t.untagged = .map (e :: es)) :
    lineOf t = [] := by
  rw [lineOf]
  cases line : inline? t with
  | none => rfl
  | some x =>
    have untagged := inline?_untagged_of_some line
    rw [entries] at untagged
    cases untagged

/-- Items under a tag have an empty line, or brackets. -/
theorem lineOf_ne_dash {t i : Tree} {is : List Tree} (items : t.untagged = .seq (i :: is)) (after : Line) :
    '-' :: after ≠ lineOf t := by
  rw [lineOf]
  cases line : inline? t with
  | none => exact List.cons_ne_nil _ _
  | some x =>
    have untagged := inline?_untagged_of_some line
    rw [items, inline?_seq, Option.ite_none_right_eq_some] at untagged
    obtain ⟨_, brackets⟩ := untagged
    cases brackets
    simp [bracketed]

/-! ### Trees under a tag -/

theorem keyLine_append_ne_nil (key after : Line) : keyLine key ++ after ≠ [] := by
  simp [keyLine]

/-- The line of an item with a tag is the item without the tag exactly if that item has a line of its own. -/
theorem item_untagged_eq_line_iff (indent : Nat) (t : Tree) :
    item indent t.untagged = [['-', ' '] ++ lineOf t] ↔ isLeaf t.untagged = true := by
  match shape : t.untagged with
  | .map ((key, value) :: es) =>
    obtain ⟨after, nested, lines, _⟩ := entry_eq_cons (indent + 2) (keyText key) value
    refine iff_of_false ?_ (by simp [isLeaf])
    rw [item, entries, lines, lineOf_eq_nil shape]
    intro same
    exact keyLine_append_ne_nil (keyText key) after (by simpa [hung] using congrArg List.head? same)
  | .seq (i :: is) => exact iff_of_false (by simp [item]) (by simp [isLeaf])
  | .tagged _ _ | .null | .bool _ | .int _ | .float _ | .str _ | .seq [] | .map [] =>
    refine iff_of_true ?_ rfl
    rw [← lineOf_untagged (by rw [shape]; rfl), shape]
    rfl

/-- The line of a tree with a tag is the block without the tag exactly if that block is a line of its own. -/
theorem block_untagged_eq_line_iff (t : Tree) : block t.untagged = [lineOf t] ↔ isLeaf t.untagged = true := by
  match shape : t.untagged with
  | .map ((key, value) :: es) =>
    obtain ⟨after, nested, lines, _⟩ := entry_eq_cons 0 (keyText key) value
    refine iff_of_false ?_ (by simp [isLeaf])
    rw [block, entries, lines, lineOf_eq_nil shape]
    intro same
    exact keyLine_append_ne_nil (keyText key) after (List.head_eq_of_cons_eq same)
  | .seq (i :: is) =>
    obtain ⟨after, rest, lines, _⟩ := items_eq_cons 0 (List.cons_ne_nil i is)
    refine iff_of_false ?_ (by simp [isLeaf])
    rw [block, lines]
    intro same
    exact lineOf_ne_dash shape after (List.head_eq_of_cons_eq same)
  | .tagged _ _ | .null | .bool _ | .int _ | .float _ | .str _ | .seq [] | .map [] =>
    refine iff_of_true ?_ rfl
    rw [← lineOf_untagged (by rw [shape]; rfl), shape]
    rfl

/-! ### Blocks -/

/-- Where the value of an entry is a sequence. -/
theorem entryLines_untagged_iff (column : Nat) (key : Tree) (ts : List Tree)
    (below : items (column + 2) (untaggedItems ts) = items (column + 2) ts ↔ transparentItems (column + 2) ts = true) :
    entryLines column [] key (untaggedItems ts) = entryLines column [] key ts ↔
      transparentUnder column key (.seq ts) = true := by
  rw [transparentUnder, entryLines, entryLines]
  simp only [fits_iff_untagged column key ts]
  by_cases fits : Fits column [] key (untaggedItems ts)
  · cases some : ts.any isTagged with
    | false =>
      have short := (fits_iff_untagged column key ts).mpr ⟨some, fits⟩
      simp [short, untaggedItems_of_isScalar (List.all_eq_true.mpr short.1)]
    | true => simp [fits, (headLine_ne_flowLine [] key (untaggedItems ts)).symm]
  · rw [if_neg fits, if_neg fits, if_neg (fun both => fits both.2), ← below]
    exact cons_map_indented_inj

mutual

theorem entries_untagged_iff (indent : Nat) (es : List (Tree × Tree)) :
    entries indent (untaggedEntries es) = entries indent es ↔ transparentEntries indent es = true := by
  match es with
  | [] => exact iff_of_true rfl rfl
  | (key, value) :: rest =>
    rw [transparentEntries, Bool.and_eq_true, Bool.and_eq_true, ← entry_untagged_iff indent key value,
      ← entries_untagged_iff indent rest, untaggedEntries, entries, entries]
    cases clear : key.transparentKey with
    | true => rw [(keyText_untagged_iff key).mpr clear, entry_append_inj, eq_self, true_and]
    | false =>
      -- A key between brackets is not the question mark of a key that has no line.
      obtain ⟨none, x, some⟩ := inline?_untagged_of_not_transparentKey clear
      obtain ⟨after, nested, lines, _⟩ := entry_eq_cons indent (keyText key.untagged) value.untagged
      obtain ⟨after', nested', lines', _⟩ := entry_eq_cons indent (keyText key) value
      rw [lines, lines']
      simp [keyText, keyLine, none, some]

theorem entry_untagged_iff (indent : Nat) (key value : Tree) :
    entry indent (keyText key) value.untagged = entry indent (keyText key) value ↔
      transparentUnder indent key value = true := by
  match value with
  | .map ((name, v) :: es) =>
    have below := entries_untagged_iff (indent + 2) ((name, v) :: es)
    rw [transparentUnder, ← below, untagged, untaggedEntries, entry, entry, cons_map_indented_inj]
  | .seq (t :: ts) =>
    have below := items_untagged_iff (indent + 2) (t :: ts)
    rw [← entryLines_untagged_iff indent key (t :: ts) below, untagged, untaggedItems, entry_seq, entry_seq]
  | .seq [] => exact iff_of_true rfl (by simp [transparentUnder, transparentItems])
  | .tagged _ t =>
    rw [untagged, entry, transparentUnder]
    exact entry_untagged_iff indent key t
  | .null | .bool _ | .int _ | .float _ | .str _ | .map [] => exact iff_of_true rfl rfl

theorem items_untagged_iff (indent : Nat) (ts : List Tree) :
    items indent (untaggedItems ts) = items indent ts ↔ transparentItems indent ts = true := by
  match ts with
  | [] => exact iff_of_true rfl rfl
  | t :: rest =>
    rw [transparentItems, Bool.and_eq_true, ← item_untagged_iff indent t, ← items_untagged_iff indent rest,
      untaggedItems, items, items, item_append_inj]

theorem item_untagged_iff (indent : Nat) (t : Tree) :
    item indent t.untagged = item indent t ↔ t.transparent (indent + 2) = true := by
  match t with
  | .map ((key, value) :: es) =>
    have below := entries_untagged_iff (indent + 2) ((key, value) :: es)
    rw [transparent, ← below, untagged, untaggedEntries, item, item]
    exact ⟨hung_inj, congrArg hung⟩
  | .seq (t :: ts) =>
    have below := items_untagged_iff (indent + 2) (t :: ts)
    rw [transparent, ← below, untagged, untaggedItems, item, item, cons_map_indented_inj]
  | .tagged _ t => exact item_untagged_eq_line_iff indent t
  | .null | .bool _ | .int _ | .float _ | .str _ | .seq [] | .map [] => exact iff_of_true rfl rfl

end

theorem block_untagged_iff (t : Tree) : block t.untagged = block t ↔ t.transparent 0 = true := by
  match t with
  | .map ((key, value) :: es) => exact entries_untagged_iff 0 ((key, value) :: es)
  | .seq (t :: ts) => exact items_untagged_iff 0 (t :: ts)
  | .tagged _ t => exact block_untagged_eq_line_iff t
  | .null | .bool _ | .int _ | .float _ | .str _ | .seq [] | .map [] => exact iff_of_true rfl rfl

end Layout

/-- A tree has the text of the same tree without tags exactly if no tag stands where one is seen. -/
theorem render_untagged_iff (t : Tree) : render t.untagged = render t ↔ t.transparent 0 = true := by
  rw [← block_untagged_iff]
  constructor
  · intro same
    have texts : text t.untagged = text t := String.ofList_injective same
    rw [text_eq_unlines, text_eq_unlines] at texts
    exact unlines_inj (unbroken_block t.untagged) (unbroken_block t) texts
  · intro same
    rw [render, render, text_eq_unlines, text_eq_unlines, same]

/-- What is under a tag is lost from the top of a document and from an item, and a tag in a sequence between brackets
    makes a block of it. -/
theorem tags_show :
    render (.tagged "!t" (.map [(.str "a", .bool true)])) = "\n" ∧
    render (Tree.tagged "!t" (.map [(.str "a", .bool true)])).untagged = "a: true\n" ∧
    render (.seq [.tagged "!t" (.map [(.str "a", .bool true)])]) = "- \n" ∧
    render (Tree.seq [.tagged "!t" (.map [(.str "a", .bool true)])]).untagged = "- a: true\n" ∧
    render (.map [(.str "k", .seq [.tagged "!t" (.bool true)])]) = "k:\n  - true\n" ∧
    render (Tree.map [(.str "k", .seq [.tagged "!t" (.bool true)])]).untagged = "k: [true]\n" := by
  decide

end FabricTopology.Yaml
