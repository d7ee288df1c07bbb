import FabricTopology.Proofs.Yaml.Width
import Mathlib.Data.List.Forall2

/-!
What the writer finds at the end of its own text. It looks there once for every mapping, to see whether the first entry
goes on after a dash, and its text holds keys and scalars of all kinds. Whenever it looks, though, the last line is
either empty or holds the columns and the dash of the item that the mapping is, and nothing of a key or a scalar
(`Look.Meets`). So the writer finds a dash exactly if the mapping is an item, what it adds depends on the mapping alone,
and its text is the layout, which is made without looking (`watched_layout`).
-/
namespace FabricTopology.Yaml
open Layout

/-! ### The writer under watch -/

/-- A look at the end of the text: what is written so far, and the mapping to come with the column of its entries. -/
structure Look where
  out : Written
  indent : Nat
  entries : List (Tree × Tree)

/-- What is written so far, and the looks at it from the first to the last. -/
structure Watched where
  out : Written
  looks : List Look

namespace Watched

/-- A text added. -/
def add (w : Watched) (cs : List Char) : Watched := { w with out := w.out.add cs }

/-- Spaces added. -/
def pad (w : Watched) (indent : Nat) : Watched := { w with out := w.out.pad indent }

/-- A line ended after a text. -/
def line (w : Watched) (t : Tree) : Watched := { w with out := w.out.line t }

/-- A look noted, which the writer takes at the `first` entries of a mapping only. -/
def look (w : Watched) (indent : Nat) (first : Bool) (es : List (Tree × Tree)) : Watched :=
  if first then { w with looks := w.looks ++ [⟨w.out, indent, es⟩] } else w

@[simp] theorem add_out (w : Watched) (cs : List Char) : (w.add cs).out = w.out.add cs := rfl

@[simp] theorem add_looks (w : Watched) (cs : List Char) : (w.add cs).looks = w.looks := rfl

@[simp] theorem pad_out (w : Watched) (indent : Nat) : (w.pad indent).out = w.out.pad indent := rfl

@[simp] theorem pad_looks (w : Watched) (indent : Nat) : (w.pad indent).looks = w.looks := rfl

@[simp] theorem line_looks (w : Watched) (t : Tree) : (w.line t).looks = w.looks := rfl

@[simp] theorem look_out (w : Watched) (indent : Nat) (first : Bool) (es : List (Tree × Tree)) :
    (w.look indent first es).out = w.out := by
  cases first <;> rfl

theorem look_first (w : Watched) (indent : Nat) (es : List (Tree × Tree)) :
    (w.look indent true es).looks = w.looks ++ [⟨w.out, indent, es⟩] := rfl

/-- The looks stay, whether spaces come first or not. -/
theorem start_looks (dash : Bool) (w : Watched) (indent : Nat) :
    (if dash then w else w.pad indent).looks = w.looks := by
  cases dash <;> rfl

end Watched

mutual

/-- `writeEntries` under watch. -/
def watchEntries (w : Watched) (indent : Nat) (first : Bool) : List (Tree × Tree) → Watched
  | [] => w.look indent first []
  | (key, value) :: rest =>
    let seen := w.look indent first ((key, value) :: rest)
    let start := if first && seen.out.endsInDash then seen else seen.pad indent
    let named := (start.add (keyText key)).add [':']
    let entry := watchValue named indent (indent + byteCount (keyText key) + 2) value
    watchEntries entry indent false rest

/-- `writeValue` under watch. -/
def watchValue (w : Watched) (indent column : Nat) : Tree → Watched
  | .map (e :: es) => watchEntries (w.add ['\n']) (indent + 2) true (e :: es)
  | .seq (t :: ts) =>
    match (inline? (.seq (t :: ts))).filter fun flow => column + byteCount flow ≤ lineWidth with
    | some flow => ((w.add [' ']).add flow).add ['\n']
    | none => watchItems (w.add ['\n']) (indent + 2) (t :: ts)
  | .tagged _ t => watchValue w indent column t
  | t => (w.add [' ']).line t

/-- `writeItems` under watch. -/
def watchItems (w : Watched) (indent : Nat) : List Tree → Watched
  | [] => w
  | t :: rest => watchItems (watchItem ((w.pad indent).add ['-']) indent t) indent rest

/-- `writeItem` under watch. -/
def watchItem (w : Watched) (indent : Nat) : Tree → Watched
  | .map (e :: es) => watchEntries (w.add [' ']) (indent + 2) true (e :: es)
  | .seq (t :: ts) => watchItems (w.add ['\n']) (indent + 2) (t :: ts)
  | t => (w.add [' ']).line t

end

/-- The text of a tree, written under watch. -/
def watch : Tree → Watched
  | .map (e :: es) => watchEntries ⟨[], []⟩ 0 true (e :: es)
  | .seq (t :: ts) => watchItems ⟨[], []⟩ 0 (t :: ts)
  | t => Watched.line ⟨[], []⟩ t

mutual

/-- Under watch the writer writes the same. -/
theorem watchEntries_out (w : Watched) (indent : Nat) (first : Bool) (es : List (Tree × Tree)) :
    (watchEntries w indent first es).out = writeEntries w.out indent first es := by
  match es with
  | [] => simp [watchEntries, writeEntries]
  | (key, value) :: rest =>
    have entry := fun w => watchValue_out w indent (indent + byteCount (keyText key) + 2) value
    have others := fun w => watchEntries_out w indent false rest
    simp only [watchEntries, writeEntries, others, entry, Watched.add_out, Watched.look_out]
    split <;> simp

theorem watchValue_out (w : Watched) (indent column : Nat) (value : Tree) :
    (watchValue w indent column value).out = writeValue w.out indent column value := by
  match value with
  | .map (e :: es) =>
    rw [watchValue, writeValue, watchEntries_out (w.add ['\n']) (indent + 2) true (e :: es), Watched.add_out]
  | .seq (t :: ts) =>
    cases fits : (inline? (.seq (t :: ts))).filter fun flow => column + byteCount flow ≤ lineWidth with
    | some flow =>
      rw [watchValue, writeValue, fits]
      rfl
    | none =>
      rw [watchValue, writeValue, fits]
      exact watchItems_out (w.add ['\n']) (indent + 2) (t :: ts)
  | .tagged _ t => rw [watchValue, writeValue, watchValue_out w indent column t]
  | .null | .bool _ | .int _ | .float _ | .str _ | .seq [] | .map [] => rfl

theorem watchItems_out (w : Watched) (indent : Nat) (ts : List Tree) :
    (watchItems w indent ts).out = writeItems w.out indent ts := by
  match ts with
  | [] => rfl
  | t :: rest =>
    have item := watchItem_out ((w.pad indent).add ['-']) indent t
    rw [watchItems, writeItems, watchItems_out _ indent rest, item, Watched.add_out, Watched.pad_out]

theorem watchItem_out (w : Watched) (indent : Nat) (t : Tree) :
    (watchItem w indent t).out = writeItem w.out indent t := by
  match t with
  | .map (e :: es) =>
    rw [watchItem, writeItem, watchEntries_out (w.add [' ']) (indent + 2) true (e :: es), Watched.add_out]
  | .seq (t :: ts) =>
    rw [watchItem, writeItem, watchItems_out (w.add ['\n']) (indent + 2) (t :: ts), Watched.add_out]
  | .tagged _ _ | .null | .bool _ | .int _ | .float _ | .str _ | .seq [] | .map [] => rfl

end

theorem watch_out (t : Tree) : (watch t).out.reverse = text t := by
  match t with
  | .map (e :: es) => rw [watch, text, watchEntries_out]
  | .seq (t :: ts) => rw [watch, text, watchItems_out]
  | .tagged _ _ | .null | .bool _ | .int _ | .float _ | .str _ | .seq [] | .map [] => rfl

/-! ### The mappings of a tree -/

/-- A mapping in a tree that is not empty: the column of its entries, the entries, and whether it is an item. -/
structure Mapping where
  indent : Nat
  entries : List (Tree × Tree)
  isItem : Bool

/-- What stands on the line of the first key before it: for an item the dash, in the place of the last two columns. -/
def Mapping.lead (m : Mapping) : Line := if m.isItem then indented (m.indent - 2) ['-', ' '] else []

/-- The lines of a mapping in their columns, of which the first one of an item goes on after its dash. -/
def Mapping.lines (m : Mapping) : List Line :=
  if m.isItem then following m.indent (Layout.entries m.indent m.entries)
  else (Layout.entries m.indent m.entries).map (indented m.indent)

namespace Tree

mutual

/-- The mappings of a tree in `column` that are not empty, in their order. Those in keys are left out. -/
def mappings (column : Nat) (isItem : Bool) : Tree → List Mapping
  | map (e :: es) => ⟨column, e :: es, isItem⟩ :: mappingsOfEntries column (e :: es)
  | seq ts => mappingsOfItems column ts
  | tagged _ t => mappings column isItem t
  | _ => []

/-- The mappings in the values of entries in `column`. -/
def mappingsOfEntries (column : Nat) : List (Tree × Tree) → List Mapping
  | [] => []
  | (_, value) :: rest => mappings (column + 2) false value ++ mappingsOfEntries column rest

/-- The mappings that are items in `column`, and those in items. -/
def mappingsOfItems (column : Nat) : List Tree → List Mapping
  | [] => []
  | t :: rest => mappings (column + 2) true t ++ mappingsOfItems column rest

end

mutual

/-- No tag stands anywhere in the tree. -/
def isTagless : Tree → Bool
  | seq ts => areTagless ts
  | map es => entriesTagless es
  | tagged _ _ => false
  | _ => true

/-- `isTagless` of every item. -/
def areTagless : List Tree → Bool
  | [] => true
  | t :: rest => t.isTagless && areTagless rest

/-- `isTagless` of every key and value. -/
def entriesTagless : List (Tree × Tree) → Bool
  | [] => true
  | (key, value) :: rest => key.isTagless && value.isTagless && entriesTagless rest

end

theorem mappings_of_isScalar (column : Nat) (isItem : Bool) {t : Tree} (scalar : t.isScalar = true) :
    t.mappings column isItem = [] := by
  cases t with
  | seq _ | map _ | tagged _ _ => cases scalar
  | null | bool _ | int _ | float _ | str _ => rfl

theorem mappingsOfItems_of_isScalar (column : Nat) {ts : List Tree} (scalars : ts.all isScalar = true) :
    mappingsOfItems column ts = [] := by
  induction ts with
  | nil => rfl
  | cons t rest ih =>
    rw [List.all_cons, Bool.and_eq_true] at scalars
    rw [mappingsOfItems, mappings_of_isScalar _ _ scalars.1, ih scalars.2, List.append_nil]

end Tree

/-! ### The last line -/

/-- What stands after the last line feed. -/
def Written.lastLine (out : Written) : Line := (out.takeWhile (· != '\n')).reverse

theorem lastLine_add (out : Written) {cs : List Char} (unbroken : Unbroken cs) :
    (out.add cs).lastLine = out.lastLine ++ cs := by
  have whole : ∀ c ∈ cs.reverse, (c != '\n') = true := by
    intro c member
    have stays : c ≠ '\n' := fun same => unbroken.newline_notMem (same ▸ List.mem_reverse.mp member)
    simpa using stays
  rw [Written.lastLine, Written.add, List.reverseAux_eq, List.takeWhile_append_of_pos whole, List.reverse_append,
    List.reverse_reverse, Written.lastLine]

theorem lastLine_newline (out : Written) : (out.add ['\n']).lastLine = [] := rfl

theorem lastLine_unlines (out : Written) {lines : List Line} (some : lines ≠ []) :
    (out.add (unlines lines)).lastLine = [] := by
  obtain ⟨above, line, rfl⟩ := (List.eq_nil_or_concat' lines).resolve_left some
  rw [unlines_append, unlines_cons, unlines_nil, ← List.append_assoc, ← add_add, lastLine_newline]

/-- After an item a new line begins. -/
theorem lastLine_writeItem (out : Written) (indent : Nat) (t : Tree) :
    (writeItem (out.add ['-']) indent t).lastLine = [] := by
  obtain ⟨line, rest, lines⟩ := List.exists_cons_of_ne_nil (item_ne_nil indent t)
  rw [writeItem_eq, lines, following]
  exact lastLine_unlines out (List.cons_ne_nil _ _)

/-! ### What the looks find -/

/-- A look at the end of the text, when the mapping is to come: a dash stands there exactly if the mapping is an item,
    nothing else stands on the last line than what leads the mapping, and what the writer adds for the mapping is its
    lines, whatever stands on the lines before. -/
structure Look.Meets (look : Look) (m : Mapping) : Prop where
  indent : look.indent = m.indent
  entries : look.entries = m.entries
  dash : look.out.endsInDash = m.isItem
  line : look.out.lastLine = m.lead
  adds : writeEntries look.out look.indent true look.entries = look.out.add (unlines m.lines)

theorem writeEntries_lines (out : Written) (indent : Nat) (e : Tree × Tree) (es : List (Tree × Tree)) :
    writeEntries out indent true (e :: es) =
      out.add (unlines (Mapping.lines ⟨indent, e :: es, out.endsInDash⟩)) := by
  cases dash : out.endsInDash with
  | false => exact writeEntries_eq out indent true (e :: es) (by rw [dash]; rfl)
  | true => exact writeEntries_dash out indent (e :: es) (List.cons_ne_nil e es) dash

/-- A mapping below a key: the line of the key is ended before the look. -/
theorem meets_newLine (out : Written) (indent : Nat) (e : Tree × Tree) (es : List (Tree × Tree)) :
    Look.Meets ⟨out.add ['\n'], indent, e :: es⟩ ⟨indent, e :: es, false⟩ :=
  ⟨rfl, rfl, rfl, rfl, writeEntries_lines _ _ _ _⟩

/-- A mapping that is an item: its dash stands after the columns of the sequence, on a line of its own. -/
theorem meets_dash (out : Written) (indent : Nat) (e : Tree × Tree) (es : List (Tree × Tree))
    (begun : out.lastLine = []) :
    Look.Meets ⟨((out.pad indent).add ['-']).add [' '], indent + 2, e :: es⟩ ⟨indent + 2, e :: es, true⟩ := by
  have dash : Sound ['-', ' '] := sound_dash (show Unbroken [' '] by decide)
  have columns : Unbroken (indented indent ['-', ' ']) := (dash.indented indent).unbroken
  have line : (((out.pad indent).add ['-']).add [' ']).lastLine = indented indent ['-', ' '] :=
    calc (((out.pad indent).add ['-']).add [' ']).lastLine
        = (out.add (indented indent ['-', ' '])).lastLine := by rw [pad_eq_add, add_add, add_add]; rfl
      _ = indented indent ['-', ' '] := by rw [lastLine_add out columns, begun, List.nil_append]
  exact ⟨rfl, rfl, rfl, line, writeEntries_lines _ _ _ _⟩

/-- What a look finds is added to what those before it found. -/
theorem meets_look {w : Watched} {indent : Nat} {es : List (Tree × Tree)} {m : Mapping} {ms : List Mapping}
    (before : List.Forall₂ Look.Meets w.looks ms) (now : Look.Meets ⟨w.out, indent, es⟩ m) :
    List.Forall₂ Look.Meets (w.look indent true es).looks (ms ++ [m]) := by
  rw [Watched.look_first]
  exact List.rel_append before (.cons now .nil)

mutual

/-- The looks taken at entries meet the mappings in them, after those that were met before. -/
theorem meets_entries (w : Watched) (indent : Nat) (first : Bool) (es : List (Tree × Tree)) {ms : List Mapping}
    (tagless : Tree.entriesTagless es = true) (before : List.Forall₂ Look.Meets (w.look indent first es).looks ms) :
    List.Forall₂ Look.Meets (watchEntries w indent first es).looks (ms ++ Tree.mappingsOfEntries indent es) := by
  match es with
  | [] => simpa [watchEntries, Tree.mappingsOfEntries] using before
  | (key, value) :: rest =>
    simp only [Tree.entriesTagless, Bool.and_eq_true] at tagless
    rw [watchEntries, Tree.mappingsOfEntries, ← List.append_assoc]
    refine meets_entries _ indent false rest tagless.2 ?_
    refine meets_value _ indent _ value tagless.1.2 ?_
    simpa only [Watched.add_looks, Watched.start_looks] using before

theorem meets_value (w : Watched) (indent column : Nat) (value : Tree) {ms : List Mapping}
    (tagless : value.isTagless = true) (before : List.Forall₂ Look.Meets w.looks ms) :
    List.Forall₂ Look.Meets (watchValue w indent column value).looks (ms ++ value.mappings (indent + 2) false) := by
  match value with
  | .map (e :: es) =>
    have look := meets_look (w := w.add ['\n']) before (meets_newLine w.out (indent + 2) e es)
    rw [watchValue, Tree.mappings, List.append_cons]
    exact meets_entries _ (indent + 2) true (e :: es) tagless look
  | .seq (t :: ts) =>
    rw [Tree.mappings]
    cases fits : (inline? (.seq (t :: ts))).filter fun flow => column + byteCount flow ≤ lineWidth with
    | some flow =>
      have line := Option.eq_some_of_filter_eq_some fits
      rw [inline?_seq, Option.ite_none_right_eq_some] at line
      rw [watchValue, fits, Tree.mappingsOfItems_of_isScalar _ line.1, List.append_nil]
      exact before
    | none =>
      rw [watchValue, fits]
      exact meets_items (w.add ['\n']) (indent + 2) (t :: ts) tagless (lastLine_newline w.out) before
  | .null | .bool _ | .int _ | .float _ | .str _ | .seq [] | .map [] =>
    simpa [watchValue, Tree.mappings, Tree.mappingsOfItems] using before

theorem meets_items (w : Watched) (indent : Nat) (ts : List Tree) {ms : List Mapping}
    (tagless : Tree.areTagless ts = true) (begun : w.out.lastLine = [])
    (before : List.Forall₂ Look.Meets w.looks ms) :
    List.Forall₂ Look.Meets (watchItems w indent ts).looks (ms ++ Tree.mappingsOfItems indent ts) := by
  match ts with
  | [] => simpa [watchItems, Tree.mappingsOfItems] using before
  | t :: rest =>
    simp only [Tree.areTagless, Bool.and_eq_true] at tagless
    rw [watchItems, Tree.mappingsOfItems, ← List.append_assoc]
    -- Below a key the writer ends the line itself, but an item goes on with the line that it finds.
    refine meets_items _ indent rest tagless.2 ?_ (meets_item w indent t tagless.1 begun before)
    rw [watchItem_out]
    exact lastLine_writeItem (w.out.pad indent) indent t

theorem meets_item (w : Watched) (indent : Nat) (t : Tree) {ms : List Mapping} (tagless : t.isTagless = true)
    (begun : w.out.lastLine = []) (before : List.Forall₂ Look.Meets w.looks ms) :
    List.Forall₂ Look.Meets (watchItem ((w.pad indent).add ['-']) indent t).looks
      (ms ++ t.mappings (indent + 2) true) := by
  match t with
  | .map (e :: es) =>
    have look := meets_look (w := ((w.pad indent).add ['-']).add [' ']) before (meets_dash w.out indent e es begun)
    rw [watchItem, Tree.mappings, List.append_cons]
    exact meets_entries _ (indent + 2) true (e :: es) tagless look
  | .seq (t :: ts) =>
    rw [watchItem, Tree.mappings]
    exact meets_items (((w.pad indent).add ['-']).add ['\n']) (indent + 2) (t :: ts) tagless (lastLine_newline _) before
  | .null | .bool _ | .int _ | .float _ | .str _ | .seq [] | .map [] =>
    simpa [watchItem, Tree.mappings, Tree.mappingsOfItems] using before

end

theorem meets_watch (t : Tree) (tagless : t.isTagless = true) :
    List.Forall₂ Look.Meets (watch t).looks (t.mappings 0 false) := by
  match t with
  | .map (e :: es) =>
    have look : Look.Meets ⟨[], 0, e :: es⟩ ⟨0, e :: es, false⟩ :=
      ⟨rfl, rfl, rfl, rfl, writeEntries_lines _ _ _ _⟩
    rw [watch, Tree.mappings, ← List.singleton_append]
    exact meets_entries ⟨[], []⟩ 0 true (e :: es) tagless (meets_look .nil look)
  | .seq (t :: ts) => exact meets_items ⟨[], []⟩ 0 (t :: ts) tagless rfl .nil
  | .null | .bool _ | .int _ | .float _ | .str _ | .seq [] | .map [] => exact .nil

/-- In a tree without tags the writer looks at the end of its text once for every mapping, in their order, finds a dash
    exactly if the mapping is an item and adds the lines of the mapping; and its text is the lines of the layout. -/
theorem watched_layout (t : Tree) (tagless : t.isTagless = true) :
    (watch t).out.reverse = text t ∧
    List.Forall₂ Look.Meets (watch t).looks (t.mappings 0 false) ∧
    render t = String.ofList (unlines (block t)) := by
  refine ⟨watch_out t, meets_watch t tagless, ?_⟩
  rw [render, text_eq_unlines]

/-- A tree with keys and scalars that end like an item that has just begun. -/
def dashTree : Tree :=
  .map [(.str "- ", .seq [.map [(.str "a -", .str "- ")], .seq [.map [(.str "-", .null)]]]),
    (.str "b - ", .map [(.str "k", .str "-")])]

/-- A dash is found for the two items alone. -/
theorem watched_layout_dashTree :
    dashTree.isTagless = true ∧
    (watch dashTree).looks.map (fun look => look.out.endsInDash) = [false, true, true, false] ∧
    render dashTree = "'- ':\n  - a -: '- '\n  -\n    - '-': null\n'b - ':\n  k: '-'\n" ∧
    (watch dashTree).out.reverse = text dashTree ∧
    List.Forall₂ Look.Meets (watch dashTree).looks (dashTree.mappings 0 false) ∧
    render dashTree = String.ofList (unlines (block dashTree)) :=
  ⟨rfl, by decide, by decide, watched_layout dashTree rfl⟩

end FabricTopology.Yaml
