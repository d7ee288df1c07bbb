import FabricTopology.Yaml.Writer

/-!
The layout of a document as a list of lines. A block under a key is two columns further in than its
key, and the dash of an item stands in the place of the first two columns of what it holds. The layout
is made part by part and never looks at what stands before; the writer, which looks at the end of its
own text to find the dash, writes exactly the lines of the layout (`text_eq_unlines`).
-/
namespace FabricTopology.Yaml

/-- A line without its end. -/
abbrev Line := List Char

namespace Layout

/-- A line so many columns further in. -/
def indented (n : Nat) (line : Line) : Line := List.replicate n ' ' ++ line

/-- Lines of which the first one goes on after something else. -/
def following (indent : Nat) : List Line → List Line
  | [] => []
  | line :: rest => line :: rest.map (indented indent)

/-- The lines of an item: its dash, a space and the lines of what it holds below one another. -/
def hung : List Line → List Line
  | [] => []
  | line :: rest => ('-' :: ' ' :: line) :: rest.map (indented 2)

/-- The line of a tree that has one, an empty line for any other. -/
def lineOf (t : Tree) : Line := (inline? t).getD []

/-- The key of an entry and the colon after it. -/
def keyLine (key : Line) : Line := key ++ [':']

/-- The brackets of a sequence that is short enough to stand on the line of its key. -/
def flow? (indent : Nat) (key : Line) (items : List Tree) : Option Line :=
  (inline? (.seq items)).filter fun flow => indent + byteCount key + 2 + byteCount flow ≤ lineWidth

mutual

/-- The lines of entries in column `indent`. -/
def entries (indent : Nat) : List (Tree × Tree) → List Line
  | [] => []
  | (key, value) :: rest => entry indent (keyText key) value ++ entries indent rest

/-- The lines of an entry with the given key in column `indent`. -/
def entry (indent : Nat) (key : Line) : Tree → List Line
  | .map (e :: es) => keyLine key :: (entries (indent + 2) (e :: es)).map (indented 2)
  | .seq (t :: ts) =>
    match flow? indent key (t :: ts) with
    | some flow => [keyLine key ++ ' ' :: flow]
    | none => keyLine key :: (items (indent + 2) (t :: ts)).map (indented 2)
  | .tagged _ t => entry indent key t
  | t => [keyLine key ++ ' ' :: lineOf t]

/-- The lines of items in column `indent`. -/
def items (indent : Nat) : List Tree → List Line
  | [] => []
  | t :: rest => item indent t ++ items indent rest

/-- The lines of an item in column `indent`. -/
def item (indent : Nat) : Tree → List Line
  | .map (e :: es) => hung (entries (indent + 2) (e :: es))
  | .seq (t :: ts) => ['-'] :: (items (indent + 2) (t :: ts)).map (indented 2)
  | t => [['-', ' '] ++ lineOf t]

end

/-- The lines of a tree. -/
def block : Tree → List Line
  | .map (e :: es) => entries 0 (e :: es)
  | .seq (t :: ts) => items 0 (t :: ts)
  | t => [lineOf t]

/-- Lines with their ends. -/
def unlines (lines : List Line) : List Char := lines.flatMap fun line => line ++ ['\n']

@[simp] theorem unlines_nil : unlines [] = [] := rfl

@[simp] theorem unlines_cons (line : Line) (lines : List Line) :
    unlines (line :: lines) = line ++ '\n' :: unlines lines := by simp [unlines]

@[simp] theorem unlines_append (lines more : List Line) : unlines (lines ++ more) = unlines lines ++ unlines more := by
  simp [unlines]

@[simp] theorem map_indented_zero (lines : List Line) : lines.map (indented 0) = lines := List.map_id lines

theorem indented_indented (m n : Nat) (line : Line) : indented m (indented n line) = indented (m + n) line := by
  simp [indented, ← List.append_assoc, List.replicate_append_replicate]

theorem map_indented_indented (m n : Nat) (lines : List Line) :
    (lines.map (indented n)).map (indented m) = lines.map (indented (m + n)) := by
  simp [Function.comp_def, indented_indented]

/-! ### The writer writes the layout -/

theorem add_add (out : Written) (cs ds : List Char) : (out.add cs).add ds = out.add (cs ++ ds) := by
  simp [Written.add]

theorem pad_eq_add (out : Written) (indent : Nat) : out.pad indent = out.add (List.replicate indent ' ') := rfl

theorem following_append (indent : Nat) {lines : List Line} (more : List Line) (some : lines ≠ []) :
    following indent (lines ++ more) = following indent lines ++ more.map (indented indent) := by
  obtain ⟨line, rest, rfl⟩ := List.exists_cons_of_ne_nil some
  simp [following]

/-- Spaces before lines that go on after them make all lines indented. -/
theorem pad_following (indent : Nat) {lines : List Line} (some : lines ≠ []) :
    List.replicate indent ' ' ++ unlines (following indent lines) = unlines (lines.map (indented indent)) := by
  obtain ⟨line, rest, rfl⟩ := List.exists_cons_of_ne_nil some
  simp [following, indented]

theorem following_hung (indent : Nat) (lines : List Line) (some : lines ≠ []) :
    unlines (following indent (hung lines)) = ['-', ' '] ++ unlines (following (indent + 2) lines) := by
  obtain ⟨line, rest, rfl⟩ := List.exists_cons_of_ne_nil some
  simp [following, hung, Function.comp_def, indented_indented]

theorem entry_ne_nil (indent : Nat) (key : Line) : ∀ t : Tree, entry indent key t ≠ []
  | .map (_ :: _) => by simp [entry]
  | .seq (t :: ts) => by
    rw [entry]
    split <;> simp
  | .tagged _ t => by
    rw [entry]
    exact entry_ne_nil indent key t
  | .null | .bool _ | .int _ | .float _ | .str _ | .seq [] | .map [] => by simp [entry]

theorem entries_ne_nil (indent : Nat) (e : Tree × Tree) (es : List (Tree × Tree)) : entries indent (e :: es) ≠ [] := by
  simp [entries, entry_ne_nil]

theorem item_ne_nil (indent : Nat) : ∀ t : Tree, item indent t ≠ []
  | .map (e :: es) => by
    obtain ⟨line, rest, lines⟩ := List.exists_cons_of_ne_nil (entries_ne_nil (indent + 2) e es)
    simp [item, lines, hung]
  | .seq (_ :: _) | .tagged _ _ => by simp [item]
  | .null | .bool _ | .int _ | .float _ | .str _ | .seq [] | .map [] => by simp [item]

/-- A line ended after a key. -/
private theorem line_eq (out : Written) (indent : Nat) (key : Line) (t : Tree) :
    ((out.add (keyLine key)).add [' ']).line t =
      out.add (unlines (following indent [keyLine key ++ ' ' :: lineOf t])) := by
  simp [Written.line, add_add, following, lineOf]

mutual

/-- Entries that do not go on after a dash are written in lines of their own. -/
theorem writeEntries_eq (out : Written) (indent : Nat) (first : Bool) (es : List (Tree × Tree))
    (own : (first && out.endsInDash) = false) :
    writeEntries out indent first es = out.add (unlines ((entries indent es).map (indented indent))) := by
  match es with
  | [] => rfl
  | (key, value) :: rest =>
    have written := writeValue_eq (out.pad indent) indent (keyText key) value
    have others := fun out => writeEntries_eq out indent false rest rfl
    rw [keyLine, ← add_add] at written
    rw [writeEntries, own]
    simp only [Bool.false_eq_true, if_false]
    rw [written, others, pad_eq_add, add_add, add_add, ← List.append_assoc,
      pad_following indent (entry_ne_nil indent _ value)]
    simp [entries]

/-- Entries that go on after a dash are written without the columns of the first one. -/
theorem writeEntries_dash (out : Written) (indent : Nat) (es : List (Tree × Tree)) (some : es ≠ [])
    (dash : out.endsInDash = true) :
    writeEntries out indent true es = out.add (unlines (following indent (entries indent es))) := by
  match es with
  | [] => exact absurd rfl some
  | (key, value) :: rest =>
    have written := writeValue_eq out indent (keyText key) value
    have others := fun out => writeEntries_eq out indent false rest rfl
    rw [keyLine, ← add_add] at written
    rw [writeEntries, dash]
    simp only [Bool.and_self, if_true]
    rw [written, others, add_add, entries, following_append indent _ (entry_ne_nil indent _ value), unlines_append]

/-- The value of an entry is written after its key. -/
theorem writeValue_eq (out : Written) (indent : Nat) (key : Line) (value : Tree) :
    writeValue (out.add (keyLine key)) indent (indent + byteCount key + 2) value =
      out.add (unlines (following indent (entry indent key value))) := by
  match value with
  | .map (e :: es) =>
    have block := writeEntries_eq ((out.add (keyLine key)).add ['\n']) (indent + 2) true (e :: es) rfl
    rw [writeValue, block, entry, following, map_indented_indented]
    simp [add_add]
  | .seq (t :: ts) =>
    cases fits : flow? indent key (t :: ts) with
    | some flow =>
      rw [entry, fits]
      rw [flow?] at fits
      rw [writeValue, fits]
      simp [add_add, following]
    | none =>
      have block := writeItems_eq ((out.add (keyLine key)).add ['\n']) (indent + 2) (t :: ts)
      rw [entry, fits]
      rw [flow?] at fits
      rw [writeValue, fits]
      simp only
      rw [block, following, map_indented_indented]
      simp [add_add]
  | .tagged _ t => rw [writeValue, entry, writeValue_eq out indent key t]
  | .null | .bool _ | .int _ | .float _ | .str _ | .seq [] | .map [] => exact line_eq out indent key _

/-- Items are written in lines of their own. -/
theorem writeItems_eq (out : Written) (indent : Nat) (ts : List Tree) :
    writeItems out indent ts = out.add (unlines ((items indent ts).map (indented indent))) := by
  match ts with
  | [] => rfl
  | t :: rest =>
    have written := writeItem_eq (out.pad indent) indent t
    have others := fun out => writeItems_eq out indent rest
    rw [writeItems, written, others, pad_eq_add, add_add, add_add, ← List.append_assoc,
      pad_following indent (item_ne_nil indent t)]
    simp [items]

/-- An item is written after its dash. -/
theorem writeItem_eq (out : Written) (indent : Nat) (t : Tree) :
    writeItem (out.add ['-']) indent t = out.add (unlines (following indent (item indent t))) := by
  match t with
  | .map (e :: es) =>
    have block := writeEntries_dash ((out.add ['-']).add [' ']) (indent + 2) (e :: es) (by simp) rfl
    rw [writeItem, block, item, following_hung indent _ (entries_ne_nil (indent + 2) e es)]
    simp [add_add]
  | .seq (t :: ts) =>
    have block := writeItems_eq ((out.add ['-']).add ['\n']) (indent + 2) (t :: ts)
    rw [writeItem, block, item, following, map_indented_indented]
    simp [add_add]
  | .tagged _ _ | .null | .bool _ | .int _ | .float _ | .str _ | .seq [] | .map [] =>
    simp [writeItem, Written.line, add_add, item, following, lineOf]

end

end Layout

/-- The text of a tree is the lines of its layout. -/
theorem text_eq_unlines (t : Tree) : text t = Layout.unlines (Layout.block t) := by
  match t with
  | .map (e :: es) =>
    have written := Layout.writeEntries_eq [] 0 true (e :: es) rfl
    simp [text, Layout.block, written, Written.add]
  | .seq (t :: ts) =>
    have written := Layout.writeItems_eq [] 0 (t :: ts)
    simp [text, Layout.block, written, Written.add]
  | .tagged _ _ | .null | .bool _ | .int _ | .float _ | .str _ | .seq [] | .map [] =>
    simp [text, Layout.block, Written.line, Written.add, Layout.lineOf]

end FabricTopology.Yaml
