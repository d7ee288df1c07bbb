import FabricTopology.Proofs.Text.Words
import FabricTopology.Proofs.Yaml.Inline
import FabricTopology.Proofs.Yaml.Layout

/-!
The lines of a document, whatever its tree: they hold no character that could end a line and none of them
is a comment (`sound_block`), since keys and scalars neither break a line nor begin like a comment and
everything else of a line is spaces, dashes, brackets and colons. So the text of a layout determines its
lines (`unlines_inj`), and a reader who cuts it at its line feeds finds them (`segments_unlines`).
-/
namespace FabricTopology.Yaml

theorem Fit.cons {c : Char} {x : List Char} (start : c ≠ ' ' ∧ c ≠ '#') (whole : breaksLine c = false)
    (rest : Unbroken x) : Fit (c :: x) :=
  ⟨.cons whole rest, by simpa using start⟩

theorem Fit.append {x y : List Char} (left : Fit x) (right : Fit y) : Fit (x ++ y) := by
  refine ⟨left.unbroken.append right.unbroken, fun c first => ?_⟩
  cases x with
  | nil => exact right.start c first
  | cons d x => exact left.start c first

theorem fit_keyText (key : Tree) : Fit (keyText key) := by
  unfold keyText
  cases inline : inline? key with
  | some x => exact fit_inline? inline
  | none => exact .cons (by decide) (by decide) (by decide)

namespace Layout

/-! ### Sound lines -/

/-- What stands first on a line after its spaces. -/
def opening (line : Line) : Option Char := (line.dropWhile (· == ' ')).head?

/-- Nothing in the line ends it, and it is no comment. -/
structure Sound (line : Line) : Prop where
  unbroken : Unbroken line
  noComment : opening line ≠ some '#'

theorem sound_of_fit {line : Line} (fit : Fit line) : Sound line := by
  refine ⟨fit.unbroken, ?_⟩
  cases line with
  | nil => simp [opening]
  | cons c rest =>
    have start := fit.start c rfl
    simpa [opening, start.1] using start.2

theorem opening_indented (n : Nat) (line : Line) : opening (indented n line) = opening line := by
  rw [opening, indented, List.dropWhile_append_of_pos, opening]
  intro c member
  rw [List.eq_of_mem_replicate member]
  decide

theorem Sound.indented {line : Line} (n : Nat) (sound : Sound line) : Sound (indented n line) := by
  refine ⟨Unbroken.append (fun c member => ?_) sound.unbroken, ?_⟩
  · rw [List.eq_of_mem_replicate member]
    decide
  · rw [opening_indented]
    exact sound.noComment

theorem sound_map_indented {lines : List Line} (n : Nat) (sound : ∀ line ∈ lines, Sound line) :
    ∀ line ∈ lines.map (Layout.indented n), Sound line := by
  intro line member
  obtain ⟨inner, stands, rfl⟩ := List.mem_map.mp member
  exact (sound inner stands).indented n

theorem fit_lineOf (t : Tree) : Fit (lineOf t) := by
  unfold lineOf
  cases inline : inline? t with
  | some x => exact fit_inline? inline
  | none => exact ⟨by decide, by simp⟩

/-- The line of a key, with or without a text after the colon. -/
theorem sound_keyLine (key : Tree) {after : Line} (unbroken : Unbroken after) :
    Sound (keyLine (keyText key) ++ after) := by
  rw [keyLine, List.append_assoc]
  exact sound_of_fit ((fit_keyText key).append (.cons (by decide) (by decide) unbroken))

theorem sound_key (key : Tree) : Sound (keyLine (keyText key)) := by
  have line := sound_keyLine key (show Unbroken [] by decide)
  rwa [List.append_nil] at line

theorem sound_dash {after : Line} (unbroken : Unbroken after) : Sound ('-' :: after) :=
  sound_of_fit (.cons (by decide) (by decide) unbroken)

theorem sound_hung {lines : List Line} (sound : ∀ line ∈ lines, Sound line) : ∀ line ∈ hung lines, Sound line := by
  cases lines with
  | nil => simp [hung]
  | cons line rest =>
    simp only [List.forall_mem_cons] at sound
    exact List.forall_mem_cons.mpr ⟨sound_dash (.cons (by decide) sound.1.unbroken), sound_map_indented 2 sound.2⟩

mutual

theorem sound_entries (indent : Nat) (es : List (Tree × Tree)) : ∀ line ∈ entries indent es, Sound line := by
  match es with
  | [] => simp [entries]
  | (key, value) :: rest =>
    rw [entries, List.forall_mem_append]
    exact ⟨sound_entry indent key value, sound_entries indent rest⟩

theorem sound_entry (indent : Nat) (key value : Tree) : ∀ line ∈ entry indent (keyText key) value, Sound line := by
  match value with
  | .map (e :: es) =>
    exact List.forall_mem_cons.mpr ⟨sound_key key, sound_map_indented 2 (sound_entries (indent + 2) (e :: es))⟩
  | .seq (t :: ts) =>
    rw [entry]
    split
    · next flow fits =>
      have flowing := (fit_inline? (Option.eq_some_of_filter_eq_some fits)).unbroken
      exact List.forall_mem_singleton.mpr (sound_keyLine key (.cons (by decide) flowing))
    · exact List.forall_mem_cons.mpr ⟨sound_key key, sound_map_indented 2 (sound_items (indent + 2) (t :: ts))⟩
  | .tagged _ t => exact sound_entry indent key t
  | .null | .bool _ | .int _ | .float _ | .str _ | .seq [] | .map [] =>
    exact List.forall_mem_singleton.mpr (sound_keyLine key (.cons (by decide) (fit_lineOf _).unbroken))

theorem sound_items (indent : Nat) (ts : List Tree) : ∀ line ∈ items indent ts, Sound line := by
  match ts with
  | [] => simp [items]
  | t :: rest =>
    rw [items, List.forall_mem_append]
    exact ⟨sound_item indent t, sound_items indent rest⟩

theorem sound_item (indent : Nat) (t : Tree) : ∀ line ∈ item indent t, Sound line := by
  match t with
  | .map (e :: es) => exact sound_hung (sound_entries (indent + 2) (e :: es))
  | .seq (t :: ts) =>
    exact List.forall_mem_cons.mpr ⟨sound_dash (by decide), sound_map_indented 2 (sound_items (indent + 2) (t :: ts))⟩
  | .tagged _ _ | .null | .bool _ | .int _ | .float _ | .str _ | .seq [] | .map [] =>
    exact List.forall_mem_singleton.mpr (sound_dash (.cons (by decide) (fit_lineOf _).unbroken))

end

theorem sound_block (t : Tree) : ∀ line ∈ block t, Sound line := by
  match t with
  | .map (e :: es) => exact sound_entries 0 (e :: es)
  | .seq (t :: ts) => exact sound_items 0 (t :: ts)
  | .tagged _ _ | .null | .bool _ | .int _ | .float _ | .str _ | .seq [] | .map [] =>
    exact List.forall_mem_singleton.mpr (sound_of_fit (fit_lineOf _))

theorem unbroken_block (t : Tree) : ∀ line ∈ block t, Unbroken line :=
  fun line member => (sound_block t line member).unbroken

/-! ### Lines from their text -/

/-- Cut at its line feeds, the text of unbroken lines gives the lines, and nothing after the last of them. -/
theorem segments_unlines {lines : List Line} (unbroken : ∀ line ∈ lines, Unbroken line) :
    Text.segments '\n' (unlines lines) = lines ++ [[]] := by
  induction lines with
  | nil => rfl
  | cons line lines ih =>
    simp only [List.forall_mem_cons] at unbroken
    rw [unlines_cons, Text.segments_append_cons unbroken.1.newline_notMem, ih unbroken.2, List.cons_append]

/-- Unbroken lines are determined by their text. -/
theorem unlines_inj {lines others : List Line} (left : ∀ line ∈ lines, Unbroken line)
    (right : ∀ line ∈ others, Unbroken line) (same : unlines lines = unlines others) : lines = others := by
  have cut := congrArg (Text.segments '\n') same
  rwa [segments_unlines left, segments_unlines right, List.append_cancel_right_eq] at cut

/-- The lines of a text that ends with a line feed. -/
def linesOf (cs : List Char) : List Line := (Text.segments '\n' cs).dropLast

/-- The lines of a document are those of its layout. -/
theorem linesOf_text (t : Tree) : linesOf (text t) = block t := by
  rw [linesOf, text_eq_unlines, segments_unlines (unbroken_block t), List.dropLast_concat]

end Layout

end FabricTopology.Yaml
