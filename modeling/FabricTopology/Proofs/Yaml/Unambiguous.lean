import FabricTopology.Proofs.Yaml.Lines
import FabricTopology.Yaml.Writer

/-!
The text of a document determines its tree. No line of a layout is broken, so the text determines the
lines; a line that starts in the first column starts an entry or an item, so the lines determine where
each one ends; the line of a key tells whether a block follows it; and the first character of a block
tells entries from items.
-/
namespace FabricTopology.Yaml

namespace Layout

/-! ### Where an entry or an item ends -/

/-- The line begins with a space, so that it belongs to an entry or item above it. -/
def Deep (line : Line) : Prop := line.head? = some ' '

instance (line : Line) : Decidable (Deep line) := inferInstanceAs (Decidable (_ = _))

theorem deep_indented (lines : List Line) : ∀ line ∈ lines.map (indented 2), Deep line := by
  intro line member
  obtain ⟨inner, _, rfl⟩ := List.mem_map.mp member
  rfl

theorem map_indented_inj {lines others : List Line} (same : lines.map (indented 2) = others.map (indented 2)) :
    lines = others :=
  (List.map_inj_right fun _ _ columns => List.append_cancel_left columns).mp same

theorem cons_map_indented_inj {line : Line} {lines others : List Line} :
    line :: lines.map (indented 2) = line :: others.map (indented 2) ↔ lines = others := by
  rw [List.cons.injEq, eq_self, true_and]
  exact ⟨map_indented_inj, congrArg _⟩

/-- Lines before the first one that is not deep are determined. -/
theorem append_inj_of_deep {deep others rest more : List Line} (left : ∀ line ∈ deep, Deep line)
    (right : ∀ line ∈ others, Deep line) (stops : ∀ line ∈ rest.head?, ¬ Deep line)
    (ends : ∀ line ∈ more.head?, ¬ Deep line) (same : deep ++ rest = others ++ more) : deep = others ∧ rest = more := by
  induction deep generalizing others with
  | nil =>
    cases others with
    | nil => exact ⟨rfl, same⟩
    | cons other others =>
      rw [List.nil_append] at same
      exact absurd (right other List.mem_cons_self) (stops other (by simp [same]))
  | cons line deep ih =>
    cases others with
    | nil =>
      rw [List.nil_append] at same
      exact absurd (left line List.mem_cons_self) (ends line (by simp [← same]))
    | cons other others =>
      simp only [List.forall_mem_cons] at left right
      simp only [List.cons_append, List.cons.injEq] at same
      obtain ⟨rfl, same⟩ := same
      obtain ⟨rfl, rest⟩ := ih left.2 right.2 same
      exact ⟨rfl, rest⟩

/-- What stands on the line of a key after its colon: nothing before a block, a space and a text otherwise. -/
def isAfterColon : List Char → Bool
  | [] => true
  | c :: _ => c == ' '

theorem endsPlain_colon {after : List Char} (colon : isAfterColon after = true) :
    endsPlain false (':' :: after) = true := by
  cases after with
  | nil => rfl
  | cons c rest =>
    obtain rfl : c = ' ' := by simpa [isAfterColon] using colon
    rfl

/-- The three forms of an entry. -/
theorem entry_cases (indent : Nat) (key : Line) {value : Tree} (built : value.IsBuilt) :
    (∃ x, inline? value = some x ∧ entry indent key value = [keyLine key ++ ' ' :: x]) ∨
    (∃ es, es ≠ [] ∧ value = .map es ∧
      entry indent key value = keyLine key :: (entries (indent + 2) es).map (indented 2)) ∨
    (∃ ts, ts ≠ [] ∧ value = .seq ts ∧
      entry indent key value = keyLine key :: (items (indent + 2) ts).map (indented 2)) := by
  cases value with
  | map es =>
    cases es with
    | nil => exact .inl ⟨_, rfl, rfl⟩
    | cons e es => exact .inr (.inl ⟨e :: es, by simp, rfl, rfl⟩)
  | seq ts =>
    cases ts with
    | nil => exact .inl ⟨_, rfl, rfl⟩
    | cons t ts =>
      rw [entry]
      split
      · next flow fits => exact .inl ⟨flow, Option.eq_some_of_filter_eq_some fits, rfl⟩
      · exact .inr (.inr ⟨t :: ts, by simp, rfl, rfl⟩)
  | tagged _ _ | float _ => exact built.elim
  | null | bool _ | int _ | str _ => exact .inl ⟨_, rfl, rfl⟩

/-- An entry is the line of its key and lines two columns further in. -/
theorem entry_eq_cons (indent : Nat) (key : Line) : ∀ value : Tree, ∃ (after : Line) (nested : List Line),
    entry indent key value = (keyLine key ++ after) :: nested.map (indented 2) ∧ isAfterColon after = true
  | .map (e :: es) => ⟨[], _, by rw [entry, List.append_nil], rfl⟩
  | .seq (t :: ts) => by
    rw [entry]
    split
    · exact ⟨_, [], rfl, rfl⟩
    · exact ⟨[], _, by rw [List.append_nil], rfl⟩
  | .tagged _ t => by
    rw [entry]
    exact entry_eq_cons indent key t
  | .map [] | .seq [] | .null | .bool _ | .int _ | .float _ | .str _ => ⟨_, [], rfl, rfl⟩

theorem keyLine_append (key after : Line) : keyLine key ++ after = key ++ ':' :: after := by simp [keyLine]

theorem not_deep_keyLine (key : Tree) (after : Line) : ¬ Deep (keyLine (keyText key) ++ after) := by
  have start := (fit_keyText key).start
  rw [keyLine_append]
  cases text : keyText key with
  | nil => exact fun deep => absurd deep (by simp [Deep])
  | cons c rest =>
    rw [text] at start
    simpa [Deep] using (start c rfl).1

/-- A line after which entries or items of the same column go on is not deep. -/
theorem not_deep_entries (indent : Nat) (es : List (Tree × Tree)) : ∀ line ∈ (entries indent es).head?, ¬ Deep line := by
  cases es with
  | nil => simp [entries]
  | cons e rest =>
    obtain ⟨after, nested, lines, _⟩ := entry_eq_cons indent (keyText e.1) e.2
    simpa [entries, lines] using not_deep_keyLine e.1 after

/-- How an item begins: a dash, and then the end of the line or a space. -/
theorem item_eq_cons (indent : Nat) (t : Tree) :
    ∃ after deep, item indent t = ('-' :: after) :: deep ∧ isAfterColon after = true ∧ ∀ line ∈ deep, Deep line := by
  match t with
  | .map ((key, value) :: es) =>
    obtain ⟨after, nested, lines, _⟩ := entry_eq_cons (indent + 2) (keyText key) value
    refine ⟨' ' :: (keyLine (keyText key) ++ after), _, ?_, rfl,
      deep_indented (nested.map (indented 2) ++ entries (indent + 2) es)⟩
    rw [item, entries, lines]
    rfl
  | .seq (t :: ts) => exact ⟨[], _, rfl, rfl, deep_indented _⟩
  | .tagged _ _ | .null | .bool _ | .int _ | .float _ | .str _ | .seq [] | .map [] => exact ⟨_, [], rfl, rfl, by simp⟩

theorem not_deep_items (indent : Nat) (ts : List Tree) : ∀ line ∈ (items indent ts).head?, ¬ Deep line := by
  cases ts with
  | nil => simp [items]
  | cons t rest =>
    obtain ⟨after, deep, lines, _, _⟩ := item_eq_cons indent t
    simp [items, lines, Deep]

/-- What stands after an entry is told from what belongs to it. -/
theorem entry_append_inj {indent : Nat} {key : Line} {value other : Tree} {es fs : List (Tree × Tree)} :
    entry indent key value ++ entries indent es = entry indent key other ++ entries indent fs ↔
      entry indent key value = entry indent key other ∧ entries indent es = entries indent fs := by
  constructor
  · intro same
    obtain ⟨after, nested, lines, _⟩ := entry_eq_cons indent key value
    obtain ⟨after', nested', lines', _⟩ := entry_eq_cons indent key other
    rw [lines, lines', List.cons_append, List.cons_append, List.cons.injEq] at same
    obtain ⟨deeper, rests⟩ := append_inj_of_deep (deep_indented nested) (deep_indented nested')
      (not_deep_entries indent es) (not_deep_entries indent fs) same.2
    exact ⟨by rw [lines, lines', same.1, deeper], rests⟩
  · rintro ⟨entry, entries⟩
    rw [entry, entries]

/-- What stands after an item is told from what belongs to it. -/
theorem item_append_inj {indent : Nat} {t u : Tree} {ts us : List Tree} :
    item indent t ++ items indent ts = item indent u ++ items indent us ↔
      item indent t = item indent u ∧ items indent ts = items indent us := by
  constructor
  · intro same
    obtain ⟨after, deep, lines, _, low⟩ := item_eq_cons indent t
    obtain ⟨after', deep', lines', _, low'⟩ := item_eq_cons indent u
    rw [lines, lines', List.cons_append, List.cons_append, List.cons.injEq] at same
    obtain ⟨deeper, rests⟩ := append_inj_of_deep low low' (not_deep_items indent ts) (not_deep_items indent us) same.2
    exact ⟨by rw [lines, lines', same.1, deeper], rests⟩
  · rintro ⟨item, items⟩
    rw [item, items]

/-! ### What a line tells -/

/-- Empty collections and everything that is no collection. -/
def isLeaf : Tree → Bool
  | .map (_ :: _) | .seq (_ :: _) => false
  | _ => true

/-- The texts of leaves: of a scalar, or of an empty collection. -/
theorem lineOf_cases {t : Tree} (built : t.IsBuilt) (leaf : isLeaf t = true) :
    inline? t = some (lineOf t) ∧
      (scalarText? false t = some (lineOf t) ∨ lineOf t = ['[', ']'] ∨ lineOf t = ['\x7b', '\x7d']) := by
  match t with
  | .null | .bool _ | .int _ | .str _ => exact ⟨rfl, .inl rfl⟩
  | .seq [] => exact ⟨rfl, .inr (.inl rfl)⟩
  | .map [] => exact ⟨rfl, .inr (.inr rfl)⟩
  | .seq (_ :: _) | .map (_ :: _) => simp [isLeaf] at leaf
  | .float _ | .tagged _ _ => exact built.elim

theorem lineOf_inj {t u : Tree} (left : t.IsBuilt) (right : u.IsBuilt) (leaf : isLeaf t = true)
    (other : isLeaf u = true) (same : lineOf t = lineOf u) : t = u := by
  have one := (lineOf_cases left leaf).1
  rw [same] at one
  exact inline?_inj left right one (lineOf_cases right other).1

/-- The line of a key is the line of no leaf. -/
theorem keyLine_ne_lineOf (s : String) {after : Line} (colon : isAfterColon after = true) {t : Tree} (built : t.IsBuilt)
    (leaf : isLeaf t = true) : keyLine (keyText (.str s)) ++ after ≠ lineOf t := by
  intro same
  have name : (Tree.str s).IsBuilt := trivial
  have key : scalarText? false (.str s) = some (scalar false s.toList) := rfl
  obtain ⟨c, rest, start, kind⟩ := scalarText?_start name key
  rcases (lineOf_cases built leaf).2 with text | bracket | brace
  · rw [keyLine_append, ← List.append_nil (lineOf t)] at same
    have rests := (scalarText?_append_inj name built key text (endsPlain_colon colon) rfl same).2
    simp at rests
  · have first : c = '[' := by simpa [bracket, keyLine, keyText, inline?, start] using congrArg List.head? same
    simp [first] at kind
  · have first : c = '\x7b' := by simpa [brace, keyLine, keyText, inline?, start] using congrArg List.head? same
    simp [first] at kind

/-- The line of an item is the line of no leaf. -/
theorem dash_ne_lineOf {after : Line} (space : isAfterColon after = true) {t : Tree} (built : t.IsBuilt)
    (leaf : isLeaf t = true) : '-' :: after ≠ lineOf t := by
  intro same
  rcases (lineOf_cases built leaf).2 with text | bracket | brace
  · obtain ⟨c, rest, start, _, negative⟩ := scalarText?_start built text
    rw [← same] at start
    obtain ⟨d, more, next, solid⟩ := negative (List.head_eq_of_cons_eq start).symm
    rw [List.tail_eq_of_cons_eq start, next] at space
    exact solid (by simpa [isAfterColon] using space)
  · simp [bracket] at same
  · simp [brace] at same

/-- The line of a key is not the line of an item. -/
theorem keyLine_ne_dash (s : String) (after more : Line) : keyLine (keyText (.str s)) ++ after ≠ '-' :: more := by
  obtain ⟨c, rest, start, kind⟩ := scalar_start false s.toList
  intro same
  have dash : c = '-' := by simpa [keyLine, keyText, inline?, start] using congrArg List.head? same
  rw [dash] at kind
  revert kind
  decide

/-! ### What a block tells -/

variable {indent : Nat} {es : List (Tree × Tree)} {ts : List Tree} {t : Tree}

/-- Entries begin with the line of a key. -/
theorem entries_eq_cons (indent : Nat) (some : es ≠ []) (built : Tree.EntriesBuilt es) :
    ∃ s after rest, entries indent es = (keyLine (keyText (.str s)) ++ after) :: rest ∧ isAfterColon after = true := by
  match es with
  | [] => exact absurd rfl some
  | (.str s, value) :: others =>
    obtain ⟨after, nested, lines, colon⟩ := entry_eq_cons indent (keyText (.str s)) value
    refine ⟨s, after, nested.map (indented 2) ++ entries indent others, ?_, colon⟩
    rw [entries, lines]
    rfl

/-- Items begin with the line of a dash. -/
theorem items_eq_cons (indent : Nat) (some : ts ≠ []) :
    ∃ after rest, items indent ts = ('-' :: after) :: rest ∧ isAfterColon after = true := by
  obtain ⟨t, others, rfl⟩ := List.exists_cons_of_ne_nil some
  obtain ⟨after, deep, lines, space, _⟩ := item_eq_cons indent t
  refine ⟨after, deep ++ items indent others, ?_, space⟩
  rw [items, lines]
  rfl

theorem entries_ne_items (some : es ≠ []) (left : Tree.EntriesBuilt es) (more : ts ≠ []) :
    entries indent es ≠ items indent ts := by
  obtain ⟨s, after, rest, one, _⟩ := entries_eq_cons indent some left
  obtain ⟨after', rest', two, _⟩ := items_eq_cons indent more
  rw [one, two]
  intro same
  exact keyLine_ne_dash s after after' (List.head_eq_of_cons_eq same)

theorem entries_ne_leaf (some : es ≠ []) (left : Tree.EntriesBuilt es) (right : t.IsBuilt) (leaf : isLeaf t = true) :
    entries indent es ≠ [lineOf t] := by
  obtain ⟨s, after, rest, lines, colon⟩ := entries_eq_cons indent some left
  rw [lines]
  intro same
  exact keyLine_ne_lineOf s colon right leaf (List.head_eq_of_cons_eq same)

theorem items_ne_leaf (some : ts ≠ []) (right : t.IsBuilt) (leaf : isLeaf t = true) :
    items indent ts ≠ [lineOf t] := by
  obtain ⟨after, rest, lines, space⟩ := items_eq_cons indent some
  rw [lines]
  intro same
  exact dash_ne_lineOf space right leaf (List.head_eq_of_cons_eq same)

theorem hung_inj {lines others : List Line} (same : hung lines = hung others) : lines = others := by
  cases lines with
  | nil => cases others <;> simp_all [hung]
  | cons line rest =>
    cases others with
    | nil => simp [hung] at same
    | cons other more =>
      simp only [hung, List.cons.injEq, true_and] at same
      rw [same.1, map_indented_inj same.2]

theorem hung_ne_dash (lines rest : List Line) : hung lines ≠ ['-'] :: rest := by
  cases lines <;> simp [hung]

/-- The three forms of an item. -/
theorem item_cases (indent : Nat) (built : t.IsBuilt) :
    (isLeaf t = true ∧ item indent t = hung [lineOf t]) ∨
    (∃ es, es ≠ [] ∧ t = .map es ∧ item indent t = hung (entries (indent + 2) es)) ∨
    (∃ ts, ts ≠ [] ∧ t = .seq ts ∧ item indent t = ['-'] :: (items (indent + 2) ts).map (indented 2)) := by
  cases t with
  | map es =>
    cases es with
    | nil => exact .inl ⟨rfl, rfl⟩
    | cons e es => exact .inr (.inl ⟨e :: es, by simp, rfl, rfl⟩)
  | seq ts =>
    cases ts with
    | nil => exact .inl ⟨rfl, rfl⟩
    | cons t ts => exact .inr (.inr ⟨t :: ts, by simp, rfl, rfl⟩)
  | tagged _ _ | float _ => exact built.elim
  | null | bool _ | int _ | str _ => exact .inl ⟨rfl, rfl⟩

/-- An entry on the line of its key is the entry of one value. -/
theorem eq_of_inline_entry {key : Line} {value other : Tree} {x : Line} (left : value.IsBuilt) (right : other.IsBuilt)
    (inline : inline? value = some x) (same : [keyLine key ++ ' ' :: x] = entry indent key other) : value = other := by
  rcases entry_cases indent key right with ⟨y, inlined, lines⟩ | ⟨es, _, _, lines⟩ | ⟨ts, _, _, lines⟩ <;>
    rw [lines] at same
  · simp only [List.cons.injEq, List.append_cancel_left_eq, true_and, and_true] at same
    rw [← same] at inlined
    exact inline?_inj left right inline inlined
  · simp at same
  · simp at same

/-- An item on the line of its dash is the item of one tree. -/
theorem eq_of_leaf_item {u : Tree} (left : t.IsBuilt) (right : u.IsBuilt) (leaf : isLeaf t = true)
    (same : hung [lineOf t] = item indent u) : t = u := by
  rcases item_cases indent right with ⟨other, lines⟩ | ⟨es, some, rfl, lines⟩ | ⟨ts, _, rfl, lines⟩ <;>
    rw [lines] at same
  · exact lineOf_inj left right leaf other (List.head_eq_of_cons_eq (hung_inj same))
  · exact absurd (hung_inj same).symm (entries_ne_leaf some right left leaf)
  · exact absurd same (hung_ne_dash _ _)

mutual

/-- The lines of entries determine them. -/
theorem entries_inj (indent : Nat) (es fs : List (Tree × Tree)) (left : Tree.EntriesBuilt es)
    (right : Tree.EntriesBuilt fs) (same : entries indent es = entries indent fs) : es = fs := by
  match es, fs with
  | [], [] => rfl
  | [], f :: fs => exact absurd same.symm (entries_ne_nil indent f fs)
  | e :: es, [] => exact absurd same (entries_ne_nil indent e es)
  | (.str s, value) :: es, (.str u, other) :: fs =>
    -- The first line tells the key, and the first line after it that is not deep begins the other entries.
    obtain rfl : s = u := by
      obtain ⟨after, nested, lines, colon⟩ := entry_eq_cons indent (keyText (.str s)) value
      obtain ⟨after', nested', lines', colon'⟩ := entry_eq_cons indent (keyText (.str u)) other
      rw [entries, entries, lines, lines', List.cons_append, List.cons_append, List.cons.injEq, keyLine_append,
        keyLine_append] at same
      exact String.toList_inj.mp (scalar_append_inj (endsPlain_colon colon) (endsPlain_colon colon') same.1).1
    obtain ⟨lines, rests⟩ := entry_append_inj.mp same
    rw [entry_inj indent (keyText (.str s)) value other left.1 right.1 lines,
      entries_inj indent es fs left.2 right.2 rests]
termination_by structural es

/-- The lines of an entry determine its value. -/
theorem entry_inj (indent : Nat) (key : Line) (value other : Tree) (left : value.IsBuilt) (right : other.IsBuilt)
    (same : entry indent key value = entry indent key other) : value = other := by
  match value with
  | .map (e :: es) =>
    rcases entry_cases indent key right with ⟨x, inline, lines⟩ | ⟨fs, _, rfl, lines⟩ | ⟨ts, some, rfl, lines⟩
    · rw [lines] at same
      exact (eq_of_inline_entry right left inline same.symm).symm
    · rw [lines] at same
      rw [entries_inj (indent + 2) (e :: es) fs left right (cons_map_indented_inj.mp same)]
    · rw [lines] at same
      exact absurd (cons_map_indented_inj.mp same) (entries_ne_items (by simp) left some)
  | .seq (t :: ts) =>
    cases fits : flow? indent key (t :: ts) with
    | some flow =>
      rw [entry, fits] at same
      exact eq_of_inline_entry left right (Option.eq_some_of_filter_eq_some fits) same
    | none =>
      have block : entry indent key (.seq (t :: ts)) =
          keyLine key :: (items (indent + 2) (t :: ts)).map (indented 2) := by
        rw [entry, fits]
      rw [block] at same
      rcases entry_cases indent key right with ⟨x, inline, lines⟩ | ⟨fs, some, rfl, lines⟩ | ⟨us, _, rfl, lines⟩
      · rw [← block, lines] at same
        exact (eq_of_inline_entry right left inline same.symm).symm
      · rw [lines] at same
        exact absurd (cons_map_indented_inj.mp same).symm (entries_ne_items some right (by simp))
      · rw [lines] at same
        rw [items_inj (indent + 2) (t :: ts) us left right (cons_map_indented_inj.mp same)]
  | .tagged _ _ | .float _ => exact left.elim
  | .null | .bool _ | .int _ | .str _ | .seq [] | .map [] => exact eq_of_inline_entry left right rfl same
termination_by structural value

/-- The lines of items determine them. -/
theorem items_inj (indent : Nat) (ts us : List Tree) (left : Tree.AreBuilt ts) (right : Tree.AreBuilt us)
    (same : items indent ts = items indent us) : ts = us := by
  match ts, us with
  | [], [] => rfl
  | [], u :: us => simp [items, item_ne_nil] at same
  | t :: ts, [] => simp [items, item_ne_nil] at same
  | t :: ts, u :: us =>
    obtain ⟨lines, rests⟩ := item_append_inj.mp same
    rw [item_inj indent t u left.1 right.1 lines, items_inj indent ts us left.2 right.2 rests]
termination_by structural ts

/-- The lines of an item determine it. -/
theorem item_inj (indent : Nat) (t u : Tree) (left : t.IsBuilt) (right : u.IsBuilt)
    (same : item indent t = item indent u) : t = u := by
  match t with
  | .map (e :: es) =>
    rcases item_cases indent right with ⟨leaf, lines⟩ | ⟨fs, _, rfl, lines⟩ | ⟨ts, _, rfl, lines⟩ <;>
      rw [lines, item] at same
    · exact absurd (hung_inj same) (entries_ne_leaf (by simp) left right leaf)
    · rw [entries_inj (indent + 2) (e :: es) fs left right (hung_inj same)]
    · exact absurd same (hung_ne_dash _ _)
  | .seq (t :: ts) =>
    rcases item_cases indent right with ⟨leaf, lines⟩ | ⟨fs, _, rfl, lines⟩ | ⟨us, _, rfl, lines⟩ <;>
      rw [lines, item] at same
    · exact absurd same.symm (hung_ne_dash _ _)
    · exact absurd same.symm (hung_ne_dash _ _)
    · rw [items_inj (indent + 2) (t :: ts) us left right (cons_map_indented_inj.mp same)]
  | .tagged _ _ | .float _ => exact left.elim
  | .null | .bool _ | .int _ | .str _ | .seq [] | .map [] => exact eq_of_leaf_item left right rfl same
termination_by structural t

end

theorem block_cases (built : t.IsBuilt) :
    (isLeaf t = true ∧ block t = [lineOf t]) ∨ (∃ es, es ≠ [] ∧ t = .map es ∧ block t = entries 0 es) ∨
    (∃ ts, ts ≠ [] ∧ t = .seq ts ∧ block t = items 0 ts) := by
  cases t with
  | map es =>
    cases es with
    | nil => exact .inl ⟨rfl, rfl⟩
    | cons e es => exact .inr (.inl ⟨e :: es, by simp, rfl, rfl⟩)
  | seq ts =>
    cases ts with
    | nil => exact .inl ⟨rfl, rfl⟩
    | cons t ts => exact .inr (.inr ⟨t :: ts, by simp, rfl, rfl⟩)
  | tagged _ _ | float _ => exact built.elim
  | null | bool _ | int _ | str _ => exact .inl ⟨rfl, rfl⟩

/-- The lines of a tree determine it. -/
theorem block_inj {u : Tree} (left : t.IsBuilt) (right : u.IsBuilt) (same : block t = block u) : t = u := by
  rcases block_cases left with ⟨leaf, one⟩ | ⟨es, some, rfl, one⟩ | ⟨ts, some, rfl, one⟩ <;>
    rcases block_cases right with ⟨other, two⟩ | ⟨fs, more, rfl, two⟩ | ⟨us, more, rfl, two⟩ <;>
    rw [one, two] at same
  · exact lineOf_inj left right leaf other (List.head_eq_of_cons_eq same)
  · exact absurd same.symm (entries_ne_leaf more right left leaf)
  · exact absurd same.symm (items_ne_leaf more left leaf)
  · exact absurd same (entries_ne_leaf some left right other)
  · rw [entries_inj 0 es fs left right same]
  · exact absurd same (entries_ne_items some left more)
  · exact absurd same (items_ne_leaf some right other)
  · exact absurd same.symm (entries_ne_items more right some)
  · rw [items_inj 0 ts us left right same]

end Layout

/-- Trees with the same text are the same tree: nothing of a document is lost by writing it down. -/
theorem render_eq_iff {t u : Tree} (left : t.IsBuilt) (right : u.IsBuilt) : render t = render u ↔ t = u := by
  constructor
  · intro same
    have texts : text t = text u := String.ofList_injective same
    rw [text_eq_unlines, text_eq_unlines] at texts
    exact Layout.block_inj left right
      (Layout.unlines_inj (Layout.unbroken_block t) (Layout.unbroken_block u) texts)
  · rintro rfl
    rfl

/-- A text of digits has quotes, so that it is told from the number. -/
theorem render_ports_ne :
    render (.map [(.str "ports", .seq [.str "7050"])]) ≠ render (.map [(.str "ports", .seq [.int 7050])]) := by
  intro same
  have equal := (render_eq_iff (t := .map [(.str "ports", .seq [.str "7050"])])
    (u := .map [(.str "ports", .seq [.int 7050])]) ⟨⟨trivial, trivial⟩, trivial⟩ ⟨⟨trivial, trivial⟩, trivial⟩).mp same
  simp at equal

end FabricTopology.Yaml
