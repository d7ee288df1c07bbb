import FabricTopology.Json.Parser
import FabricTopology.Json.Printer
import FabricTopology.Proofs.Json.Number
import FabricTopology.Proofs.Text.Numeral
import Mathlib.Data.List.Forall2

/-!
Values read back from their texts. A text of a value is read as the value behind any white space and before whatever
does not go on with it (`Part`), and texts in brackets are put together from such parts. So a legible value is read
back from its text, in one line (`parse?_compact`) and over several (`parse?_pretty`).
-/
namespace FabricTopology.Json
open FabricTopology.Text

/-! ### Quoted texts -/

theorem unit?_hexText {n : Nat} (fits : n < 16 ^ 4) : unit? (hexText 4 n) = some n := hexNumber?_hexText 3 n fits

theorem escape_cases (c : Char) :
    (∃ e, escape c = ['\\', e] ∧ e ≠ 'u' ∧ escaped? e = some c) ∨
      (c.toNat < 0x20 ∧ escape c = '\\' :: 'u' :: hexText 4 c.toNat) ∨
      (escape c = [c] ∧ c ≠ '"' ∧ c ≠ '\\' ∧ 0x20 ≤ c.toNat) := by
  by_cases listed : c ∈ ['"', '\\', '\x08', '\x0c', '\n', '\r', '\t']
  · left
    simp only [List.mem_cons, List.not_mem_nil, or_false] at listed
    rcases listed with rfl | rfl | rfl | rfl | rfl | rfl | rfl
    · exact ⟨'"', by decide⟩
    · exact ⟨'\\', by decide⟩
    · exact ⟨'b', by decide⟩
    · exact ⟨'f', by decide⟩
    · exact ⟨'n', by decide⟩
    · exact ⟨'r', by decide⟩
    · exact ⟨'t', by decide⟩
  · right
    simp only [List.mem_cons, List.not_mem_nil, or_false, not_or] at listed
    by_cases control : c.toNat < 0x20
    · exact .inl ⟨control, by simp [escape, listed, control]⟩
    · exact .inr ⟨by simp [escape, listed, control], listed.1, listed.2.1, by omega⟩

theorem pieces?_unit {n : Nat} (fits : n < 16 ^ 4) (more : List Char) :
    pieces? ('\\' :: 'u' :: hexText 4 n ++ more) = (pieces? more).map fun r => (.unit n :: r.1, r.2) := by
  have read := unit?_hexText fits
  rw [hexText_four fits] at read ⊢
  simp only [List.cons_append, List.nil_append, pieces?, read, Option.bind_eq_bind, Option.bind_some]
  cases pieces? more <;> rfl

theorem pieces?_escaped {c e : Char} (other : e ≠ 'u') (known : escaped? e = some c) (more : List Char) :
    pieces? ('\\' :: e :: more) = (pieces? more).map fun r => (.char c :: r.1, r.2) := by
  rw [pieces?]
  · rw [known]
    cases pieces? more <;> rfl
  · exact fun _ _ _ _ _ same => absurd same other

theorem pieces?_plain {c : Char} (quote : c ≠ '"') (slash : c ≠ '\\') (large : 0x20 ≤ c.toNat) (more : List Char) :
    pieces? (c :: more) = (pieces? more).map fun r => (.char c :: r.1, r.2) := by
  rw [pieces?]
  · rw [if_neg (by simp only [slash, false_or]; omega)]
    cases pieces? more <;> rfl
  · exact quote
  · rintro a b c d rest rfl
    exact absurd rfl slash
  · rintro c rest rfl
    exact absurd rfl slash

theorem assemble?_unit {n : Nat} (whole : n < 0xD800 ∨ 0xDFFF < n) (ps : List Piece) :
    assemble? (.unit n :: ps) = (assemble? ps).map (Char.ofNat n :: ·) := by
  rw [assemble?.eq_def]
  exact if_pos whole

/-- A text is found again between its quotes, and what follows them is left over. -/
theorem pieces?_quoted (cs rest : List Char) :
    ∃ ps, pieces? (cs.flatMap escape ++ '"' :: rest) = some (ps, rest) ∧ assemble? ps = some cs := by
  induction cs with
  | nil => exact ⟨[], rfl, rfl⟩
  | cons c cs ih =>
    obtain ⟨ps, read, whole⟩ := ih
    rw [List.flatMap_cons, List.append_assoc]
    rcases escape_cases c with ⟨e, text, other, known⟩ | ⟨control, text⟩ | ⟨text, quote, slash, large⟩
    · refine ⟨.char c :: ps, ?_, by rw [assemble?, whole]; rfl⟩
      rw [text, List.cons_append, List.cons_append, List.nil_append, pieces?_escaped other known, read]
      rfl
    · refine ⟨.unit c.toNat :: ps, ?_, ?_⟩
      · rw [text, pieces?_unit (by omega), read]
        rfl
      · rw [assemble?_unit (.inl (by omega)), whole, Char.ofNat_toNat]
        rfl
    · refine ⟨.char c :: ps, ?_, by rw [assemble?, whole]; rfl⟩
      rw [text, List.cons_append, List.nil_append, pieces?_plain quote slash large, read]
      rfl

theorem quoted?_quote (s : String) (rest : List Char) : quoted? (quote s ++ rest) = some (some s, rest) := by
  obtain ⟨ps, read, whole⟩ := pieces?_quoted s.toList rest
  rw [quote, List.append_assoc, List.cons_append, quoted?, List.singleton_append, read]
  simp [whole]

/-! ### Values -/

/-- Nothing but white space. -/
def Blank (cs : List Char) : Prop := ∀ c ∈ cs, isSpace c = true

theorem skipSpace_append {blank : List Char} (space : Blank blank) (cs : List Char) :
    skipSpace (blank ++ cs) = skipSpace cs := List.dropWhile_append_of_pos space

theorem skipSpace_cons {c : Char} (solid : isSpace c = false) (cs : List Char) : skipSpace (c :: cs) = c :: cs :=
  List.dropWhile_cons_of_neg (by simp [solid])

/-- What stands between the parts of an array or an object, or behind the last one. -/
def separators : List Char := [',', ']', '\x7d', ' ', '\n', '\t', '\r']

theorem endsNumber_cons {c : Char} (separates : c ∈ separators) (cs : List Char) : EndsNumber (c :: cs) := by
  rintro d same
  cases same
  revert separates
  simp only [separators, List.mem_cons, List.not_mem_nil, or_false]
  rintro (rfl | rfl | rfl | rfl | rfl | rfl | rfl) <;> decide

theorem mem_separators_of_isSpace {c : Char} (space : isSpace c = true) : c ∈ separators := by
  simp only [isSpace, Bool.or_eq_true, beq_iff_eq] at space
  rcases space with ((rfl | rfl) | rfl) | rfl <;> decide

/-- The brackets that close an array or an object. -/
def closing : List Char := [']', '\x7d']

theorem closing_subset {c : Char} (closes : c ∈ closing) : c ∈ separators := by
  simp only [closing, List.mem_cons, List.not_mem_nil, or_false] at closes
  rcases closes with rfl | rfl <;> decide

theorem solid_of_closing {c : Char} (closes : c ∈ closing) : isSpace c = false := by
  simp only [closing, List.mem_cons, List.not_mem_nil, or_false] at closes
  rcases closes with rfl | rfl <;> decide

/-- White space and then a separator. -/
theorem endsNumber_blank {blank : List Char} (space : Blank blank) {c : Char} (separates : c ∈ separators)
    (cs : List Char) : EndsNumber (blank ++ c :: cs) := by
  cases blank with
  | nil => exact endsNumber_cons separates cs
  | cons b blank => exact endsNumber_cons (mem_separators_of_isSpace (space b List.mem_cons_self)) _

/-- Where an item starts: at something that is no white space and closes nothing. -/
def Starts (t : List Char) : Prop := ∃ c more, t = c :: more ∧ isSpace c = false ∧ c ∉ closing

/-- A text that is read as an item behind any white space, as deep as it is long. -/
structure Part {α : Type} (item? : Nat → List Char → Option (α × List Char)) (a : α) (t : List Char) : Prop where
  starts : Starts t
  reads : ∀ blank depth rest, Blank blank → t.length ≤ depth → EndsNumber rest →
    item? depth (blank ++ (t ++ rest)) = some (a, rest)

/-- A text of a value. -/
abbrev Spells (j : Json) (t : List Char) : Prop := Part value? j t

theorem value?_blank {blank : List Char} (space : Blank blank) (depth : Nat) (cs : List Char) :
    value? depth (blank ++ cs) = value? depth cs := by
  unfold value?
  simp only [skipSpace_append space]

theorem spells_of_reads {j : Json} {t : List Char} (starts : Starts t)
    (reads : ∀ depth rest, t.length ≤ depth → EndsNumber rest → value? depth (t ++ rest) = some (j, rest)) :
    Spells j t where
  starts := starts
  reads := fun blank depth rest space deep ends => by rw [value?_blank space, reads depth rest deep ends]

/-- A name, a colon and a value make a member. -/
theorem Spells.named {j : Json} {t : List Char} (spells : Spells j t) (name : String) {blank : List Char}
    (space : Blank blank) :
    Part (fun depth => namedValue? (value? depth)) (some name, j) (quote name ++ ':' :: (blank ++ t)) where
  starts := ⟨'"', _, rfl, by decide, by decide⟩
  reads := by
    intro gap depth rest spaceBefore deep ends
    have solid : skipSpace (quote name ++ ':' :: (blank ++ (t ++ rest))) =
        quote name ++ ':' :: (blank ++ (t ++ rest)) := skipSpace_cons (by decide) _
    have colon : skipSpace (':' :: (blank ++ (t ++ rest))) = ':' :: (blank ++ (t ++ rest)) :=
      skipSpace_cons (by decide) _
    have fits : t.length ≤ depth := by simp at deep; omega
    simp only [namedValue?, skipSpace_append spaceBefore, List.append_assoc, List.cons_append, solid, quoted?_quote,
      Option.bind_eq_bind, Option.bind_some, colon, spells.reads blank depth rest space fits ends]

section
variable {α : Type} {item? : Nat → List Char → Option (α × List Char)} {gap last : List Char} {close : Char}
  {as : List α} {parts : List (List Char)}

/-- Further parts, each behind a comma. -/
def further (gap : List Char) (parts : List (List Char)) : List Char := parts.flatMap fun q => ',' :: (gap ++ q)

theorem further_cons (gap q : List Char) (parts : List (List Char)) :
    further gap (q :: parts) = ',' :: (gap ++ (q ++ further gap parts)) := by
  simp [further]

theorem enclose_cons (start close : Char) (gap last p : List Char) (parts : List (List Char)) (rest : List Char) :
    enclose start close gap last (p :: parts) ++ rest =
      start :: (gap ++ (p ++ (further gap parts ++ (last ++ close :: rest)))) := by
  simp [enclose, further]

theorem length_le_further (gap : List Char) (parts : List (List Char)) : parts.length ≤ (further gap parts).length := by
  induction parts with
  | nil => rfl
  | cons q qs ih =>
    simp only [further_cons, List.length_append, List.length_cons]
    omega

theorem length_lt_further {p : List Char} {parts : List (List Char)} (member : p ∈ parts) (gap : List Char) :
    p.length < (further gap parts).length := by
  induction parts with
  | nil => cases member
  | cons q qs ih =>
    simp only [further_cons, List.length_append, List.length_cons]
    rcases List.mem_cons.mp member with rfl | later
    · omega
    · have inside := ih later
      omega

theorem sequence?_parts (blankGap : Blank gap) (blankLast : Blank last) (closes : close ∈ closing) {depth fuel : Nat}
    {a : α} {p : List Char} (first : Part item? a p) (more : List.Forall₂ (Part item?) as parts)
    (deep : ∀ q ∈ p :: parts, q.length ≤ depth) (enough : parts.length ≤ fuel) (rest : List Char) :
    sequence? close (item? depth) (fuel + 1) (gap ++ (p ++ (further gap parts ++ (last ++ close :: rest)))) =
      some (a :: as, rest) := by
  have fits := deep p List.mem_cons_self
  induction more generalizing a p fuel with
  | nil =>
    have read := first.reads gap depth (last ++ close :: rest) blankGap fits
      (endsNumber_blank blankLast (closing_subset closes) rest)
    have found : skipSpace (last ++ close :: rest) = close :: rest := by
      rw [skipSpace_append blankLast, skipSpace_cons (solid_of_closing closes)]
    simp [further, sequence?, read, found]
  | @cons b q as parts next more ih =>
    obtain ⟨fuel, rfl⟩ : ∃ f, fuel = f + 1 := ⟨fuel - 1, by simp at enough; omega⟩
    have later := ih next (fun r member => deep r (List.mem_cons_of_mem p member)) (Nat.le_of_succ_le_succ enough)
      (deep q (List.mem_cons_of_mem p List.mem_cons_self))
    have comma : ',' ∈ separators := by decide
    have read := first.reads gap depth _ blankGap fits
      (endsNumber_cons comma (gap ++ (q ++ (further gap parts ++ (last ++ close :: rest)))))
    have solid : isSpace ',' = false := by decide
    have found := skipSpace_cons solid (gap ++ (q ++ (further gap parts ++ (last ++ close :: rest))))
    have other : ',' ≠ close := by
      rintro rfl
      exact absurd closes (by decide)
    simp only [further_cons, List.cons_append, List.append_assoc]
    rw [sequence?]
    simp only [Option.bind_eq_bind, read, Option.bind_some, found, if_neg other, if_true, later]

/-- An array or an object is read part by part. -/
theorem bracketed?_parts (blankGap : Blank gap) (blankLast : Blank last) (closes : close ∈ closing)
    (each : List.Forall₂ (Part item?) as parts) {depth : Nat} (deep : ∀ p ∈ parts, p.length ≤ depth) (start : Char)
    (rest : List Char) :
    ∃ inner, enclose start close gap last parts ++ rest = start :: inner ∧
      bracketed? close (item? depth) inner = some (as, rest) := by
  cases each with
  | nil =>
    refine ⟨close :: rest, rfl, ?_⟩
    rw [bracketed?, skipSpace_cons (solid_of_closing closes)]
    simp
  | @cons a p as parts first more =>
    refine ⟨_, enclose_cons start close gap last p parts rest, ?_⟩
    obtain ⟨c, tail, rfl, solid, other⟩ := first.starts
    have found : skipSpace (gap ++ (c :: tail ++ (further gap parts ++ (last ++ close :: rest)))) =
        c :: (tail ++ (further gap parts ++ (last ++ close :: rest))) :=
      (skipSpace_append blankGap _).trans (skipSpace_cons solid _)
    have differs : c ≠ close := by
      rintro rfl
      exact other closes
    -- There are at least as many characters as parts, so the characters are fuel enough.
    obtain ⟨fuel, whole, enough⟩ : ∃ fuel, (gap ++ (c :: tail ++ (further gap parts ++ (last ++ close :: rest)))).length =
        fuel + 1 ∧ parts.length ≤ fuel := by
      have few := length_le_further gap parts
      refine ⟨(gap ++ (tail ++ (further gap parts ++ (last ++ close :: rest)))).length, ?_, ?_⟩ <;>
        simp only [List.length_append, List.length_cons] <;> omega
    rw [bracketed?, found]
    simp only [if_neg differs]
    rw [whole, sequence?_parts blankGap blankLast closes first more deep enough rest]

/-- A part is shorter than what it is a part of. -/
theorem length_lt_enclose {p : List Char} (member : p ∈ parts) (start : Char) :
    p.length < (enclose start close gap last parts).length := by
  cases parts with
  | nil => cases member
  | cons q qs =>
    simp only [enclose, List.length_append, List.length_cons]
    rcases List.mem_cons.mp member with rfl | later
    · omega
    · have inside : p.length < (qs.flatMap fun q => ',' :: (gap ++ q)).length := length_lt_further later gap
      omega

/-- The text of an array or an object, when its depth is enough for it. -/
theorem bracketed?_enclose (blankGap : Blank gap) (blankLast : Blank last) (closes : close ∈ closing)
    (each : List.Forall₂ (Part item?) as parts) {start : Char} {depth : Nat}
    (deep : (enclose start close gap last parts).length ≤ depth) (rest : List Char) :
    ∃ d inner, depth = d + 1 ∧ enclose start close gap last parts ++ rest = start :: inner ∧
      bracketed? close (item? d) inner = some (as, rest) := by
  obtain ⟨inside, text⟩ : ∃ inside, enclose start close gap last parts = start :: inside := by
    cases parts <;> exact ⟨_, rfl⟩
  obtain ⟨d, rfl⟩ : ∃ d, depth = d + 1 := ⟨depth - 1, by rw [text] at deep; simp at deep; omega⟩
  have deeper : ∀ p ∈ parts, p.length ≤ d := by
    intro p member
    have : p.length < (enclose start close gap last parts).length := length_lt_enclose member start
    omega
  obtain ⟨inner, opened, read⟩ := bracketed?_parts blankGap blankLast closes each deeper start rest
  exact ⟨d, inner, rfl, opened, read⟩

theorem starts_enclose {start : Char} (solid : isSpace start = false) (other : start ∉ closing) :
    Starts (enclose start close gap last parts) := by
  cases parts <;> exact ⟨start, _, rfl, solid, other⟩

end

section
variable {gap last : List Char} {parts : List (List Char)}

theorem spells_arr (blankGap : Blank gap) (blankLast : Blank last) {items : List Json}
    (each : List.Forall₂ Spells items parts) : Spells (.arr items) (enclose '[' ']' gap last parts) := by
  refine spells_of_reads (starts_enclose (by decide) (by decide)) fun depth rest deep _ => ?_
  obtain ⟨d, inner, rfl, opened, read⟩ := bracketed?_enclose blankGap blankLast (by decide) each deep rest
  rw [opened, value?, skipSpace_cons (by decide)]
  simp [read]

theorem ofNamed_some (members : List (String × Json)) :
    ofNamed (members.map fun m => (some m.1, m.2)) = .obj members := by
  have all : (members.map fun m => (some m.1, m.2)).mapM (fun m : Option String × Json =>
      m.1.map fun name => (name, m.2)) = some members := by
    induction members with
    | nil => rfl
    | cons m rest ih => simp [ih]
  rw [ofNamed, all]

theorem spells_obj (blankGap : Blank gap) (blankLast : Blank last) {members : List (String × Json)}
    (each : List.Forall₂ (Part fun depth => namedValue? (value? depth)) (members.map fun m => (some m.1, m.2)) parts) :
    Spells (.obj members) (enclose '\x7b' '\x7d' gap last parts) := by
  refine spells_of_reads (starts_enclose (by decide) (by decide)) fun depth rest deep _ => ?_
  obtain ⟨d, inner, rfl, opened, read⟩ := bracketed?_enclose blankGap blankLast (by decide) each deep rest
  rw [opened, value?, skipSpace_cons (by decide)]
  simp [read, ofNamed_some]

end

/-! ### What is neither array nor object -/

theorem afterWord?_append (word : String) (rest : List Char) : afterWord? word (word.toList ++ rest) = some rest := by
  simp [afterWord?, List.isPrefixOf_iff_prefix, ← String.length_toList]

/-- A word whose first letter decides what is read. -/
theorem spells_word {j : Json} {c : Char} (others : String) (solid : isSpace c = false) (opens : c ∉ closing)
    (reads : ∀ depth cs, value? depth (c :: cs) = (afterWord? others cs).map (j, ·)) :
    Spells j (c :: others.toList) := by
  refine spells_of_reads ⟨c, _, rfl, solid, opens⟩ fun depth rest _ _ => ?_
  rw [List.cons_append, reads, afterWord?_append]
  rfl

theorem spells_null : Spells .null "null".toList := by
  have solid : isSpace 'n' = false := by decide
  have spells : Spells .null ('n' :: "ull".toList) :=
    spells_word "ull" solid (by decide) fun depth cs => by rw [value?, skipSpace_cons solid]; rfl
  simpa using spells

theorem spells_bool (b : Bool) : Spells (.bool b) (atomText (.bool b)) := by
  cases b with
  | true =>
    have solid : isSpace 't' = false := by decide
    have spells : Spells (.bool true) ('t' :: "rue".toList) :=
      spells_word "rue" solid (by decide) fun depth cs => by rw [value?, skipSpace_cons solid]; rfl
    simpa [atomText] using spells
  | false =>
    have solid : isSpace 'f' = false := by decide
    have spells : Spells (.bool false) ('f' :: "alse".toList) :=
      spells_word "alse" solid (by decide) fun depth cs => by rw [value?, skipSpace_cons solid]; rfl
    simpa [atomText] using spells

theorem spells_str (s : String) : Spells (.str s) (quote s) := by
  refine spells_of_reads ⟨'"', _, rfl, by decide, by decide⟩ fun depth rest _ _ => ?_
  have solid : skipSpace (quote s ++ rest) = quote s ++ rest := skipSpace_cons (by decide) _
  have read := quoted?_quote s rest
  rw [value?, solid]
  simp only [quote, List.cons_append] at read ⊢
  rw [read]
  rfl

/-- Whatever starts none of the others is a number. -/
theorem value?_number {c : Char} (solid : isSpace c = false) (other : c ∉ ['"', '[', '\x7b', 'n', 't', 'f'])
    (depth : Nat) (cs : List Char) : value? depth (c :: cs) = number? (c :: cs) := by
  unfold value?
  rw [skipSpace_cons solid]
  split
  · next same => cases same
  all_goals first | rfl | (next same => cases same; exact absurd other (by decide))

/-- A number is a value when nothing is left of it. -/
theorem spells_of_number? {cs : List Char} {j : Json} (read : number? cs = some (j, [])) : Spells j cs := by
  obtain ⟨c, more, rfl, digit⟩ := head_of_number? read
  have other : isSpace c = false ∧ c ∉ closing ∧ c ∉ ['"', '[', '\x7b', 'n', 't', 'f'] := by
    rcases digit with digit | rfl
    · refine ⟨Bool.eq_false_iff.mpr fun space => ?_, fun closes => ?_, fun starts => ?_⟩
      · simp only [isSpace, Bool.or_eq_true, beq_iff_eq] at space
        rcases space with ((rfl | rfl) | rfl) | rfl <;> exact absurd digit (by decide)
      · simp only [closing, List.mem_cons, List.not_mem_nil, or_false] at closes
        rcases closes with rfl | rfl <;> exact absurd digit (by decide)
      · simp only [List.mem_cons, List.not_mem_nil, or_false] at starts
        rcases starts with rfl | rfl | rfl | rfl | rfl | rfl <;> exact absurd digit (by decide)
    · decide
  refine spells_of_reads ⟨c, more, rfl, other.1, other.2.1⟩ fun depth rest _ ends => ?_
  have whole := number?_append ends read
  rw [List.nil_append] at whole
  rw [List.cons_append, value?_number other.1 other.2.2]
  exact whole

/-! ### What a value is written as -/

/-- A value that is read back from its text: its integers have 64 bits, its doubles are legible, and nothing in it
    is void. -/
inductive Legible : Json → Prop where
  | null : Legible .null
  | bool (b : Bool) : Legible (.bool b)
  | int {n : Int} (fits : IsWord n) : Legible (.int n)
  | float {x : Float} (legible : LegibleNumber x) : Legible (.float x)
  | str (s : String) : Legible (.str s)
  | arr {items : List Json} (each : ∀ j ∈ items, Legible j) : Legible (.arr items)
  | obj {members : List (String × Json)} (each : ∀ m ∈ members, Legible m.2) : Legible (.obj members)

@[simp] theorem legible_str (s : String) : Legible (.str s) := .str s

@[simp] theorem legible_bool (b : Bool) : Legible (.bool b) := .bool b

@[simp] theorem legible_word16 (n : UInt16) : Legible (.int n.toNat) := by
  have bound := n.toNat_lt
  have large : word64Max = 0xFFFFFFFFFFFFFFFF := rfl
  exact .int ⟨by omega, by omega⟩

theorem legible_arr {α : Type} {encode : α → Json} {as : List α} (each : ∀ a ∈ as, Legible (encode a)) :
    Legible (.arr (as.map encode)) := by
  refine .arr fun j member => ?_
  obtain ⟨a, stands, rfl⟩ := List.mem_map.mp member
  exact each a stands

theorem legible_ofMembers (rows : List (String × Option Json)) (each : ∀ row ∈ rows, ∀ j ∈ row.2, Legible j) :
    Legible (ofMembers rows) := by
  refine .obj fun m member => ?_
  obtain ⟨row, stands, filled⟩ := List.mem_filterMap.mp member
  obtain ⟨j, value, rfl⟩ := Option.map_eq_some_iff.mp filled
  exact each row stands j value

theorem compactItems_eq (items : List Json) : compactItems items = items.map compactText := by
  induction items with
  | nil => rfl
  | cons j rest ih => rw [compactItems, ih, List.map_cons]

theorem compactMembers_eq (members : List (String × Json)) :
    compactMembers members = members.map fun m => quote m.1 ++ ':' :: compactText m.2 := by
  induction members with
  | nil => rfl
  | cons m rest ih => rw [compactMembers, ih, List.map_cons]

theorem blank_nil : Blank [] := fun _ member => nomatch member

theorem forall₂_map_self {α β γ : Type} {R : β → γ → Prop} {f : α → β} {g : α → γ} {as : List α}
    (each : ∀ a ∈ as, R (f a) (g a)) : List.Forall₂ R (as.map f) (as.map g) := by
  rw [List.forall₂_map_left_iff, List.forall₂_map_right_iff, List.forall₂_same]
  exact each

theorem spells_compact {j : Json} (legible : Legible j) : Spells j (compactText j) := by
  induction legible with
  | null => exact spells_null
  | bool b => exact spells_bool b
  | int fits => exact spells_of_number? (number?_integerText fits)
  | float legible =>
    rw [compactText, atomText, if_pos legible.1]
    · exact spells_of_number? legible.2
    · rintro items ⟨⟩
    · rintro members ⟨⟩
  | str s => exact spells_str s
  | @arr items each ih =>
    rw [compactText, compactItems_eq]
    refine spells_arr blank_nil blank_nil ?_
    rw [List.forall₂_map_right_iff, List.forall₂_same]
    exact ih
  | @obj members each ih =>
    rw [compactText, compactMembers_eq]
    exact spells_obj blank_nil blank_nil (forall₂_map_self fun m member => (ih m member).named m.1 blank_nil)

theorem parse?_ofList (cs : List Char) :
    parse? (String.ofList cs) =
      (value? cs.length cs).bind fun r => if (skipSpace r.2).isEmpty then some r.1 else none := by
  rw [parse?, String.toList_ofList]
  rfl

/-- A text of a value stands for it, with white space behind it. -/
theorem parse?_of_spells {j : Json} {t : List Char} (spells : Spells j t) {blank : List Char} (space : Blank blank) :
    parse? (String.ofList (t ++ blank)) = some j := by
  have ends : EndsNumber blank := by
    cases blank with
    | nil => simp [EndsNumber]
    | cons c cs => exact endsNumber_cons (mem_separators_of_isSpace (space c List.mem_cons_self)) cs
  have read := spells.reads [] (t ++ blank).length blank blank_nil (by simp) ends
  have nothing : skipSpace blank = [] := List.dropWhile_eq_nil_iff.mpr space
  rw [List.nil_append] at read
  rw [parse?_ofList, read, Option.bind_some, nothing]
  rfl

/-- A value is read back from its text in one line. -/
theorem parse?_compact {j : Json} (legible : Legible j) : parse? j.compact = some j := by
  have read := parse?_of_spells (spells_compact legible) blank_nil
  rwa [List.append_nil] at read

end FabricTopology.Json
