import FabricTopology.Json.Record
import Mathlib.Data.List.Forall2
import Mathlib.Data.List.Nodup
import Mathlib.Data.Option.Basic

/-!
Other ways to write a record. An object may have its members in any order, under any of the names of
their fields, and among further members whose names are no field's; the values of its members may be
rewritten in turn. What a field's reader finds in such an object is the field's value, rewritten
(`Written.given`), or nothing if the field was left out (`Written.omitted`).
-/
namespace FabricTopology.Json

/-! ### Readable values

Everything that is no array or object is readable, and an array or object one level deeper than what it holds. -/

@[simp] theorem isReadable_str (depth : Nat) (s : String) : isReadable depth (.str s) = true := by cases depth <;> rfl

@[simp] theorem isReadable_int (depth : Nat) (n : Int) : isReadable depth (.int n) = true := by cases depth <;> rfl

@[simp] theorem isReadable_bool (depth : Nat) (b : Bool) : isReadable depth (.bool b) = true := by cases depth <;> rfl

theorem areReadable_iff {depth : Nat} {items : List Json} :
    areReadable depth items = true ↔ ∀ j ∈ items, isReadable depth j = true := by
  induction items with
  | nil => simp [areReadable]
  | cons j rest ih => simp [areReadable, ih]

theorem membersReadable_iff {depth : Nat} {members : List (String × Json)} :
    membersReadable depth members = true ↔ ∀ m ∈ members, isReadable depth m.2 = true := by
  induction members with
  | nil => simp [membersReadable]
  | cons m rest ih => simp [membersReadable, ih]

theorem isReadable_arr {α : Type} {encode : α → Json} {depth : Nat} (as : List α)
    (readable : ∀ a, isReadable depth (encode a) = true) : isReadable (depth + 1) (.arr (as.map encode)) = true := by
  rw [isReadable, areReadable_iff]
  intro j member
  obtain ⟨a, _, rfl⟩ := List.mem_map.mp member
  exact readable a

theorem isReadable_ofMembers {depth : Nat} (rows : List (String × Option Json))
    (readable : ∀ row ∈ rows, ∀ j ∈ row.2, isReadable depth j = true) :
    isReadable (depth + 1) (ofMembers rows) = true := by
  rw [ofMembers, isReadable, membersReadable_iff]
  intro m member
  obtain ⟨row, stands, filled⟩ := List.mem_filterMap.mp member
  obtain ⟨j, value, rfl⟩ := Option.map_eq_some_iff.mp filled
  exact readable row stands j value

/-! ### Rewordings -/

/-- Which values may be written in place of a value. -/
abbrev Rewording := Json → Json → Prop

namespace Rewording

/-- The value itself and no other. -/
def same : Rewording := fun j other => other = j

/-- A name, or another one that stands for the same thing. -/
def word (synonyms : List (String × String)) : Rewording := fun j other =>
  other = j ∨ ∃ s ∈ synonyms, j = .str s.1 ∧ other = .str s.2

/-- An array whose items are rewritten one by one. -/
def list (item : Rewording) : Rewording := fun j other =>
  ∃ items others, j = .arr items ∧ other = .arr others ∧ List.Forall₂ item items others

/-- A field: the name it is written with, its other names, and how its value may be rewritten. -/
structure Field where
  name : String
  aliases : List String
  value : Rewording

/-- All names of a field. -/
def Field.names (f : Field) : List String := f.name :: f.aliases

/-- A member in place of a member: another name of its field, another way to write its value. -/
def Member (fields : List Field) (m other : String × Json) : Prop :=
  ∃ f ∈ fields, m.1 = f.name ∧ other.1 ∈ f.names ∧ f.value m.2 other.2

/-- An object with its members rewritten, in any order and among members of unknown names. -/
def record (fields : List Field) : Rewording := fun j other =>
  ∃ members others known unknown, j = .obj members ∧ other = .obj others ∧ others.Perm (known ++ unknown) ∧
    List.Forall₂ (Member fields) members known ∧ ∀ m ∈ unknown, ∀ f ∈ fields, m.1 ∉ f.names

/-- No name belongs to two fields. -/
def Distinct (fields : List Field) : Prop := fields.Pairwise fun f g => ∀ name ∈ f.names, name ∉ g.names

instance (fields : List Field) : Decidable (Distinct fields) :=
  inferInstanceAs (Decidable (fields.Pairwise fun f g => ∀ name ∈ f.names, name ∉ g.names))

theorem Distinct.eq_of_mem_names {fields : List Field} (distinct : Distinct fields) {f g : Field} (left : f ∈ fields)
    (right : g ∈ fields) {name : String} (one : name ∈ f.names) (two : name ∈ g.names) : f = g := by
  rw [Distinct] at distinct
  induction fields with
  | nil => exact absurd left List.not_mem_nil
  | cons first rest ih =>
    rw [List.pairwise_cons] at distinct
    rcases List.mem_cons.mp left with rfl | later <;> rcases List.mem_cons.mp right with rfl | after
    · rfl
    · exact absurd two (distinct.1 g after name one)
    · exact absurd one (distinct.1 f later name two)
    · exact ih distinct.2 later after

/-! ### What a field finds -/

/-- Members under a field's name are rewritten to the members under any of its names. -/
theorem filter_members {fields : List Field} (distinct : Distinct fields) {f : Field} (field : f ∈ fields)
    {members known : List (String × Json)} (rewritten : List.Forall₂ (Member fields) members known) :
    List.Forall₂ (fun m other => f.value m.2 other.2) (members.filter fun m => m.1 == f.name)
      (known.filter fun m => f.names.contains m.1) := by
  induction rewritten with
  | nil => exact .nil
  | @cons m other rest more first _ ih =>
    obtain ⟨g, owner, name, named, value⟩ := first
    -- A member of another field has none of this field's names, whatever it is called now.
    by_cases own : g.name = f.name
    · have shared : f.name ∈ g.names := by rw [← own]; exact List.mem_cons_self
      obtain rfl : g = f := distinct.eq_of_mem_names owner field shared List.mem_cons_self
      rw [List.filter_cons_of_pos (by simp [name]), List.filter_cons_of_pos (by simpa using named)]
      exact .cons value ih
    · have others : other.1 ∉ f.names := by
        intro shared
        rw [distinct.eq_of_mem_names owner field named shared] at own
        exact own rfl
      rw [List.filter_cons_of_neg (by simpa [name] using own), List.filter_cons_of_neg (by simpa using others)]
      exact ih

theorem filter_eq_singleton {members : List (String × Json)} (distinct : (members.map (·.1)).Nodup) {name : String}
    {value : Json} (member : (name, value) ∈ members) : (members.filter fun m => m.1 == name) = [(name, value)] := by
  induction members with
  | nil => exact absurd member List.not_mem_nil
  | cons m rest ih =>
    rw [List.map_cons, List.nodup_cons] at distinct
    rcases List.mem_cons.mp member with rfl | later
    · rw [List.filter_cons_of_pos (by simp), List.filter_eq_nil_iff.mpr]
      intro other stands named
      exact distinct.1 (List.mem_map.mpr ⟨other, stands, by simpa using named⟩)
    · rw [List.filter_cons_of_neg, ih distinct.2 later]
      intro named
      have first : m.1 = name := by simpa using named
      exact distinct.1 (List.mem_map.mpr ⟨_, later, first.symm⟩)

/-- The members under a field's names, in an object that is another way to write a record. -/
theorem filter_record {fields : List Field} (distinct : Distinct fields) {f : Field} (field : f ∈ fields)
    {members : List (String × Json)} {j : Json} (rewritten : record fields (.obj members) j) :
    ∃ others found, j = .obj others ∧ (others.filter fun m => f.names.contains m.1).Perm found ∧
      List.Forall₂ (fun m other => f.value m.2 other.2) (members.filter fun m => m.1 == f.name) found := by
  obtain ⟨_, others, known, unknown, same, rfl, order, values, foreign⟩ := rewritten
  obtain rfl := Json.obj.inj same
  refine ⟨others, known.filter fun m => f.names.contains m.1, rfl, ?_, filter_members distinct field values⟩
  have none : (unknown.filter fun m => f.names.contains m.1) = [] := by
    rw [List.filter_eq_nil_iff]
    intro m member named
    exact foreign m member f field (by simpa using named)
  have kept := order.filter fun m => f.names.contains m.1
  rwa [List.filter_append, none, List.append_nil] at kept

/-- A JSON value that is another way to write a record with the given rows, one for each field. -/
structure Written (fields : List Field) (rows : List (String × Option Json)) (j : Json) : Prop where
  fieldsApart : Distinct fields
  rowsApart : (rows.map (·.1)).Nodup
  reworded : record fields (ofMembers rows) j

section
variable {fields : List Field} {rows : List (String × Option Json)} {j : Json} {name : String} {aliases : List String}
  {value : Rewording} {α : Type} {read? : Json → Option α}

theorem Written.isRecord (written : Written fields rows j) (count : Nat) : j.isRecord count = true := by
  obtain ⟨_, _, _, _, _, rfl, _⟩ := written.reworded
  rfl

theorem nodup_members (apart : (rows.map (·.1)).Nodup) :
    ((rows.filterMap fun m => m.2.map fun v => (m.1, v)).map (·.1)).Nodup := by
  refine apart.sublist ?_
  induction rows with
  | nil => exact .slnil
  | cons row rest ih =>
    rw [List.map_cons, List.nodup_cons] at apart
    obtain ⟨key, _ | v⟩ := row
    · exact (ih apart.2).cons key
    · exact (ih apart.2).cons_cons key

/-- A field that is written is found, whatever way it is written. -/
theorem Written.given (written : Written fields rows j) (position i : Nat) {v : Json}
    (field : fields[i]? = some ⟨name, aliases, value⟩) (row : rows[i]? = some (name, some v)) :
    ∃ other, value v other ∧ j.slot? position (name :: aliases) = some (.given other) := by
  obtain ⟨others, found, rfl, order, values⟩ :=
    filter_record written.fieldsApart (List.mem_of_getElem? field) written.reworded
  have member : (name, v) ∈ rows.filterMap fun m => m.2.map fun v => (m.1, v) :=
    List.mem_filterMap.mpr ⟨_, List.mem_of_getElem? row, rfl⟩
  -- One member has the field's name, so one member has any of its names in the other object.
  rw [filter_eq_singleton (nodup_members written.rowsApart) member] at values
  cases values with
  | cons reworded none =>
    cases none
    have one := List.perm_singleton.mp order
    refine ⟨_, reworded, ?_⟩
    rw [Field.names] at one
    rw [slot?, one]

/-- A field that is left out is not found. -/
theorem Written.omitted (written : Written fields rows j) (position i : Nat)
    (field : fields[i]? = some ⟨name, aliases, value⟩) (row : rows[i]? = some (name, none)) :
    j.slot? position (name :: aliases) = some .omitted := by
  obtain ⟨others, found, rfl, order, values⟩ :=
    filter_record written.fieldsApart (List.mem_of_getElem? field) written.reworded
  have missing : ((rows.filterMap fun m => m.2.map fun v => (m.1, v)).filter fun m => m.1 == name) = [] := by
    rw [List.filter_eq_nil_iff]
    intro m member named
    obtain ⟨other, stands, same⟩ := List.mem_filterMap.mp member
    obtain ⟨v, filled, rfl⟩ := Option.map_eq_some_iff.mp same
    have key : other.1 = name := by simpa using named
    rw [List.inj_on_of_nodup_map written.rowsApart stands (List.mem_of_getElem? row) key] at filled
    cases filled
  rw [missing] at values
  cases values
  have none := List.perm_nil.mp order
  rw [Field.names] at none
  rw [slot?, none]

/-! ### What a field's reader gives -/

/-- The reader gives the same for a value, in whatever way it is written. -/
def Reads (value : Rewording) (v : Json) (read? : Json → Option α) (a : α) : Prop :=
  ∀ other, value v other → read? other = some a

theorem Written.required (written : Written fields rows j) {position : Nat} (i : Nat) {v : Json} {a : α}
    (field : fields[i]? = some ⟨name, aliases, value⟩) (row : rows[i]? = some (name, some v))
    (reads : Reads value v read? a) : j.required read? position (name :: aliases) = some a := by
  obtain ⟨other, reworded, found⟩ := written.given position i field row
  rw [Json.required, found]
  exact reads other reworded

theorem Written.defaulted (written : Written fields rows j) {position : Nat} {default : α} (i : Nat) {v : Json} {a : α}
    (field : fields[i]? = some ⟨name, aliases, value⟩) (row : rows[i]? = some (name, some v))
    (reads : Reads value v read? a) : j.defaulted default read? position (name :: aliases) = some a := by
  obtain ⟨other, reworded, found⟩ := written.given position i field row
  rw [Json.defaulted, found]
  exact reads other reworded

/-- A field that is left out when absent is read back, provided that its reader refuses null. -/
theorem Written.optional (written : Written fields rows j) {position : Nat} (i : Nat) {encode : α → Json}
    {field : Option α} (stands : fields[i]? = some ⟨name, aliases, value⟩)
    (row : rows[i]? = some (name, field.map encode)) (reads : ∀ a ∈ field, Reads value (encode a) read? a)
    (null : read? .null = none) : j.optional read? position (name :: aliases) = some field := by
  cases field with
  | none =>
    have missing := written.omitted position i stands row
    rw [Json.optional, Json.defaulted, missing]
    rfl
  | some a =>
    obtain ⟨other, reworded, found⟩ := written.given position i stands row
    have read := reads a rfl other reworded
    rw [Json.optional, Json.defaulted, found]
    show nullable read? other = some (some a)
    cases other with
    | null =>
      rw [null] at read
      cases read
    | _ => simp [nullable, read]

/-- A field that may be left out of an object is read back, provided that its reader refuses null. -/
theorem Written.optionalMember (written : Written fields rows j) {position : Nat} (i : Nat) {encode : α → Json}
    {field : Option α} (stands : fields[i]? = some ⟨name, aliases, value⟩)
    (row : rows[i]? = some (name, field.map encode)) (reads : ∀ a ∈ field, Reads value (encode a) read? a)
    (null : read? .null = none) : j.optionalMember read? position (name :: aliases) = some field := by
  have read : j.optional read? position (name :: aliases) = some field := written.optional i stands row reads null
  cases field with
  | none =>
    rw [Json.optionalMember, written.omitted position i stands row]
    rfl
  | some a =>
    obtain ⟨other, _, found⟩ := written.given position i stands row
    rw [Json.optional, Json.defaulted, found] at read
    rwa [Json.optionalMember, found]

theorem reads_same {v : Json} {a : α} (read : read? v = some a) : Reads same v read? a := by
  rintro other rfl
  exact read

theorem reads_str (s : String) : Reads same (.str s) Json.str? s := reads_same rfl

theorem reads_bool (b : Bool) : Reads same (.bool b) Json.bool? b := reads_same rfl

theorem reads_nat (n : Nat) : Reads same (.int n) Json.nat? n := reads_same (by simp [Json.nat?])

theorem reads_word16 (n : UInt16) : Reads same (.int n.toNat) Json.word16? n :=
  reads_same (by simp [Json.word16?, Json.nat?, n.toNat_lt])

theorem reads_word8 (n : UInt8) : Reads same (.int n.toNat) Json.word8? n :=
  reads_same (by simp [Json.word8?, Json.nat?, n.toNat_lt])

/-- A name is read, and so is every other name that stands for the same. -/
theorem reads_word {synonyms : List (String × String)} {s : String} {ofName? : String → Option α} {a : α}
    {text? : Json → Option String} (text : ∀ s, text? (.str s) = some s) (known : ofName? s = some a)
    (synonymous : ∀ t ∈ synonyms, t.1 = s → ofName? t.2 = some a) :
    Reads (word synonyms) (.str s) (fun j => text? j >>= ofName?) a := by
  rintro other (rfl | ⟨t, member, same, rfl⟩)
  · simp [text, known]
  · simpa [text] using synonymous t member (Json.str.inj same).symm

/-- Items are read one by one. -/
theorem reads_list {item : Rewording} {encode : α → Json} {as : List α}
    (reads : ∀ a ∈ as, Reads item (encode a) read? a) :
    Reads (list item) (.arr (as.map encode)) (Json.list? read?) as := by
  rintro other ⟨items, others, same, rfl, rewritten⟩
  obtain rfl := Json.arr.inj same
  show others.mapM read? = some as
  induction as generalizing others with
  | nil =>
    cases rewritten
    rfl
  | cons a rest ih =>
    rw [List.forall_mem_cons] at reads
    cases rewritten with
    | cons first later => simp [List.mapM_cons, reads.1 _ first, ih reads.2 _ rfl later]

end

/-! ### A record as it is encoded -/

theorem same_self (j : Json) : same j j := rfl

theorem list_self {item : Rewording} {α : Type} {encode : α → Json} {as : List α}
    (self : ∀ a ∈ as, item (encode a) (encode a)) : list item (.arr (as.map encode)) (.arr (as.map encode)) := by
  refine ⟨_, _, rfl, rfl, ?_⟩
  rw [List.forall₂_same]
  intro j member
  obtain ⟨a, stands, rfl⟩ := List.mem_map.mp member
  exact self a stands

theorem exists_field {R : Field → String × Option Json → Prop} {fields : List Field}
    {rows : List (String × Option Json)} (paired : List.Forall₂ R fields rows) {row : String × Option Json}
    (member : row ∈ rows) : ∃ f ∈ fields, R f row := by
  induction paired with
  | nil => exact absurd member List.not_mem_nil
  | @cons f first _ _ related _ ih =>
    rcases List.mem_cons.mp member with rfl | later
    · exact ⟨f, List.mem_cons_self, related⟩
    · obtain ⟨g, stands, related⟩ := ih later
      exact ⟨g, List.mem_cons_of_mem f stands, related⟩

/-- An encoding is one of the ways to write its record. -/
theorem record_self {fields : List Field} (rows : List (String × Option Json))
    (self : List.Forall₂ (fun f row => row.1 = f.name ∧ ∀ v ∈ row.2, f.value v v) fields rows) :
    record fields (ofMembers rows) (ofMembers rows) := by
  refine ⟨_, _, rows.filterMap fun m => m.2.map fun v => (m.1, v), [], rfl, rfl, by simp, ?_, by simp⟩
  rw [List.forall₂_same]
  intro m member
  obtain ⟨row, stands, same⟩ := List.mem_filterMap.mp member
  obtain ⟨v, filled, rfl⟩ := Option.map_eq_some_iff.mp same
  obtain ⟨f, field, name, value⟩ := exists_field self stands
  exact ⟨f, field, name, by rw [name]; exact List.mem_cons_self, value v filled⟩

/-- A member of an unknown name may be added. -/
theorem record_cons {fields : List Field} {j : Json} {others : List (String × Json)} {m : String × Json}
    (unknown : ∀ f ∈ fields, m.1 ∉ f.names) (reworded : record fields j (.obj others)) :
    record fields j (.obj (m :: others)) := by
  obtain ⟨members, _, known, foreign, rfl, same, order, values, outside⟩ := reworded
  obtain rfl := Json.obj.inj same
  refine ⟨members, m :: others, known, m :: foreign, rfl, rfl, ?_, values, ?_⟩
  · exact (order.cons m).trans List.perm_middle.symm
  · exact List.forall_mem_cons.mpr ⟨unknown, outside⟩

end Rewording

end FabricTopology.Json
