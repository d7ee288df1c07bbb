import FabricTopology.Table

/-!
Tables made of rows that are put one after the other: which keys and rows they have, and when the rows
stay as they are. Rows with distinct keys that no later row repeats keep their places and their values.
-/
namespace FabricTopology.Table

variable {κ α : Type} [BEq κ]

/-- The table after rows are put into it. -/
def putRows (t : Table κ α) (rows : List (κ × α)) : Table κ α := rows.foldl (fun t r => put r.1 r.2 t) t

theorem ofRows_eq_putRows (rows : List (κ × α)) : ofRows rows = putRows [] rows := rfl

@[simp] theorem putRows_cons (t : Table κ α) (r : κ × α) (rows : List (κ × α)) :
    t.putRows (r :: rows) = (t.put r.1 r.2).putRows rows := rfl

theorem putRows_append (t : Table κ α) (rows more : List (κ × α)) :
    t.putRows (rows ++ more) = (t.putRows rows).putRows more := List.foldl_append

theorem erase_sublist (t : Table κ α) (key : κ) : (t.erase key).Sublist t := List.filter_sublist

variable [LawfulBEq κ]

/-! ### Values of keys -/

theorem mem_of_get? {t : Table κ α} {key : κ} {value : α} (stands : t.get? key = some value) : (key, value) ∈ t := by
  obtain ⟨row, found, rfl⟩ := Option.map_eq_some_iff.mp stands
  have same : row.1 == key := by simpa using List.find?_some found
  rw [← eq_of_beq same]
  exact List.mem_of_find?_eq_some found

theorem mem_keys_of_get? {t : Table κ α} {key : κ} {value : α} (stands : t.get? key = some value) : key ∈ t.keys :=
  List.mem_map.mpr ⟨_, mem_of_get? stands, rfl⟩

theorem get?_of_mem_keys {t : Table κ α} {key : κ} (member : key ∈ t.keys) : ∃ value, t.get? key = some value := by
  obtain ⟨row, stands, rfl⟩ := List.mem_map.mp member
  cases found : t.find? fun r => r.1 == row.1 with
  | some other => exact ⟨other.2, by rw [get?, found, Option.map_some]⟩
  | none => exact absurd (List.find?_eq_none.mp found row stands) (by simp)

theorem get?_eq_none_iff {t : Table κ α} {key : κ} : t.get? key = none ↔ key ∉ t.keys := by
  constructor
  · intro missing member
    obtain ⟨value, stands⟩ := get?_of_mem_keys member
    rw [missing] at stands
    cases stands
  · intro missing
    cases stands : t.get? key with
    | none => rfl
    | some value => exact absurd (mem_keys_of_get? stands) missing

/-- Where no key is repeated, every row is found. -/
theorem get?_eq_some_iff {t : Table κ α} (distinct : t.keys.Nodup) {key : κ} {value : α} :
    t.get? key = some value ↔ (key, value) ∈ t := by
  constructor
  · exact mem_of_get?
  · intro member
    induction t with
    | nil => cases member
    | cons r rest ih =>
      simp only [keys, List.map_cons, List.nodup_cons] at distinct
      rcases List.mem_cons.mp member with rfl | later
      · simp [get?]
      · have other : r.1 ≠ key := fun same => distinct.1 (List.mem_map.mpr ⟨_, later, same.symm⟩)
        have found := ih distinct.2 later
        rw [get?] at found ⊢
        rwa [List.find?_cons_of_neg (by simpa using other)]

/-! ### One row -/

theorem mem_keys_put {t : Table κ α} {key other : κ} {value : α} :
    other ∈ (t.put key value).keys ↔ other ∈ t.keys ∨ other = key := by
  by_cases known : key ∈ t.keys
  · rw [keys_put_of_mem t known]
    constructor
    · exact .inl
    · rintro (member | rfl)
      · exact member
      · exact known
  · rw [keys_put_of_not_mem t known, List.mem_append, List.mem_singleton]

/-- A row of the table after a row is put is that row or was there before. -/
theorem mem_of_mem_put {t : Table κ α} {key : κ} {value : α} {row : κ × α} (member : row ∈ t.put key value) :
    row = (key, value) ∨ row ∈ t := by
  induction t with
  | nil => exact .inl (List.mem_singleton.mp member)
  | cons r rest ih =>
    rw [put] at member
    split at member
    · next known =>
      rcases List.mem_cons.mp member with rfl | later
      · rw [eq_of_beq known]
        exact .inl rfl
      · exact .inr (List.mem_cons_of_mem r later)
    · rcases List.mem_cons.mp member with rfl | later
      · exact .inr List.mem_cons_self
      · rcases ih later with new | old
        · exact .inl new
        · exact .inr (List.mem_cons_of_mem r old)

/-- Rows without the key are passed over. -/
theorem put_append_of_not_mem (t more : Table κ α) {key : κ} (missing : key ∉ t.keys) (value : α) :
    (t ++ more : Table κ α).put key value = t ++ more.put key value := by
  induction t with
  | nil => rfl
  | cons r rest ih =>
    simp only [keys, List.map_cons, List.mem_cons, not_or] at missing
    have other : (r.1 == key) = false := by simpa using Ne.symm missing.1
    rw [List.cons_append, put, other]
    simp only [Bool.false_eq_true, if_false, List.cons_append]
    rw [ih missing.2]

/-- A row with a new key goes to the end. -/
theorem put_of_not_mem {t : Table κ α} {key : κ} (missing : key ∉ t.keys) (value : α) :
    t.put key value = t ++ [(key, value)] := by
  have last := put_append_of_not_mem t [] missing value
  rwa [List.append_nil] at last

/-- What the rows show stays if the new value of a known key shows the same as the old one. -/
theorem map_put {β : Type} (f : κ × α → β) {t : Table κ α} {key : κ} {old value : α} (known : t.get? key = some old)
    (same : f (key, value) = f (key, old)) : (t.put key value).map f = t.map f := by
  induction t with
  | nil => cases known
  | cons r rest ih =>
    rw [put]
    by_cases here : r.1 = key
    · have first : r = (key, old) := by
        have found : some r.2 = some old := by simpa [get?, here] using known
        rw [← here, ← Option.some.inj found]
      simp [first, same]
    · have found : get? rest key = some old := by simpa [get?, here] using known
      simp [here, ih found]

/-- A row that is there already changes nothing. -/
theorem put_of_get? {t : Table κ α} {key : κ} {value : α} (known : t.get? key = some value) : t.put key value = t := by
  have same := map_put id known rfl
  rwa [List.map_id, List.map_id] at same

/-- Of two values put for one key only the second one counts. -/
theorem put_put (t : Table κ α) (key : κ) (first second : α) : (t.put key first).put key second = t.put key second := by
  induction t with
  | nil => simp [put]
  | cons r rest ih =>
    by_cases here : r.1 = key
    · simp [put, here]
    · simp [put, here, ih]

/-! ### Rows one after the other -/

theorem mem_keys_putRows {t : Table κ α} {rows : List (κ × α)} {key : κ} :
    key ∈ (t.putRows rows).keys ↔ key ∈ t.keys ∨ key ∈ rows.map (·.1) := by
  induction rows generalizing t with
  | nil => simp [putRows]
  | cons r rest ih =>
    rw [putRows_cons, ih, mem_keys_put, List.map_cons, List.mem_cons, or_assoc]

theorem mem_of_mem_putRows {t : Table κ α} {rows : List (κ × α)} {row : κ × α} (member : row ∈ t.putRows rows) :
    row ∈ t ∨ row ∈ rows := by
  induction rows generalizing t with
  | nil => exact .inl member
  | cons r rest ih =>
    rw [putRows_cons] at member
    rcases ih member with early | later
    · rcases mem_of_mem_put early with rfl | old
      · exact .inr List.mem_cons_self
      · exact .inl old
    · exact .inr (List.mem_cons_of_mem r later)

/-- Rows whose keys no later row repeats stay where they are. -/
theorem putRows_of_apart (t more : Table κ α) {rows : List (κ × α)} (apart : ∀ key ∈ rows.map (·.1), key ∉ t.keys) :
    putRows (t ++ more) rows = t ++ putRows more rows := by
  induction rows generalizing more with
  | nil => rfl
  | cons r rest ih =>
    simp only [List.map_cons, List.forall_mem_cons] at apart
    rw [putRows_cons, putRows_cons, put_append_of_not_mem t more apart.1, ih (more.put r.1 r.2) apart.2]

/-- Rows with distinct keys are a table. -/
theorem ofRows_of_nodup {rows : List (κ × α)} (distinct : (rows.map (·.1)).Nodup) : ofRows rows = rows := by
  induction rows with
  | nil => rfl
  | cons r rest ih =>
    rw [List.map_cons, List.nodup_cons] at distinct
    have apart : ∀ key ∈ rest.map (·.1), key ∉ keys [r] := by
      intro key member same
      rw [keys, List.map_singleton, List.mem_singleton] at same
      exact distinct.1 (same ▸ member)
    have first : put r.1 r.2 [] = [r] ++ [] := rfl
    rw [ofRows_eq_putRows, putRows_cons, first, putRows_of_apart [r] [] apart, ← ofRows_eq_putRows, ih distinct.2]
    rfl

/-- Rows with distinct keys stand first, as they are, if no later row repeats a key of theirs. -/
theorem ofRows_append {rows more : List (κ × α)} (distinct : (rows.map (·.1)).Nodup)
    (apart : ∀ key ∈ more.map (·.1), key ∉ rows.map (·.1)) : ofRows (rows ++ more) = rows ++ ofRows more := by
  have first := ofRows_of_nodup distinct
  rw [ofRows_eq_putRows] at first
  rw [ofRows_eq_putRows, putRows_append, first]
  have after := putRows_of_apart rows [] apart
  rwa [List.append_nil] at after

theorem mem_keys_ofRows {rows : List (κ × α)} {key : κ} : key ∈ (ofRows rows).keys ↔ key ∈ rows.map (·.1) := by
  rw [ofRows_eq_putRows, mem_keys_putRows]
  simp [keys]

theorem mem_of_mem_ofRows {rows : List (κ × α)} {row : κ × α} (member : row ∈ ofRows rows) : row ∈ rows := by
  rcases mem_of_mem_putRows member with none | some
  · exact absurd none List.not_mem_nil
  · exact some

theorem nodup_keys_put {t : Table κ α} (distinct : t.keys.Nodup) (key : κ) (value : α) :
    (t.put key value).keys.Nodup := by
  by_cases known : key ∈ t.keys
  · rwa [keys_put_of_mem t known]
  · rw [keys_put_of_not_mem t known, List.nodup_append]
    refine ⟨distinct, by simp, ?_⟩
    intro other member last same
    rintro rfl
    exact known (List.mem_singleton.mp same ▸ member)

/-- A table made of rows has no key twice. -/
theorem nodup_keys_ofRows (rows : List (κ × α)) : (ofRows rows).keys.Nodup := by
  rw [ofRows_eq_putRows]
  suffices ∀ t : Table κ α, t.keys.Nodup → (t.putRows rows).keys.Nodup from this [] .nil
  induction rows with
  | nil => exact fun t distinct => distinct
  | cons r rest ih => exact fun t distinct => ih _ (nodup_keys_put distinct r.1 r.2)

theorem get?_putRows_of_not_mem (t : Table κ α) {rows : List (κ × α)} {key : κ} (missing : key ∉ rows.map (·.1)) :
    (t.putRows rows).get? key = t.get? key := by
  induction rows generalizing t with
  | nil => rfl
  | cons r rest ih =>
    rw [List.map_cons, List.mem_cons, not_or] at missing
    rw [putRows_cons, ih _ missing.2, get?_put_of_ne t missing.1]

/-- The last row of a key gives its value. -/
theorem get?_ofRows_of_last (before : List (κ × α)) {after : List (κ × α)} {key : κ} {value : α}
    (last : key ∉ after.map (·.1)) : (ofRows (before ++ (key, value) :: after)).get? key = some value := by
  rw [ofRows_eq_putRows, putRows_append, putRows_cons, get?_putRows_of_not_mem _ last, get?_put_self]

end FabricTopology.Table
