/-!
Tables whose rows stay in the order of their first insertion. `put` gives a key a value: a new key
goes to the end, a known one keeps its place.
-/
namespace FabricTopology

/-- Rows of a key and its value, oldest first. -/
abbrev Table (κ α : Type) := List (κ × α)

namespace Table

variable {κ α : Type} [BEq κ]

/-- The value of a key. -/
def get? (t : Table κ α) (key : κ) : Option α := (t.find? fun r => r.1 == key).map (·.2)

/-- The table in which the key has the value. -/
def put (key : κ) (value : α) : Table κ α → Table κ α
  | [] => [(key, value)]
  | r :: rest => if r.1 == key then (r.1, value) :: rest else r :: put key value rest

/-- The table without the key. -/
def erase (t : Table κ α) (key : κ) : Table κ α := t.filter fun r => !(r.1 == key)

/-- The table of rows put one after the other. -/
def ofRows (rows : List (κ × α)) : Table κ α := rows.foldl (fun t r => put r.1 r.2 t) []

/-- All values, oldest key first. -/
def values (t : Table κ α) : List α := t.map (·.2)

/-- All keys, oldest first. -/
def keys (t : Table κ α) : List κ := t.map (·.1)

variable [LawfulBEq κ]

theorem get?_put_self (t : Table κ α) (key : κ) (value : α) :
    (t.put key value).get? key = some value := by
  induction t with
  | nil => simp [put, get?]
  | cons r rest ih =>
    by_cases h : r.1 == key
    · simp [put, get?, h]
    · simpa [put, get?, h] using ih

theorem get?_put_of_ne (t : Table κ α) {key other : κ} (h : other ≠ key) (value : α) :
    (t.put key value).get? other = t.get? other := by
  induction t with
  | nil => simp [put, get?, h.symm]
  | cons r rest ih =>
    by_cases hk : r.1 = key
    · simp [put, get?, hk, h.symm]
    · by_cases ho : r.1 = other
      · subst ho
        simp [put, get?, hk]
      · simpa [put, get?, hk, ho] using ih

theorem get?_erase_self (t : Table κ α) (key : κ) : (t.erase key).get? key = none := by
  simp [get?, erase]

theorem get?_erase_of_ne (t : Table κ α) {key other : κ} (h : other ≠ key) :
    (t.erase key).get? other = t.get? other := by
  induction t with
  | nil => rfl
  | cons r rest ih =>
    by_cases hk : r.1 = key
    · simpa [get?, erase, hk, h.symm] using ih
    · by_cases ho : r.1 = other
      · subst ho
        simp [get?, erase, hk]
      · simpa [get?, erase, hk, ho] using ih

/-- A new key goes to the end. -/
theorem keys_put_of_not_mem (t : Table κ α) {key : κ} (h : key ∉ t.keys) (value : α) :
    (t.put key value).keys = t.keys ++ [key] := by
  induction t with
  | nil => rfl
  | cons r rest ih =>
    simp only [keys, List.map_cons, List.mem_cons, not_or] at h
    simpa [put, keys, Ne.symm h.1] using ih h.2

/-- A known key keeps its place. -/
theorem keys_put_of_mem (t : Table κ α) {key : κ} (h : key ∈ t.keys) (value : α) :
    (t.put key value).keys = t.keys := by
  induction t with
  | nil => simp [keys] at h
  | cons r rest ih =>
    by_cases hk : r.1 = key
    · simp [put, keys, hk]
    · simpa [put, keys, hk] using ih (by simpa [keys, Ne.symm hk] using h)

end Table

end FabricTopology
