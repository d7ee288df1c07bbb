import Mathlib.Data.List.Intervals
import Mathlib.Data.List.Nodup

/-!
Lists that are made or read item by item: a list is read whole exactly if each item is (`mapM_eq_some_iff`), and of
what is made in blocks one block is found again.
-/
namespace FabricTopology
variable {α β γ : Type}

/-! ### Read item by item -/

section
variable {f : α → Option β} {a : α} {as : List α} {bs : List β}

theorem mapM_cons_eq_some :
    (a :: as).mapM f = some bs ↔ ∃ b rest, f a = some b ∧ as.mapM f = some rest ∧ b :: rest = bs := by
  simp [List.mapM_cons, Option.bind_eq_some_iff]

theorem mapM_eq_some_iff : as.mapM f = some bs ↔ as.map f = bs.map some := by
  induction as generalizing bs with
  | nil => cases bs <;> simp
  | cons a as ih =>
    rw [mapM_cons_eq_some]
    constructor
    · rintro ⟨b, rest, first, later, rfl⟩
      rw [List.map_cons, List.map_cons, first, ih.mp later]
    · intro each
      cases bs with
      | nil => cases each
      | cons b bs =>
        obtain ⟨first, later⟩ := List.cons.inj each
        exact ⟨b, bs, first, ih.mpr later, rfl⟩

theorem length_of_mapM (read : as.mapM f = some bs) : bs.length = as.length := by
  have lengths := congrArg List.length (mapM_eq_some_iff.mp read)
  rw [List.length_map, List.length_map] at lengths
  exact lengths.symm

theorem exists_mapM_iff : (∃ bs, as.mapM f = some bs) ↔ ∀ a ∈ as, (f a).isSome := by
  induction as with
  | nil => simp
  | cons a as ih =>
    rw [List.forall_mem_cons, ← ih, Option.isSome_iff_exists]
    constructor
    · rintro ⟨bs, read⟩
      obtain ⟨b, rest, first, later, _⟩ := mapM_cons_eq_some.mp read
      exact ⟨⟨b, first⟩, rest, later⟩
    · rintro ⟨⟨b, first⟩, rest, later⟩
      exact ⟨b :: rest, mapM_cons_eq_some.mpr ⟨b, rest, first, later, rfl⟩⟩

/-- What can be told of each result can be told of each item. -/
theorem map_of_mapM {told : α → γ} {tell : β → γ} (read : as.mapM f = some bs)
    (each : ∀ a ∈ as, ∀ b, f a = some b → tell b = told a) : bs.map tell = as.map told := by
  induction as generalizing bs with
  | nil =>
    obtain rfl : [] = bs := by simpa using read
    rfl
  | cons a as ih =>
    obtain ⟨b, rest, first, later, rfl⟩ := mapM_cons_eq_some.mp read
    obtain ⟨here, there⟩ := List.forall_mem_cons.mp each
    rw [List.map_cons, List.map_cons, here b first, ih later there]

theorem exists_of_mem_mapM {b : β} (read : as.mapM f = some bs) (member : b ∈ bs) : ∃ a ∈ as, f a = some b := by
  have listed : some b ∈ as.map f := by
    rw [mapM_eq_some_iff.mp read]
    exact List.mem_map_of_mem member
  exact List.mem_map.mp listed

end

/-! ### Blocks -/

/-- Blocks of one length, put one after the other, are a row. -/
theorem flatMap_blocks (blocks length : Nat) :
    ((List.range blocks).flatMap fun i => (List.range length).map fun j => i * length + j) =
      List.range (blocks * length) := by
  induction blocks with
  | zero => simp
  | succ blocks ih => rw [List.range_succ, List.flatMap_append, ih, List.flatMap_singleton, Nat.succ_mul, List.range_add]

theorem filter_range (n bound : Nat) : (List.range n).filter (· < bound) = List.range (min n bound) := by
  rw [← List.Ico.zero_bot, List.Ico.filter_lt, List.Ico.zero_bot]

/-- Of lists that are empty but for one, put one after the other, that one remains. -/
theorem flatMap_only (f : Nat → List α) {i n : Nat} (below : i < n) :
    ((List.range n).flatMap fun j => if j = i then f j else []) = f i := by
  induction n with
  | zero => omega
  | succ n ih =>
    rw [List.range_succ, List.flatMap_append, List.flatMap_singleton]
    by_cases last : i = n
    · have before : ((List.range n).flatMap fun j => if j = i then f j else []) = [] :=
        List.flatMap_eq_nil_iff.mpr fun j earlier => if_neg (by rw [List.mem_range] at earlier; omega)
      rw [before, if_pos last.symm, last, List.nil_append]
    · rw [ih (by omega), if_neg (by omega), List.append_nil]

theorem filter_only [DecidableEq α] {as : List α} {a : α} {keeps : α → Bool} (distinct : as.Nodup) (member : a ∈ as)
    (only : ∀ b ∈ as, keeps b = true ↔ b = a) : as.filter keeps = [a] := by
  have same : as.filter keeps = as.filter (· = a) :=
    List.filter_congr fun b listed => by rw [Bool.eq_iff_iff, only b listed, decide_eq_true_iff]
  rw [same, List.filter_eq, List.count_eq_one_of_mem distinct member, List.replicate_one]

end FabricTopology
