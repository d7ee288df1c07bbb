import FabricTopology.Proofs.Calendar
import FabricTopology.Proofs.Table
import FabricTopology.Store
import Mathlib.Order.Basic

/-!
Tables of records and what is written to them. Every record is written under its own id, new ones under ids
that were never used and at times after all others. So a table holds the last state written for each id
(`get?_writeAll`), and a listing by time gives the records in the order in which they were created, in
whatever order the rows are kept (`listed_eq`).
-/
namespace FabricTopology

/-- What is written to a table of records. -/
inductive Write (α : Type) where
  | created (id : String) (record : α)
  | changed (id : String) (record : α)
  | deleted (id : String)

namespace Write

variable {α : Type}

/-- What an id stands for after a write. -/
def state (id : String) (before : Option α) : Write α → Option α
  | created other record => if other = id then some record else before
  | changed other record => if other = id then some record else before
  | deleted other => if other = id then none else before

/-- The id that a write is about. -/
def id : Write α → String
  | created id _ | changed id _ | deleted id => id

/-- What a write leaves under its id. -/
def result : Write α → Option α
  | created _ record | changed _ record => some record
  | deleted _ => none

theorem state_id (w : Write α) (before : Option α) : w.state w.id before = w.result := by
  cases w <;> simp [state, id, result]

theorem state_of_ne {w : Write α} {id : String} (other : w.id ≠ id) (before : Option α) : w.state id before = before := by
  cases w <;> exact if_neg other

/-- What an id stands for after some writes: the last state written for it, and nothing after its deletion. -/
def lastState (id : String) (start : Option α) (writes : List (Write α)) : Option α := writes.foldl (state id) start

/-- Writes about other ids leave what an id stands for. -/
theorem lastState_of_ne {id : String} {writes : List (Write α)} (others : ∀ w ∈ writes, w.id ≠ id) (start : Option α) :
    lastState id start writes = start := by
  induction writes generalizing start with
  | nil => rfl
  | cons w rest ih =>
    rw [List.forall_mem_cons] at others
    rw [lastState, List.foldl_cons, state_of_ne others.1]
    exact ih others.2 start

def createdId? : Write α → Option String
  | created id _ => some id
  | changed _ _ => none
  | deleted _ => none

/-- The ids of the records that are created, in this order. -/
def createdIds (writes : List (Write α)) : List String := writes.filterMap createdId?

end Write

/-! ### Listings -/

namespace Store

theorem precedes_total (a b : Option Calendar.Timestamp × String) : (precedes a b || precedes b a) = true := by
  obtain ⟨_ | t, i⟩ := a
  · obtain ⟨_ | u, j⟩ := b
    · simpa [precedes] using String.le_total i j
    · simp [precedes]
  · obtain ⟨_ | u, j⟩ := b
    · simp [precedes]
    · simp only [precedes, Bool.or_eq_true, decide_eq_true_eq]
      rcases String.le_total i j with le | ge
      · by_cases later : u < t
        · exact .inr (.inl later)
        · exact .inl (.inr ⟨later, le⟩)
      · by_cases earlier : t < u
        · exact .inl (.inl earlier)
        · exact .inr (.inr ⟨earlier, ge⟩)

theorem precedes_trans {a b c : Option Calendar.Timestamp × String} (first : precedes a b = true)
    (second : precedes b c = true) : precedes a c = true := by
  obtain ⟨_ | t, i⟩ := a <;> obtain ⟨_ | u, j⟩ := b <;> obtain ⟨_ | v, k⟩ := c <;>
    simp only [precedes, decide_eq_true_eq, Bool.false_eq_true] at first second ⊢
  · exact String.le_trans first second
  · simp only [Calendar.Timestamp.lt_iff] at first second ⊢
    rcases first with early | ⟨early, le⟩
    · rcases second with late | ⟨late, _⟩
      · exact .inl (by omega)
      · exact .inl (by omega)
    · rcases second with late | ⟨late, le'⟩
      · exact .inl (by omega)
      · exact .inr ⟨by omega, String.le_trans le le'⟩

/-- Records that stand before each other have one id and were created at one time, if at any. -/
theorem id_eq_of_precedes {a b : Option Calendar.Timestamp × String} (before : precedes a b = true)
    (after : precedes b a = true) : a.2 = b.2 := by
  obtain ⟨_ | t, i⟩ := a <;> obtain ⟨_ | u, j⟩ := b <;>
    simp only [precedes, decide_eq_true_eq, Bool.false_eq_true] at before after ⊢
  · exact String.le_antisymm before after
  · simp only [Calendar.Timestamp.lt_iff] at before after
    have le : i ≤ j := by
      rcases before with early | ⟨_, le⟩
      · rcases after with late | ⟨late, _⟩ <;> omega
      · exact le
    have ge : j ≤ i := by
      rcases after with late | ⟨_, ge⟩
      · rcases before with early | ⟨early, _⟩ <;> omega
      · exact ge
    exact String.le_antisymm le ge

theorem pairwise_listed {α : Type} (createdAt : α → Option Calendar.Timestamp) (id : α → String)
    (records : List α) :
    (listed createdAt id records).Pairwise fun a b => precedes (createdAt a, id a) (createdAt b, id b) = true := by
  rw [listed]
  apply List.pairwise_mergeSort
  · exact fun _ _ _ => precedes_trans
  · exact fun _ _ => precedes_total _ _

theorem listed_perm {α : Type} (createdAt : α → Option Calendar.Timestamp) (id : α → String) (records : List α) :
    (listed createdAt id records).Perm records := List.mergeSort_perm _ _

end Store

/-! ### Tables -/

namespace Table

variable {α : Type}

/-- The table after a write. -/
def write (t : Table String α) : Write α → Table String α
  | .created id record => t.put id record
  | .changed id record => t.put id record
  | .deleted id => t.erase id

/-- The table after some writes. -/
def writeAll (t : Table String α) (writes : List (Write α)) : Table String α := writes.foldl write t

theorem get?_put (t : Table String α) (key other : String) (record : α) :
    (t.put key record).get? other = if key = other then some record else t.get? other := by
  by_cases same : key = other
  · rw [if_pos same, ← same, get?_put_self]
  · rw [if_neg same, get?_put_of_ne t (Ne.symm same)]

theorem get?_write (t : Table String α) (w : Write α) (id : String) :
    (t.write w).get? id = w.state id (t.get? id) := by
  cases w with
  | created other record => exact get?_put t other id record
  | changed other record => exact get?_put t other id record
  | deleted other =>
    by_cases same : other = id
    · rw [write, Write.state, if_pos same, ← same, get?_erase_self]
    · rw [write, Write.state, if_neg same, get?_erase_of_ne t (Ne.symm same)]

/-- A table holds the last state written for each id. -/
theorem get?_writeAll (t : Table String α) (writes : List (Write α)) (id : String) :
    (t.writeAll writes).get? id = Write.lastState id (t.get? id) writes := by
  induction writes generalizing t with
  | nil => rfl
  | cons w rest ih =>
    have later := ih (t.write w)
    rw [get?_write] at later
    exact later

end Table

section
variable {α : Type} (createdAt : α → Option Calendar.Timestamp) (id : α → String)

/-- A table of records, each under its own id, ids apart from one another and from those still to be given. -/
structure Filed (t : Table String α) (ids : List String) : Prop where
  own : ∀ r ∈ t, id r.2 = r.1
  apart : (t.keys ++ ids).Nodup

/-- A table of records as a store keeps it: each under its own id, ids apart from one another and from those that
    are still to be given, and in the order of their creation, before the moments that are still to come. -/
structure Kept (t : Table String α) (ids : List String) (moments : List Calendar.Timestamp) : Prop where
  own : ∀ r ∈ t, id r.2 = r.1
  apart : (t.keys ++ ids).Nodup
  aged : ∃ times, t.values.map createdAt = times.map some ∧ (times ++ moments).Pairwise (· < ·)

/-- A write as a call to a store makes it at some moment, with a fresh id at hand: a new record stands under that
    id and was created at that moment; a changed one keeps its id and the time of its creation. -/
inductive Lawful (t : Table String α) (freshId : String) (now : Calendar.Timestamp) : Write α → Prop where
  | created {record : α} (own : id record = freshId) (born : createdAt record = some now) :
      Lawful t freshId now (.created freshId record)
  | changed {key : String} {old record : α} (known : t.get? key = some old) (own : id record = id old)
      (born : createdAt record = createdAt old) : Lawful t freshId now (.changed key record)
  | deleted (key : String) : Lawful t freshId now (.deleted key)

end

/-- A write creates a record under the fresh id, or none. -/
theorem Lawful.createdIds {α : Type} {createdAt : α → Option Calendar.Timestamp} {id : α → String} {t : Table String α}
    {freshId : String} {now : Calendar.Timestamp} {w : Write α} (lawful : Lawful createdAt id t freshId now w) :
    (Write.createdIds [w]).Sublist [freshId] := by
  cases lawful with
  | created => exact List.Sublist.refl _
  | changed => exact List.nil_sublist _
  | deleted key => exact List.nil_sublist _

namespace Filed

variable {α : Type} {createdAt : α → Option Calendar.Timestamp} {id : α → String} {t : Table String α}
  {ids : List String}

theorem distinct (filed : Filed id t ids) : t.keys.Nodup := filed.apart.sublist (List.sublist_append_left _ _)

theorem keys_eq (filed : Filed id t ids) : t.keys = t.values.map id := by
  rw [Table.keys, Table.values, List.map_map]
  exact List.map_congr_left fun r member => (filed.own r member).symm

theorem id_of_get? (filed : Filed id t ids) {key : String} {record : α} (stands : t.get? key = some record) :
    id record = key := filed.own _ (Table.mem_of_get? stands)

theorem mem_values_iff (filed : Filed id t ids) {record : α} :
    record ∈ t.values ↔ t.get? (id record) = some record := by
  rw [Table.get?_eq_some_iff filed.distinct, Table.values, List.mem_map]
  constructor
  · rintro ⟨r, member, rfl⟩
    rwa [filed.own r member]
  · intro member
    exact ⟨_, member, rfl⟩

/-- No record stands under an id that is still to be given. -/
theorem missing {freshId : String} (filed : Filed id t (freshId :: ids)) : freshId ∉ t.keys :=
  fun member => (List.nodup_append.mp filed.apart).2.2 freshId member freshId List.mem_cons_self rfl

/-- Some ids are not used. -/
theorem fewer (filed : Filed id t ids) {rest : List String} (sub : rest.Sublist ids) : Filed id t rest :=
  ⟨filed.own, filed.apart.sublist (sub.append_left _)⟩

theorem write {freshId : String} {now : Calendar.Timestamp} (filed : Filed id t (freshId :: ids)) {w : Write α}
    (lawful : Lawful createdAt id t freshId now w) : Filed id (t.write w) ids := by
  have unused := filed.fewer (List.sublist_cons_self freshId ids)
  cases lawful with
  | created own =>
    rw [Table.write, Table.put_of_not_mem filed.missing]
    constructor
    · intro r member
      rcases List.mem_append.mp member with old | new
      · exact filed.own r old
      · rw [List.mem_singleton.mp new, own]
    · simpa [Table.keys] using filed.apart
  | @changed key old record known same =>
    have keys := Table.keys_put_of_mem t (Table.mem_keys_of_get? known) record
    constructor
    · intro r member
      rcases Table.mem_of_mem_put member with rfl | old'
      · exact same.trans (filed.id_of_get? known)
      · exact filed.own r old'
    · rw [Table.write, keys]
      exact unused.apart
  | deleted key =>
    have fewer := t.erase_sublist key
    constructor
    · intro r member
      exact filed.own r (fewer.subset member)
    · exact unused.apart.sublist ((fewer.map _).append_right _)

end Filed

namespace Kept

variable {α : Type} {createdAt : α → Option Calendar.Timestamp} {id : α → String} {t : Table String α}
  {ids : List String} {moments : List Calendar.Timestamp}

theorem filed (kept : Kept createdAt id t ids moments) : Filed id t ids := ⟨kept.own, kept.apart⟩

/-- Every record was created before the moments that are still to come. -/
theorem born {now : Calendar.Timestamp} (kept : Kept createdAt id t ids (now :: moments)) {key : String} {record : α}
    (stands : t.get? key = some record) : ∃ c, createdAt record = some c ∧ c < now := by
  obtain ⟨times, born, ordered⟩ := kept.aged
  have member : createdAt record ∈ t.values.map createdAt :=
    List.mem_map_of_mem (List.mem_map_of_mem (Table.mem_of_get? stands))
  rw [born] at member
  obtain ⟨c, time, same⟩ := List.mem_map.mp member
  exact ⟨c, same.symm, (List.pairwise_append.mp ordered).2.2 c time now List.mem_cons_self⟩

/-- A moment passes and an id is not used. -/
theorem skip {freshId : String} {now : Calendar.Timestamp}
    (kept : Kept createdAt id t (freshId :: ids) (now :: moments)) :
    Kept createdAt id t ids moments where
  own := kept.own
  apart := (kept.filed.fewer (List.sublist_cons_self _ _)).apart
  aged := by
    obtain ⟨times, born, ordered⟩ := kept.aged
    exact ⟨times, born, ordered.sublist ((List.sublist_cons_self _ _).append_left _)⟩

theorem write {freshId : String} {now : Calendar.Timestamp}
    (kept : Kept createdAt id t (freshId :: ids) (now :: moments))
    {w : Write α} (lawful : Lawful createdAt id t freshId now w) : Kept createdAt id (t.write w) ids moments := by
  have filed := kept.filed.write lawful
  obtain ⟨times, born, ordered⟩ := kept.aged
  refine ⟨filed.own, filed.apart, ?_⟩
  cases lawful with
  | created own now' =>
    rw [Table.write, Table.put_of_not_mem kept.filed.missing]
    exact ⟨times ++ [now], by simpa [Table.values, now'] using born, by simpa using ordered⟩
  | @changed key old record known same sameTime =>
    refine ⟨times, ?_, ordered.sublist ((List.sublist_cons_self _ _).append_left _)⟩
    rw [← born, Table.values, Table.values, List.map_map, List.map_map]
    exact Table.map_put _ known sameTime
  | deleted key =>
    have fewer := t.erase_sublist key
    obtain ⟨left, sub, same⟩ := List.sublist_map_iff.mp (born ▸ (fewer.map Prod.snd).map createdAt)
    exact ⟨left, same, ordered.sublist (sub.append (List.sublist_cons_self _ _))⟩

/-- A write adds at most the key of a new record, at the end. -/
theorem keys_write {freshId : String} {now : Calendar.Timestamp}
    (kept : Kept createdAt id t (freshId :: ids) (now :: moments)) {w : Write α}
    (lawful : Lawful createdAt id t freshId now w) : (t.write w).keys.Sublist (t.keys ++ Write.createdIds [w]) := by
  cases lawful with
  | created =>
    rw [Table.write, Table.keys_put_of_not_mem t kept.filed.missing]
    exact List.Sublist.refl _
  | changed known =>
    rw [Table.write, Table.keys_put_of_mem t (Table.mem_keys_of_get? known)]
    exact List.sublist_append_left _ _
  | deleted key =>
    exact ((t.erase_sublist key).map _).trans (List.sublist_append_left _ _)

/-- The records of a table stand in the order of a listing. -/
theorem pairwise_precedes (kept : Kept createdAt id t ids moments) :
    t.values.Pairwise fun a b => Store.precedes (createdAt a, id a) (createdAt b, id b) = true := by
  obtain ⟨times, born, ordered⟩ := kept.aged
  have rising : (times.map some).Pairwise fun c d : Option Calendar.Timestamp =>
      ∃ t u, c = some t ∧ d = some u ∧ t < u :=
    List.pairwise_map.mpr ((List.pairwise_append.mp ordered).1.imp fun early => ⟨_, _, rfl, rfl, early⟩)
  rw [← born] at rising
  refine (List.pairwise_map.mp rising).imp fun {a b} early => ?_
  obtain ⟨t, u, left, right, earlier⟩ := early
  simp [Store.precedes, left, right, earlier]

/-- A listing gives the records in the order of their creation, in whatever order the rows are kept. -/
theorem listed_eq (kept : Kept createdAt id t ids moments) {rows : Table String α} (perm : rows.Perm t) :
    Store.listed createdAt id rows.values = t.values := by
  have sorted : (Store.listed createdAt id rows.values).Perm t.values :=
    (Store.listed_perm _ _ _).trans (perm.map Prod.snd)
  refine List.Perm.eq_of_pairwise ?_ (Store.pairwise_listed createdAt id rows.values) kept.pairwise_precedes sorted
  intro a b listed member before after
  have here := kept.filed.mem_values_iff.mp (sorted.mem_iff.mp listed)
  have there := kept.filed.mem_values_iff.mp member
  rw [show id a = id b from Store.id_eq_of_precedes before after, there] at here
  exact (Option.some.inj here).symm

end Kept

end FabricTopology
