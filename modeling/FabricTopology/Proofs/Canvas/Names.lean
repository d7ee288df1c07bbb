import FabricTopology.Proofs.Canvas.Neighbors
import FabricTopology.Proofs.Decimal
import Mathlib.Data.List.Nodup

/-!
The names of organizations on a canvas. A label gives the name, and where it is blank the position does. So
organizations with different labels still have the same name if one's label is the name of a blank one's
position, and only then (`nodup_names_iff`).
-/
namespace FabricTopology

/-- In a list without repetitions every element has one place. -/
theorem nodup_iff_places {α : Type} {l : List α} :
    l.Nodup ↔ ∀ (i j : Nat) (x : α), l[i]? = some x → l[j]? = some x → i = j := by
  rw [List.nodup_iff_getElem?_ne_getElem?]
  constructor
  · intro apart i j x left right
    have below := (List.getElem?_eq_some_iff.mp left).1
    have beyond := (List.getElem?_eq_some_iff.mp right).1
    rcases Nat.lt_trichotomy i j with before | same | after
    · exact absurd (left.trans right.symm) (apart i j before beyond)
    · exact same
    · exact absurd (right.trans left.symm) (apart j i after below)
  · intro unique i j before bound same
    have stands := List.getElem?_eq_getElem bound
    exact absurd (unique i j _ (same.trans stands) stands) (Nat.ne_of_lt before)

/-- The label without white space around it. -/
def Node.trimmed (node : Node) : List Char := Text.trim node.label.toList

namespace Canvas

/-- No two organizations of the canvas have the same label, blank ones apart. -/
def LabelsDiffer (c : Canvas) : Prop :=
  (c.nodesOf .organization).Pairwise fun a b => a.trimmed ≠ [] → a.trimmed ≠ b.trimmed

/-- The name of a position among the organizations. -/
def positionName (i : Nat) : String := "Org" ++ toString (i + 1)

/-- No label of an organization is the name of a blank one's position. -/
def PositionsFree (c : Canvas) : Prop :=
  ∀ i a b, (c.nodesOf .organization)[i]? = some a → b ∈ c.nodesOf .organization → a.trimmed = [] →
    b.trimmed ≠ (positionName i).toList

theorem organizationName_of_blank {node : Node} (blank : node.trimmed = []) (i : Nat) :
    organizationName i node.label = positionName i := by
  rw [Node.trimmed] at blank
  rw [organizationName, blank, positionName]

theorem organizationName_of_label {node : Node} (labelled : node.trimmed ≠ []) (i : Nat) :
    organizationName i node.label = String.ofList node.trimmed := by
  rw [Node.trimmed] at labelled ⊢
  obtain ⟨c, rest, label⟩ := List.exists_cons_of_ne_nil labelled
  rw [organizationName, label]

/-- The name of a position tells the position. -/
theorem positionName_inj {i j : Nat} (same : positionName i = positionName j) : i = j :=
  Nat.succ.inj (Decimal.numbered_inj same)

theorem organizationOf_name (position : Nat) (node : Node) (peers : List Node) :
    (organizationOf position node peers).name = organizationName position node.label := by
  by_cases lone : peers.isEmpty <;> simp [organizationOf, lone, Organization.named]

/-- Organizations of a canvas leave their membership providers to their names. -/
theorem organizationOf_mspId (position : Nat) (node : Node) (peers : List Node) :
    (organizationOf position node peers).mspId = "" := by
  by_cases lone : peers.isEmpty <;> simp [organizationOf, lone, Organization.named]

theorem getElem?_names (c : Canvas) (i : Nat) :
    (c.entities.organizations.map (·.name))[i]? =
      (c.nodesOf .organization)[i]?.map fun node => organizationName i node.label := by
  rw [entities_eq, List.getElem?_map, List.getElem?_mapIdx, Option.map_map]
  exact congrArg (fun f => Option.map f _) (funext fun node => organizationOf_name i node _)

/-- Organizations with the same label have the same place. -/
theorem LabelsDiffer.place_eq {c : Canvas} (differ : c.LabelsDiffer) {i j : Nat} {a b : Node}
    (left : (c.nodesOf .organization)[i]? = some a) (right : (c.nodesOf .organization)[j]? = some b)
    (labelled : a.trimmed ≠ []) (same : a.trimmed = b.trimmed) : i = j := by
  obtain ⟨below, rfl⟩ := List.getElem?_eq_some_iff.mp left
  obtain ⟨beyond, rfl⟩ := List.getElem?_eq_some_iff.mp right
  rcases Nat.lt_trichotomy i j with before | equal | after
  · exact absurd same (List.pairwise_iff_getElem.mp differ i j below beyond before labelled)
  · exact equal
  · exact absurd same.symm (List.pairwise_iff_getElem.mp differ j i beyond below after (same ▸ labelled))

/-- Where labels differ, names differ exactly if no label is the name of a position. -/
theorem nodup_names_iff {c : Canvas} (differ : c.LabelsDiffer) :
    (c.entities.organizations.map (·.name)).Nodup ↔ c.PositionsFree := by
  simp only [nodup_iff_places, getElem?_names, Option.map_eq_some_iff]
  constructor
  · intro unique i a b stands member blank taken
    obtain ⟨j, place⟩ := List.mem_iff_getElem?.mp member
    have labelled : b.trimmed ≠ [] := by simp [taken, positionName]
    have same : organizationName j b.label = positionName i := by
      rw [organizationName_of_label labelled, taken, String.ofList_toList]
    obtain rfl := unique i j _ ⟨a, stands, organizationName_of_blank blank i⟩ ⟨b, place, same⟩
    -- One node would be blank and labelled.
    obtain rfl := Option.some.inj (stands.symm.trans place)
    exact labelled blank
  · rintro free i j name ⟨a, left, rfl⟩ ⟨b, right, same⟩
    by_cases first : a.trimmed = [] <;> by_cases second : b.trimmed = []
    · rw [organizationName_of_blank first, organizationName_of_blank second] at same
      exact (positionName_inj same).symm
    · rw [organizationName_of_blank first, organizationName_of_label second] at same
      have taken : b.trimmed = (positionName i).toList := by rw [← same, String.toList_ofList]
      exact absurd taken (free i a b left (List.mem_of_getElem? right) first)
    · rw [organizationName_of_label first, organizationName_of_blank second] at same
      have taken : a.trimmed = (positionName j).toList := by rw [same, String.toList_ofList]
      exact absurd taken (free j b a right (List.mem_of_getElem? left) second)
    · rw [organizationName_of_label first, organizationName_of_label second] at same
      exact differ.place_eq left right first (String.ofList_injective same).symm

end Canvas

end FabricTopology
