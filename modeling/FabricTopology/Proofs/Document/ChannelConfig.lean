import FabricTopology.Document.ChannelConfig
import FabricTopology.Yaml.Tree

/-!
Parts of a document by the way to them, as a reader of the document finds them: from a mapping to the
value of a key, from a sequence to an item. In the channel's document such ways lead to the definitions of
organizations and to the anchor peers they name. The orderers' organization is defined first, if there are orderers, and
names none.
-/
namespace FabricTopology.Yaml

/-- One step from a tree to a part of it. -/
inductive Step where
  | key (name : String)
  | item (index : Nat)

namespace Tree

/-- The value of an entry with the given name. -/
def valueOf? (name : String) : Tree × Tree → Option Tree
  | (str s, value) => if s = name then some value else none
  | _ => none

/-- The part of a tree that is one step away. -/
def step? (t : Tree) : Step → Option Tree
  | .key name =>
    match t with
    | map entries => entries.findSome? (valueOf? name)
    | _ => none
  | .item index =>
    match t with
    | seq items => items[index]?
    | _ => none

/-- The part of a tree at the end of a way. -/
def at? (t : Tree) : List Step → Option Tree
  | [] => some t
  | s :: rest => (t.step? s).bind fun part => part.at? rest

@[simp] theorem at?_nil (t : Tree) : t.at? [] = some t := rfl

@[simp] theorem at?_cons (t : Tree) (s : Step) (rest : List Step) :
    t.at? (s :: rest) = (t.step? s).bind fun part => part.at? rest := rfl

@[simp] theorem step?_item (items : List Tree) (i : Nat) : (seq items).step? (.item i) = items[i]? := rfl

/-- A key of a mapping made of fields. -/
theorem step?_key (fields : List (String × Tree)) (name : String) :
    (ofFields fields).step? (.key name) = Table.get? fields name := by
  show (fields.map _).findSome? _ = _
  induction fields with
  | nil => rfl
  | cons f rest ih =>
    by_cases same : f.1 = name
    · simp [Table.get?, valueOf?, same]
    · simpa [Table.get?, valueOf?, same] using ih

@[simp] theorem step?_key_cons (key : String) (value : Tree) (rest : List (String × Tree)) (name : String) :
    (ofFields ((key, value) :: rest)).step? (.key name) =
      if key = name then some value else (ofFields rest).step? (.key name) := by
  by_cases same : key = name
  · simp [step?_key, Table.get?, same]
  · simp [step?_key, Table.get?, same]

end Tree

end FabricTopology.Yaml

namespace FabricTopology.Document
open FabricTopology.Yaml

/-- The place of the first definition that is not the orderers'. -/
def firstDefinition (orderers : List OrdererProfile) : Nat := if orderers.isEmpty then 0 else 1

theorem ordererEndpoint_eq (domain : String) (o : OrdererProfile) :
    Naming.ordererEndpoint o.index domain = o.host domain ++ ":7050" := by
  rw [Naming.ordererEndpoint, Naming.address, String.append_assoc]
  rfl

section
variable (name channel : String) (consensus : Consensus) (organizations : List OrgProfile)
  (orderers : List OrdererProfile)

theorem channelConfig_item (i : Nat) (way : List Step) :
    (channelConfig name consensus channel organizations orderers).at? (.key "Organizations" :: .item i :: way) =
      (definitions (Naming.ordererDomain name) organizations orderers)[i]?.bind (·.at? way) := by
  simp [channelConfig]

theorem getElem?_definitions (domain : String) (j : Nat) :
    (definitions domain organizations orderers)[firstDefinition orderers + j]? =
      organizations[j]?.map orgDefinition := by
  cases orderers with
  | nil => simp [definitions, firstDefinition]
  | cons first rest => simp [definitions, firstDefinition, Nat.add_comm 1 j]

/-- What stands in the definition of an organization. -/
theorem channelConfig_definition (j : Nat) (way : List Step) :
    (channelConfig name consensus channel organizations orderers).at?
        (.key "Organizations" :: .item (firstDefinition orderers + j) :: way) =
      organizations[j]?.bind fun o => (orgDefinition o).at? way := by
  rw [channelConfig_item, getElem?_definitions, Option.bind_map]
  rfl

theorem orgDefinition_anchors (o : OrgProfile) (k : Nat) :
    (orgDefinition o).at? [.key "AnchorPeers", .item k, .key "Host"] = o.anchorPeers[k]?.map fun a => .str a.host := by
  cases stands : o.anchorPeers[k]? <;> simp [orgDefinition, stands]

/-- The anchor peers that the document names, organization by organization. -/
theorem channelConfig_anchors (i k : Nat) (host : String) :
    (channelConfig name consensus channel organizations orderers).at?
        [.key "Organizations", .item i, .key "AnchorPeers", .item k, .key "Host"] = some (.str host) ↔
      ∃ j o a, i = firstDefinition orderers + j ∧ organizations[j]? = some o ∧ o.anchorPeers[k]? = some a ∧
        host = a.host := by
  constructor
  · intro stands
    by_cases early : i < firstDefinition orderers
    · -- Only the definition of the orderers' organization stands before the others.
      rw [channelConfig_item] at stands
      cases orderers with
      | nil => exact absurd early (by simp [firstDefinition])
      | cons first rest =>
        obtain rfl : i = 0 := by simpa [firstDefinition] using early
        simp [definitions, ordererOrgDefinition, Tree.step?_key, Table.get?] at stands
    · obtain ⟨j, rfl⟩ := Nat.exists_eq_add_of_le (Nat.le_of_not_lt early)
      rw [channelConfig_definition, Option.bind_eq_some_iff] at stands
      obtain ⟨o, member, anchor⟩ := stands
      rw [orgDefinition_anchors, Option.map_eq_some_iff] at anchor
      obtain ⟨a, listed, same⟩ := anchor
      exact ⟨j, o, a, rfl, member, listed, (Tree.str.inj same).symm⟩
  · rintro ⟨j, o, a, rfl, member, listed, rfl⟩
    rw [channelConfig_definition, member, Option.bind_some, orgDefinition_anchors, listed, Option.map_some]

end

end FabricTopology.Document
