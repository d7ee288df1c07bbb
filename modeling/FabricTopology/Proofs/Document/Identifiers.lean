import FabricTopology.Proofs.Canvas.Names
import FabricTopology.Proofs.Document.ChannelConfig
import FabricTopology.Proofs.Naming
import FabricTopology.Proofs.Topology
import Mathlib.Logic.ExistsUnique

/-!
The identifiers that the channel's document defines: the orderers' one, if there are orderers, and one for
each organization. No two of them are the same exactly if every reference of the profiles names one definition
only (`uniqueIds_iff_resolve`). Organizations that were given different names still share an identifier where
one is named like the orderers' organization, or like a blank one is named for its position (`uniqueIds_iff`).
-/
namespace FabricTopology

namespace Document
open FabricTopology.Yaml

/-! ### What the document defines -/

/-- The identifiers of the definitions, in their order. -/
def definedIds (organizations : List OrgProfile) (orderers : List OrdererProfile) : List String :=
  (if orderers.isEmpty then [] else [Naming.ordererMspId]) ++ organizations.map (·.mspId)

/-- No two definitions have the same identifier. -/
def UniqueIds (config : Tree) : Prop :=
  ∀ i j id, config.at? [.key "Organizations", .item i, .key "ID"] = some (.str id) →
    config.at? [.key "Organizations", .item j, .key "ID"] = some (.str id) → i = j

/-- The ways to the lists of references in the profiles of a channel. -/
def referenceLists (channel : String) : List (List Step) :=
  [[.key "Profiles", .key (channel ++ "Genesis"), .key "Orderer", .key "Organizations"],
    [.key "Profiles", .key (channel ++ "Genesis"), .key "Application", .key "Organizations"],
    [.key "Profiles", .key (channel ++ "Channel"), .key "Application", .key "Organizations"]]

/-- The definition at a place has this name and this identifier. -/
def Defines (config : Tree) (i : Nat) (name id : String) : Prop :=
  config.at? [.key "Organizations", .item i, .key "Name"] = some (.str name) ∧
    config.at? [.key "Organizations", .item i, .key "ID"] = some (.str id)

/-- Every reference of the profiles names exactly one definition. -/
def ReferencesResolve (config : Tree) (channel : String) : Prop :=
  ∀ way ∈ referenceLists channel, ∀ k r, config.at? (way ++ [.item k]) = some r →
    ∃ name id, r = .ofFields [("Name", .str name), ("ID", .str id)] ∧ ∃! i, Defines config i name id

section
variable (name channel : String) (consensus : Consensus) (organizations : List OrgProfile)
  (orderers : List OrdererProfile)

/-- A definition has its identifier for a name. -/
theorem definitions_text (domain : String) {key : String} (known : key = "Name" ∨ key = "ID") :
    (definitions domain organizations orderers).map (fun d => d.at? [.key key]) =
      (definedIds organizations orderers).map fun id => some (.str id) := by
  rw [definitions, definedIds, List.map_append, List.map_append, List.map_map, List.map_map]
  rcases known with rfl | rfl <;> cases orderers <;> simp [orgDefinition, ordererOrgDefinition]

theorem config_text (i : Nat) {key : String} (known : key = "Name" ∨ key = "ID") :
    (channelConfig name consensus channel organizations orderers).at? [.key "Organizations", .item i, .key key] =
      (definedIds organizations orderers)[i]?.map .str := by
  have row := congrArg (·[i]?) (definitions_text organizations orderers (Naming.ordererDomain name) known)
  simp only [List.getElem?_map] at row
  rw [channelConfig_item]
  cases stands : (definedIds organizations orderers)[i]? with
  | none =>
    rw [stands, Option.map_none, Option.map_eq_none_iff] at row
    rw [row, Option.bind_none, Option.map_none]
  | some id =>
    rw [stands, Option.map_some, Option.map_eq_some_iff] at row
    obtain ⟨d, defined, text⟩ := row
    rw [defined, Option.bind_some, text, Option.map_some]

theorem config_id {i : Nat} {id : String} :
    (channelConfig name consensus channel organizations orderers).at? [.key "Organizations", .item i, .key "ID"] =
      some (.str id) ↔ (definedIds organizations orderers)[i]? = some id := by
  simp [config_text name channel consensus organizations orderers i (.inr rfl)]

theorem defines_iff {i : Nat} {bearing id : String} :
    Defines (channelConfig name consensus channel organizations orderers) i bearing id ↔
      bearing = id ∧ (definedIds organizations orderers)[i]? = some id := by
  rw [Defines, config_id, config_text name channel consensus organizations orderers i (.inl rfl)]
  constructor
  · rintro ⟨named, defined⟩
    simp only [defined, Option.map_some, Option.some.injEq, Tree.str.injEq] at named
    exact ⟨named.symm, defined⟩
  · rintro ⟨rfl, defined⟩
    exact ⟨by rw [defined, Option.map_some], defined⟩

theorem uniqueIds_iff_nodup :
    UniqueIds (channelConfig name consensus channel organizations orderers) ↔
      (definedIds organizations orderers).Nodup := by
  simp only [UniqueIds, config_id, nodup_iff_places]

/-- The profiles refer to what is defined, and to nothing else. -/
theorem config_reference (r : Tree) :
    (∃ way ∈ referenceLists channel, ∃ k : Nat,
      (channelConfig name consensus channel organizations orderers).at? (way ++ [.item k]) = some r) ↔
      ∃ id ∈ definedIds organizations orderers, r = reference id := by
  have other : channel ++ "Genesis" ≠ channel ++ "Channel" := by simp
  simp only [definedIds, List.mem_append, List.mem_map, or_and_right, exists_or]
  constructor
  · rintro ⟨way, list, k, stands⟩
    simp only [referenceLists, List.mem_cons, List.not_mem_nil, or_false] at list
    -- The first list refers to the orderers, the other two to the organizations.
    rcases list with rfl | rfl | rfl
    · cases orderers with
      | nil => simp [channelConfig, genesisProfile] at stands
      | cons first rest =>
        have alone : k = 0 ∧ reference Naming.ordererMspId = r := by
          simpa [channelConfig, genesisProfile, List.getElem?_cons, List.getElem?_nil] using stands
        exact .inl ⟨Naming.ordererMspId, by simp, alone.2.symm⟩
    iterate 2
      · simp [channelConfig, genesisProfile, channelProfile, orgReferences, other] at stands
        obtain ⟨o, member, rfl⟩ := stands
        exact .inr ⟨o.mspId, ⟨o, List.mem_of_getElem? member, rfl⟩, rfl⟩
  · rintro (⟨id, member, rfl⟩ | ⟨id, ⟨o, member, rfl⟩, rfl⟩)
    · cases orderers with
      | nil => cases member
      | cons first rest =>
        obtain rfl : id = Naming.ordererMspId := by simpa using member
        exact ⟨_, List.mem_cons_self, 0, by simp [channelConfig, genesisProfile]⟩
    · obtain ⟨k, stands⟩ := List.mem_iff_getElem?.mp member
      refine ⟨_, List.mem_cons_of_mem _ List.mem_cons_self, k, ?_⟩
      simp [channelConfig, genesisProfile, orgReferences, stands]

/-- No identifier is defined twice exactly if every reference names one definition only. -/
theorem uniqueIds_iff_resolve :
    UniqueIds (channelConfig name consensus channel organizations orderers) ↔
      ReferencesResolve (channelConfig name consensus channel organizations orderers) channel := by
  have refers := config_reference name channel consensus organizations orderers
  constructor
  · intro unique way list k r stands
    obtain ⟨id, defined, rfl⟩ := (refers r).mp ⟨way, list, k, stands⟩
    obtain ⟨i, place⟩ := List.mem_iff_getElem?.mp defined
    refine ⟨id, id, rfl, i, (defines_iff ..).mpr ⟨rfl, place⟩, ?_⟩
    intro j same
    exact unique j i id same.2 ((config_id ..).mpr place)
  · intro resolve i j id left right
    have first := (config_id ..).mp left
    have second := (config_id ..).mp right
    obtain ⟨way, list, k, stands⟩ := (refers (reference id)).mpr ⟨id, List.mem_of_getElem? first, rfl⟩
    obtain ⟨bearing, own, same, one⟩ := resolve way list k _ stands
    obtain ⟨rfl, rfl⟩ : id = bearing ∧ id = own := by simpa [reference, Tree.ofFields] using same
    exact one.unique ((defines_iff ..).mpr ⟨rfl, first⟩) ((defines_iff ..).mpr ⟨rfl, second⟩)

end

end Document

/-! ### Identifiers of a network -/

namespace Network

/-- No two organizations were given the same name. The records leave their membership providers to it. -/
def GivenNamesDiffer (n : Network) : Prop :=
  match n.source with
  | .canvas c => c.LabelsDiffer
  | .records e => (e.organizations.map (·.name)).Nodup ∧ ∀ o ∈ e.organizations, o.mspId = ""

/-- No organization was given the name that a blank one has for its position. -/
def PositionsFree (n : Network) : Prop :=
  match n.source with
  | .canvas c => c.PositionsFree
  | .records _ => True

variable {n : Network}

theorem GivenNamesDiffer.nodup_names_iff (given : n.GivenNamesDiffer) :
    (n.source.entities.organizations.map (·.name)).Nodup ↔ n.PositionsFree := by
  rw [GivenNamesDiffer] at given
  rw [PositionsFree]
  cases source : n.source with
  | canvas c =>
    rw [source] at given
    exact Canvas.nodup_names_iff given
  | records e =>
    rw [source] at given
    exact iff_of_true given.1 trivial

theorem GivenNamesDiffer.mspId_eq (given : n.GivenNamesDiffer) {o : Organization}
    (member : o ∈ n.source.entities.organizations) : o.resolvedMspId = Naming.defaultMspId o.name := by
  suffices o.mspId = "" by rw [Organization.resolvedMspId, if_pos this]
  rw [GivenNamesDiffer] at given
  cases source : n.source with
  | canvas c =>
    rw [source] at member
    obtain ⟨i, bound, rfl⟩ := List.mem_mapIdx.mp member
    exact Canvas.organizationOf_mspId _ _ _
  | records e =>
    rw [source] at given member
    exact given.2 o member

/-- Identifiers follow from names, the orderers' one from the name `Orderer`. -/
theorem GivenNamesDiffer.definedIds_eq (given : n.GivenNamesDiffer) (orderers : List OrdererProfile) :
    Document.definedIds (Topology.ofNetwork n).organizations orderers =
      ((if orderers.isEmpty then [] else ["Orderer"]) ++ (Topology.ofNetwork n).organizations.map (·.name)).map
        Naming.defaultMspId := by
  have ids : (Topology.ofNetwork n).organizations.map (·.mspId) =
      ((Topology.ofNetwork n).organizations.map (·.name)).map Naming.defaultMspId := by
    rw [Topology.names_ofNetwork, Topology.organizations_ofNetwork, List.map_map, List.map_map]
    exact List.map_congr_left fun o member => given.mspId_eq member
  rw [Document.definedIds, ids, List.map_append]
  cases orderers <;> rfl

end Network

namespace Document

/-- Where no two organizations were given the same name, no identifier is defined twice, and every reference names
    one definition only, exactly if no name is that of a position and none is that of the orderers. -/
theorem uniqueIds_iff (n : Network) (given : n.GivenNamesDiffer) :
    let t := Topology.ofNetwork n
    let config := channelConfig t.networkName t.consensus t.channelName t.organizations t.orderers
    (UniqueIds config ↔ ReferencesResolve config t.channelName) ∧
    (UniqueIds config ↔ n.PositionsFree ∧ (t.orderers ≠ [] → ∀ o ∈ t.organizations, o.name ≠ "Orderer")) := by
  intro t config
  refine ⟨uniqueIds_iff_resolve _ _ _ _ _, ?_⟩
  rw [uniqueIds_iff_nodup, given.definedIds_eq, List.nodup_map_iff fun _ _ => Naming.defaultMspId_inj,
    ← given.nodup_names_iff, ← Topology.names_ofNetwork]
  cases t.orderers with
  | nil => simp
  | cons first rest =>
    simp only [List.isEmpty_cons, Bool.false_eq_true, if_false, List.singleton_append, List.nodup_cons, List.mem_map,
      not_exists, not_and, ne_eq, reduceCtorEq, not_false_eq_true, true_implies]
    exact and_comm

/-- A network with organizations of these labels on its canvas, and an orderer. -/
def labelled (labels : List String) : Network :=
  { Network.named "net" with
    nodes := labels.mapIdx (fun i label => ⟨toString i, .organization, label, none, .origin⟩) ++
      [⟨"orderer", .orderer, "orderer", none, .origin⟩] }

instance (labels : List String) : Decidable (labelled labels).GivenNamesDiffer :=
  inferInstanceAs (Decidable (List.Pairwise _ _))

/-- The channel's document of such a network. -/
def labelledConfig (labels : List String) : Yaml.Tree :=
  let t := Topology.ofNetwork (labelled labels)
  channelConfig t.networkName t.consensus t.channelName t.organizations t.orderers

theorem uniqueIds_labelled :
    (labelled ["Org1", " Acme ", "", ""]).GivenNamesDiffer ∧ UniqueIds (labelledConfig ["Org1", " Acme ", "", ""]) := by
  have given : (labelled ["Org1", " Acme ", "", ""]).GivenNamesDiffer := by decide +kernel
  exact ⟨given, (uniqueIds_iff _ given).2.mpr ⟨given.nodup_names_iff.mp (by decide +kernel), by decide +kernel⟩⟩

/-- Labels that differ, one of which is the name of a position or that of the orderers. -/
theorem ids_repeated :
    ((labelled ["Org2", ""]).GivenNamesDiffer ∧ ¬ UniqueIds (labelledConfig ["Org2", ""])) ∧
    (labelled ["Org1", "Orderer"]).GivenNamesDiffer ∧ ¬ UniqueIds (labelledConfig ["Org1", "Orderer"]) := by
  simp only [labelledConfig, uniqueIds_iff_nodup]
  decide +kernel

end Document

end FabricTopology
