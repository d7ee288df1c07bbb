import FabricTopology.Proofs.Document.Identifiers
import FabricTopology.Proofs.Lists
import FabricTopology.Proofs.Table

/-!
The lists of the channel's document that stand for one another. Its definitions, the references of its profiles,
the endpoints of its orderers and the voices in their agreement are made apart, each in a pass of its own over
organizations or orderers; read back from the document they agree position by position (`profiles_refer`).
-/
namespace FabricTopology

namespace Yaml.Tree

/-- What every item of a sequence is read as, if there is a sequence at the end of the way. -/
def listAt? {α : Type} (read : Tree → Option α) (t : Tree) (way : List Step) : Option (List α) :=
  match t.at? way with
  | some (seq items) => items.mapM read
  | _ => none

/-- The text of a tree that is nothing else. -/
def text? : Tree → Option String
  | str s => some s
  | _ => none

/-- The value of a key that is a text. -/
def textOf? (name : String) (t : Tree) : Option String := (t.step? (.key name)).bind text?

variable {α β : Type} {read : Tree → Option α}

/-- What is read from a sequence that was made item by item. -/
theorem listAt?_of_map {t : Tree} {way : List Step} {make : β → Tree} {value : β → α} {source : List β}
    (stands : t.at? way = some (seq (source.map make))) (each : ∀ b, read (make b) = some (value b)) :
    t.listAt? read way = some (source.map value) := by
  rw [listAt?, stands]
  apply mapM_eq_some_iff.mpr
  rw [List.map_map, List.map_map]
  exact List.map_congr_left fun b _ => each b

end Yaml.Tree

namespace Document
open FabricTopology.Yaml

/-- The name and the identifier in a definition or a reference. -/
def pair? (t : Tree) : Option (String × String) := do
  let name ← t.textOf? "Name"
  let id ← t.textOf? "ID"
  return (name, id)

/-- What the profiles of a channel refer to are the definitions: the orderers' first, then all others. -/
structure ProfilesRefer (config : Tree) (channel : String) (orderers others : List (String × String)) : Prop where
  definitions : config.listAt? pair? [.key "Organizations"] = some (orderers ++ others)
  genesisOrderers : config.listAt? pair?
    [.key "Profiles", .key (channel ++ "Genesis"), .key "Orderer", .key "Organizations"] = some orderers
  genesisApplication : config.listAt? pair?
    [.key "Profiles", .key (channel ++ "Genesis"), .key "Application", .key "Organizations"] = some others
  channelApplication : config.listAt? pair?
    [.key "Profiles", .key (channel ++ "Channel"), .key "Application", .key "Organizations"] = some others

theorem pair?_reference (id : String) : pair? (reference id) = some (id, id) := by
  simp [pair?, reference, Tree.textOf?, Tree.text?]

theorem pair?_orgDefinition (o : OrgProfile) : pair? (orgDefinition o) = some (o.mspId, o.mspId) := by
  simp [pair?, orgDefinition, Tree.textOf?, Tree.text?]

theorem pair?_ordererOrgDefinition (domain : String) (orderers : List OrdererProfile) :
    pair? (ordererOrgDefinition domain orderers) = some (Naming.ordererMspId, Naming.ordererMspId) := by
  simp [pair?, ordererOrgDefinition, Tree.textOf?, Tree.text?]

theorem textOf?_consenter (domain : String) (o : OrdererProfile) :
    (consenter domain o).textOf? "Host" = some (o.host domain) := by
  simp [consenter, Tree.textOf?, Tree.text?]

section
variable (name channel : String) (consensus : Consensus) (organizations : List OrgProfile)
  (orderers : List OrdererProfile)

theorem profilesRefer :
    ProfilesRefer (channelConfig name consensus channel organizations orderers) channel
      (if orderers.isEmpty then [] else [(Naming.ordererMspId, Naming.ordererMspId)])
      (organizations.map fun o => (o.mspId, o.mspId)) := by
  have other : channel ++ "Genesis" ≠ channel ++ "Channel" := by simp
  have organizationReferences (o : OrgProfile) : pair? (reference o.mspId) = some (o.mspId, o.mspId) :=
    pair?_reference o.mspId
  refine ⟨?_, ?_, ?_, ?_⟩
  · have stands : (channelConfig name consensus channel organizations orderers).at? [.key "Organizations"] =
        some (.seq (definitions (Naming.ordererDomain name) organizations orderers)) := by
      simp [channelConfig]
    rw [Tree.listAt?, stands]
    apply mapM_eq_some_iff.mpr
    have others : (organizations.map orgDefinition).map pair? =
        (organizations.map fun o => (o.mspId, o.mspId)).map some := by
      rw [List.map_map, List.map_map]
      exact List.map_congr_left fun o _ => pair?_orgDefinition o
    rw [definitions, List.map_append, List.map_append, others]
    cases orderers with
    | nil => rfl
    | cons first rest => exact congrArg (· :: _) (pair?_ordererOrgDefinition _ _)
  · have stands : (channelConfig name consensus channel organizations orderers).at?
        [.key "Profiles", .key (channel ++ "Genesis"), .key "Orderer", .key "Organizations"] =
          some (.seq (if orderers.isEmpty then [] else [reference Naming.ordererMspId])) := by
      simp [channelConfig, genesisProfile]
    rw [Tree.listAt?, stands]
    apply mapM_eq_some_iff.mpr
    cases orderers with
    | nil => rfl
    | cons first rest => exact congrArg (· :: []) (pair?_reference _)
  · exact Tree.listAt?_of_map (by simp [channelConfig, genesisProfile, orgReferences]) organizationReferences
  · exact Tree.listAt?_of_map (by simp [channelConfig, channelProfile, orgReferences, other]) organizationReferences

/-- Only the first definition has endpoints, and only if there are orderers. -/
theorem config_endpoints (i : Nat) :
    (channelConfig name consensus channel organizations orderers).at?
        [.key "Organizations", .item i, .key "OrdererEndpoints"] =
      if i = 0 ∧ orderers ≠ [] then
        some (.ofStrings ((orderers.map (·.host (Naming.ordererDomain name))).map (· ++ ":7050")))
      else none := by
  have plain (j : Nat) : (channelConfig name consensus channel organizations orderers).at?
      [.key "Organizations", .item (firstDefinition orderers + j), .key "OrdererEndpoints"] = none := by
    rw [channelConfig_definition]
    cases organizations[j]? <;> simp [orgDefinition, Tree.step?_key, Table.get?]
  cases orderers with
  | nil => simpa [firstDefinition] using plain i
  | cons first rest =>
    cases i with
    | zero =>
      rw [channelConfig_item, List.map_map]
      simp [definitions, ordererOrgDefinition, ordererEndpoint_eq, Function.comp_def]
    | succ j => simpa [firstDefinition, Nat.add_comm 1 j] using plain j

/-- There are voices in an agreement only where it needs to know them. -/
theorem config_consenters_isSome (key : String) :
    ((channelConfig name consensus channel organizations orderers).at?
      [.key "Orderer", .key key, .key "Consenters"]).isSome ↔ consensus = .etcdRaft ∧ key = "EtcdRaft" := by
  have reached : (channelConfig name consensus channel organizations orderers).at?
      [.key "Orderer", .key key, .key "Consenters"] =
        ((ordererSection consensus (Naming.ordererDomain name) orderers).step? (.key key)).bind
          (·.step? (.key "Consenters")) := by
    simp [channelConfig]
  rw [reached]
  constructor
  · intro voiced
    obtain ⟨_, found⟩ := Option.isSome_iff_exists.mp voiced
    obtain ⟨part, stands, voices⟩ := Option.bind_eq_some_iff.mp found
    rw [ordererSection, Tree.step?_key] at stands
    rcases List.mem_append.mp (Table.mem_of_get? stands) with shared | own
    · -- None of the fields that every agreement has is a mapping with voices.
      simp only [List.mem_cons, List.not_mem_nil, or_false, Prod.mk.injEq] at shared
      rcases shared with ⟨_, rfl⟩ | ⟨_, rfl⟩ | ⟨_, rfl⟩ | ⟨_, rfl⟩ | ⟨_, rfl⟩ | ⟨_, rfl⟩ <;> cases voices
    · cases consensus with
      | solo => cases own
      | etcdRaft =>
        simp only [agreement, List.mem_singleton, Prod.mk.injEq] at own
        exact ⟨rfl, own.1⟩
      | bft =>
        simp only [agreement, List.mem_singleton, Prod.mk.injEq] at own
        obtain ⟨rfl, rfl⟩ := own
        cases voices
  · rintro ⟨rfl, rfl⟩
    simp [ordererSection, agreement]

theorem config_consenters :
    (channelConfig name .etcdRaft channel organizations orderers).listAt? (·.textOf? "Host")
        [.key "Orderer", .key "EtcdRaft", .key "Consenters"] =
      some (orderers.map (·.host (Naming.ordererDomain name))) :=
  Tree.listAt?_of_map (by simp [channelConfig, ordererSection, agreement]) fun o => textOf?_consenter _ o

end

/-- The profiles refer to exactly what is defined, in its order. If there are orderers, their organization is the
    first, and alone it has endpoints, one for each orderer. Only the agreement `etcdRaft` has voices, one for
    each orderer too, at the host of its endpoint. -/
theorem profiles_refer (name channel : String) (consensus : Consensus) (organizations : List OrgProfile)
    (orderers : List OrdererProfile) :
    let config := channelConfig name consensus channel organizations orderers
    let hosts := orderers.map (·.host (Naming.ordererDomain name))
    ProfilesRefer config channel
      (if orderers.isEmpty then [] else [(Naming.ordererMspId, Naming.ordererMspId)])
      (organizations.map fun o => (o.mspId, o.mspId)) ∧
    (∀ i, config.at? [.key "Organizations", .item i, .key "OrdererEndpoints"] =
      if i = 0 ∧ orderers ≠ [] then some (.ofStrings (hosts.map (· ++ ":7050"))) else none) ∧
    (∀ key, (config.at? [.key "Orderer", .key key, .key "Consenters"]).isSome ↔
      consensus = .etcdRaft ∧ key = "EtcdRaft") ∧
    (consensus = .etcdRaft → config.listAt? (·.textOf? "Host")
      [.key "Orderer", .key "EtcdRaft", .key "Consenters"] = some hosts) := by
  refine ⟨profilesRefer .., fun _ => config_endpoints .., fun _ => config_consenters_isSome .., ?_⟩
  rintro rfl
  exact config_consenters ..

end Document

end FabricTopology
