import FabricTopology.Document.Services
import FabricTopology.Proofs.Document.ChannelConfig
import FabricTopology.Proofs.Naming
import FabricTopology.Proofs.Table
import FabricTopology.Proofs.Topology

/-!
The services of the containers' document. The orderers' services come first and in order, since their
names are distinct and no peer is named like an orderer; after them there is a service for each of the
fixed number of peers of each organization, and no other. Every service goes by its container's name.
-/
namespace FabricTopology.Document
open FabricTopology.Yaml

/-- The services of all organizations' peers, before services of one name take each other's place. -/
def peerServices (organizations : List OrgProfile) : List (String × Tree) := (organizations.mapIdx orgServices).flatten

theorem mem_peerServices {organizations : List OrgProfile} {row : String × Tree} :
    row ∈ peerServices organizations ↔
      ∃ j o, organizations[j]? = some o ∧ ∃ k < Naming.peersPerOrg,
        row = (Naming.peerHost k o.domain, peerService j o k) := by
  simp only [peerServices, List.mem_flatten, List.mem_mapIdx]
  constructor
  · rintro ⟨rows, ⟨j, bound, rfl⟩, member⟩
    obtain ⟨k, below, rfl⟩ := List.mem_map.mp member
    exact ⟨j, organizations[j], List.getElem?_eq_getElem bound, k, List.mem_range.mp below, rfl⟩
  · rintro ⟨j, o, stands, k, below, rfl⟩
    obtain ⟨bound, rfl⟩ := List.getElem?_eq_some_iff.mp stands
    exact ⟨_, ⟨j, bound, rfl⟩, List.mem_map.mpr ⟨k, List.mem_range.mpr below, rfl⟩⟩

theorem mem_keys_peerServices {organizations : List OrgProfile} {name : String} :
    name ∈ (peerServices organizations).map (·.1) ↔
      ∃ o ∈ organizations, ∃ k < Naming.peersPerOrg, name = Naming.peerHost k o.domain := by
  rw [List.mem_map]
  constructor
  · rintro ⟨row, member, rfl⟩
    obtain ⟨j, o, stands, k, below, rfl⟩ := mem_peerServices.mp member
    exact ⟨o, List.mem_of_getElem? stands, k, below, rfl⟩
  · rintro ⟨o, member, k, below, rfl⟩
    obtain ⟨j, stands⟩ := List.mem_iff_getElem?.mp member
    exact ⟨_, mem_peerServices.mpr ⟨j, o, stands, k, below, rfl⟩, rfl⟩

theorem keys_ordererServices (domain : String) (orderers : List OrdererProfile) :
    (ordererServices domain orderers).map (·.1) = orderers.map fun o => o.host domain := by
  simp [ordererServices]

/-- Orderers that are numbered have distinct host names. -/
theorem nodup_hosts {orderers : List OrdererProfile} (numbered : Numbered orderers) (domain : String) :
    (orderers.map fun o => o.host domain).Nodup := by
  rw [List.Nodup, List.pairwise_map, List.pairwise_iff_getElem]
  intro i j left right before same
  have first := (numbered i orderers[i] (List.getElem?_eq_getElem left)).1
  have second := (numbered j orderers[j] (List.getElem?_eq_getElem right)).1
  have numbers := Naming.ordererHost_inj same
  omega

/-- The orderers' services stand first, each in the place of its orderer. -/
theorem services_eq (name : String) (organizations : List OrgProfile) {orderers : List OrdererProfile}
    (numbered : Numbered orderers) :
    services name organizations orderers =
      ordererServices (Naming.ordererDomain name) orderers ++ Table.ofRows (peerServices organizations) := by
  refine Table.ofRows_append ?_ ?_
  · rw [keys_ordererServices]
    exact nodup_hosts numbered _
  · -- No peer's service takes the place of an orderer's.
    intro key peer orderer
    rw [keys_ordererServices, List.mem_map] at orderer
    obtain ⟨o, _, k, _, rfl⟩ := mem_keys_peerServices.mp peer
    obtain ⟨_, _, same⟩ := orderer
    exact Naming.ordererHost_ne_peerHost _ _ _ _ same

/-- The names of the services. -/
theorem mem_keys_services {name host : String} {organizations : List OrgProfile} {orderers : List OrdererProfile} :
    host ∈ (services name organizations orderers).keys ↔
      (∃ o ∈ orderers, host = o.host (Naming.ordererDomain name)) ∨
      ∃ o ∈ organizations, ∃ k < Naming.peersPerOrg, host = Naming.peerHost k o.domain := by
  rw [services, Table.mem_keys_ofRows, List.map_append, List.mem_append, keys_ordererServices, List.mem_map]
  exact or_congr ⟨fun ⟨o, member, same⟩ => ⟨o, member, same.symm⟩, fun ⟨o, member, same⟩ => ⟨o, member, same.symm⟩⟩
    mem_keys_peerServices

theorem container_name_service (name image : String) (environment : List String) (dir command : String)
    (ports volumes : List String) :
    (service name image environment dir command ports volumes).at? [.key "container_name"] = some (.str name) := by
  simp [service]

/-- A service goes by the name of its container. -/
theorem container_name_of_mem {name host : String} {part : Tree} {organizations : List OrgProfile}
    {orderers : List OrdererProfile} (member : (host, part) ∈ services name organizations orderers) :
    part.at? [.key "container_name"] = some (.str host) := by
  have row := Table.mem_of_mem_ofRows member
  rcases List.mem_append.mp row with orderer | peer
  · obtain ⟨o, _, same⟩ := List.mem_map.mp orderer
    obtain ⟨rfl, rfl⟩ := Prod.mk.inj same
    exact container_name_service _ _ _ _ _ _ _
  · obtain ⟨j, o, _, k, _, same⟩ := mem_peerServices.mp peer
    obtain ⟨rfl, rfl⟩ := Prod.mk.inj same
    exact container_name_service _ _ _ _ _ _ _

/-! ### Services of a document -/

/-- The document starts a container that goes by this name. -/
def IsService (document : Tree) (host : String) : Prop :=
  ∃ part, document.at? [.key "services", .key host] = some part ∧ part.at? [.key "container_name"] = some (.str host)

theorem containers_services (name : String) (organizations : List OrgProfile) (orderers : List OrdererProfile) :
    (containers name organizations orderers).at? [.key "services"] =
      some (.ofFields (services name organizations orderers)) := by
  simp [containers]

theorem containers_service (name : String) (organizations : List OrgProfile) (orderers : List OrdererProfile)
    (host : String) (way : List Step) :
    (containers name organizations orderers).at? (.key "services" :: .key host :: way) =
      ((services name organizations orderers).get? host).bind (·.at? way) := by
  rw [← Tree.step?_key]
  simp [containers]

/-- A host runs when it is an orderer's, or one of the fixed number of peers of an organization. -/
theorem isService_iff {name host : String} {organizations : List OrgProfile} {orderers : List OrdererProfile} :
    IsService (containers name organizations orderers) host ↔
      (∃ o ∈ orderers, host = o.host (Naming.ordererDomain name)) ∨
      ∃ o ∈ organizations, ∃ k < Naming.peersPerOrg, host = Naming.peerHost k o.domain := by
  rw [← mem_keys_services]
  simp only [IsService, containers_service, Tree.at?_nil, Option.bind_fun_some]
  constructor
  · rintro ⟨part, stands, _⟩
    exact Table.mem_keys_of_get? stands
  · intro member
    obtain ⟨part, stands⟩ := Table.get?_of_mem_keys member
    exact ⟨part, stands, container_name_of_mem (Table.mem_of_get? stands)⟩

end FabricTopology.Document
