import FabricTopology.Proofs.Document.Services
import Mathlib.Data.List.Dedup
import Mathlib.Data.List.Nodup

/-!
Whether every peer has a service. A peer goes by its host name, and of two peers with one host name the later
one's service takes the place of the earlier one's. So no service is lost exactly if no two organizations have
the same domain (`complete_iff_nodup`), and organizations that leave their domain to their name have the same one
exactly if their names differ in case only (`complete_iff`).
-/
namespace FabricTopology.Document
open FabricTopology.Yaml

/-- The names of the services of a document, in their order. -/
def serviceNames (document : Tree) : List String :=
  match document.at? [.key "services"] with
  | some (.map entries) => entries.filterMap fun | (.str name, _) => some name | _ => none
  | _ => []

/-- The service of that name is told this identifier of its organization, and no other. -/
def RunsFor (document : Tree) (host mspId : String) : Prop :=
  ∀ id, (∃ i : Nat, document.at? [.key "services", .key host, .key "environment", .item i] =
    some (.str ("CORE_PEER_LOCALMSPID=" ++ id))) ↔ id = mspId

/-- The host names of the two peers of a domain. -/
def peerHosts (domain : String) : List String := [Naming.peerHost 0 domain, Naming.peerHost 1 domain]

/-- Every orderer has a service, every organization has two that run for it, and there are no others. -/
structure Complete (document : Tree) (hosts : List String) (organizations : List OrgProfile) : Prop where
  names : serviceNames document = hosts ++ organizations.flatMap fun o => peerHosts o.domain
  distinct : (serviceNames document).Nodup
  count : (serviceNames document).length = hosts.length + 2 * organizations.length
  own : ∀ o ∈ organizations, ∀ host ∈ peerHosts o.domain, RunsFor document host o.mspId

/-! ### Host names of domains -/

theorem mem_peerHosts {host domain : String} :
    host ∈ peerHosts domain ↔ ∃ k < Naming.peersPerOrg, host = Naming.peerHost k domain := by
  constructor
  · intro member
    rcases List.mem_cons.mp member with rfl | last
    · exact ⟨0, by decide, rfl⟩
    · exact ⟨1, by decide, List.mem_singleton.mp last⟩
  · rintro ⟨k, below, rfl⟩
    obtain rfl | rfl : k = 0 ∨ k = 1 := by
      have two : Naming.peersPerOrg = 2 := rfl
      omega
    · exact List.mem_cons_self
    · exact List.mem_cons_of_mem _ List.mem_cons_self

theorem nodup_peerHosts (domain : String) : (peerHosts domain).Nodup := by
  refine List.nodup_cons.mpr ⟨?_, List.nodup_singleton _⟩
  intro same
  exact absurd (Naming.peerHost_inj (List.mem_singleton.mp same)).1 (by decide)

theorem disjoint_peerHosts_iff {domain other : String} :
    List.Disjoint (peerHosts domain) (peerHosts other) ↔ domain ≠ other := by
  constructor
  · rintro apart rfl
    exact apart List.mem_cons_self List.mem_cons_self
  · intro different host left right
    obtain ⟨j, _, rfl⟩ := mem_peerHosts.mp left
    obtain ⟨k, _, same⟩ := mem_peerHosts.mp right
    exact different (Naming.peerHost_inj same).2

/-- Host names are distinct where domains are. -/
theorem nodup_hosts_iff (domains : List String) : (domains.flatMap peerHosts).Nodup ↔ domains.Nodup := by
  rw [List.nodup_flatMap]
  constructor
  · intro apart
    exact apart.2.imp disjoint_peerHosts_iff.mp
  · intro distinct
    exact ⟨fun domain _ => nodup_peerHosts domain, distinct.imp disjoint_peerHosts_iff.mpr⟩

theorem length_flatMap_peerHosts (domains : List String) : (domains.flatMap peerHosts).length = 2 * domains.length := by
  induction domains with
  | nil => rfl
  | cons domain rest ih =>
    rw [List.flatMap_cons, List.length_append, ih, List.length_cons, peerHosts, List.length_cons, List.length_singleton]
    omega

/-! ### Services of organizations -/

theorem keys_orgServices (j : Nat) (o : OrgProfile) : (orgServices j o).map (·.1) = peerHosts o.domain := rfl

theorem keys_flatten (position : Nat → Nat) (organizations : List OrgProfile) :
    (organizations.mapIdx fun j => orgServices (position j)).flatten.map (·.1) =
      (organizations.map (·.domain)).flatMap peerHosts := by
  rw [List.map_flatten, List.flatMap_map, List.flatMap]
  refine congrArg List.flatten (List.ext_getElem (by simp) fun j _ _ => ?_)
  simp [keys_orgServices]

theorem keys_peerServices (organizations : List OrgProfile) :
    (peerServices organizations).map (·.1) = (organizations.map (·.domain)).flatMap peerHosts :=
  keys_flatten (fun j => j) organizations

section
variable (name : String) (organizations : List OrgProfile) (orderers : List OrdererProfile)

theorem serviceNames_containers : serviceNames (containers name organizations orderers) =
    (services name organizations orderers).keys := by
  rw [serviceNames, containers_services, Tree.ofFields, Table.keys]
  simp [List.filterMap_map]

/-- The settings of a peer tell it the identifier of its organization. -/
theorem mem_peerEnvironment (host : String) {mspId id : String} :
    "CORE_PEER_LOCALMSPID=" ++ id ∈ peerEnvironment host mspId ↔ id = mspId := by
  simp only [peerEnvironment, setting, List.mem_cons, List.not_mem_nil, or_false, ← String.toList_inj,
    String.toList_append]
  simp

variable {name organizations orderers}

theorem runsFor_of_get? {host : String} {j k : Nat} {o : OrgProfile}
    (stands : (services name organizations orderers).get? host = some (peerService j o k)) :
    RunsFor (containers name organizations orderers) host o.mspId := by
  intro id
  rw [← mem_peerEnvironment (Naming.peerHost k o.domain), List.mem_iff_getElem?]
  refine exists_congr fun i => ?_
  rw [containers_service, stands]
  simp [peerService, service, Tree.ofStrings]

/-- The services of an organization are its own if no later one has its domain. -/
theorem runsFor_of_last {before after : List OrgProfile} {o : OrgProfile} (split : organizations = before ++ o :: after)
    (last : ∀ p ∈ after, p.domain ≠ o.domain) {host : String} (member : host ∈ peerHosts o.domain) :
    RunsFor (containers name organizations orderers) host o.mspId := by
  obtain ⟨k, below, rfl⟩ := mem_peerHosts.mp member
  have row : (Naming.peerHost k o.domain, peerService before.length o k) ∈ orgServices before.length o :=
    List.mem_map.mpr ⟨k, List.mem_range.mpr below, rfl⟩
  -- No row of that name comes after it, neither of this organization nor of a later one.
  obtain ⟨first, second, own⟩ := List.append_of_mem row
  have distinct : ((orgServices before.length o).map (·.1)).Nodup := nodup_peerHosts o.domain
  have rows : ordererServices (Naming.ordererDomain name) orderers ++ (organizations.mapIdx orgServices).flatten =
      (ordererServices (Naming.ordererDomain name) orderers ++ (before.mapIdx orgServices).flatten ++ first) ++
        (Naming.peerHost k o.domain, peerService before.length o k) ::
          (second ++ (after.mapIdx fun j => orgServices (j + 1 + before.length)).flatten) := by
    simp [split, List.mapIdx_append, List.mapIdx_cons, own]
  refine runsFor_of_get? (j := before.length) (k := k) ?_
  rw [services, rows]
  refine Table.get?_ofRows_of_last _ ?_
  rw [List.map_append, List.mem_append, not_or]
  constructor
  · rw [own, List.map_append, List.map_cons] at distinct
    exact (List.nodup_cons.mp (List.nodup_append.mp distinct).2.1).1
  · rw [keys_flatten, List.mem_flatMap]
    rintro ⟨domain, later, other⟩
    obtain ⟨p, listed, rfl⟩ := List.mem_map.mp later
    exact disjoint_peerHosts_iff.mpr (last p listed) other member

/-- Where no two organizations have the same domain, no peer's service takes the place of another one. -/
theorem services_of_distinct (numbered : Numbered orderers) (distinct : (organizations.map (·.domain)).Nodup) :
    services name organizations orderers =
      ordererServices (Naming.ordererDomain name) orderers ++ peerServices organizations := by
  have peers := (nodup_hosts_iff _).mpr distinct
  rw [← keys_peerServices] at peers
  rw [services_eq name organizations numbered, Table.ofRows_of_nodup peers]

/-- No service is lost exactly if no two organizations have the same domain. -/
theorem complete_iff_nodup (numbered : Numbered orderers) :
    Complete (containers name organizations orderers) (orderers.map fun o => o.host (Naming.ordererDomain name))
      organizations ↔ (organizations.map (·.domain)).Nodup := by
  constructor
  · intro complete
    have distinct := complete.distinct
    rw [complete.names, ← List.flatMap_map] at distinct
    exact (nodup_hosts_iff _).mp (List.nodup_append.mp distinct).2.1
  · intro distinct
    have names : serviceNames (containers name organizations orderers) =
        (orderers.map fun o => o.host (Naming.ordererDomain name)) ++
          organizations.flatMap fun o => peerHosts o.domain := by
      rw [serviceNames_containers, services_of_distinct numbered distinct, Table.keys, List.map_append,
        keys_ordererServices, keys_peerServices, List.flatMap_map]
    refine ⟨names, ?_, ?_, ?_⟩
    · rw [serviceNames_containers]
      exact Table.nodup_keys_ofRows _
    · rw [names, List.length_append, List.length_map, ← List.flatMap_map, length_flatMap_peerHosts, List.length_map]
    · intro o member host running
      obtain ⟨before, after, split⟩ := List.append_of_mem member
      refine runsFor_of_last split ?_ running
      rw [split, List.map_append, List.map_cons] at distinct
      have later := (List.nodup_cons.mp (List.nodup_append.mp distinct).2.1).1
      exact fun p after same => later (List.mem_map.mpr ⟨p, after, same⟩)

/-- How many services there are. -/
theorem length_serviceNames (numbered : Numbered orderers) :
    (serviceNames (containers name organizations orderers)).length =
      orderers.length + 2 * (organizations.map (·.domain)).dedup.length := by
  have peers : (Table.ofRows (peerServices organizations)).keys.Perm
      ((organizations.map (·.domain)).dedup.flatMap peerHosts) := by
    have distinct := (nodup_hosts_iff _).mpr (organizations.map (·.domain)).nodup_dedup
    refine (List.perm_ext_iff_of_nodup (Table.nodup_keys_ofRows _) distinct).mpr fun host => ?_
    rw [Table.mem_keys_ofRows, keys_peerServices]
    simp only [List.mem_flatMap, List.mem_dedup]
  rw [serviceNames_containers, services_eq name organizations numbered, Table.keys, List.map_append, List.length_append,
    keys_ordererServices, List.length_map, ← length_flatMap_peerHosts, ← peers.length_eq, Table.keys]

end

end FabricTopology.Document

namespace FabricTopology

/-- The organizations leave their domains to their names. -/
def Network.LeavesDomains (n : Network) : Prop := ∀ o ∈ n.source.entities.organizations, o.domain = ""

theorem Network.LeavesDomains.domain_eq {n : Network} (implicit : n.LeavesDomains) {o : OrgProfile}
    (member : o ∈ (Topology.ofNetwork n).organizations) : o.domain = Naming.defaultDomain o.name := by
  rw [Topology.organizations_ofNetwork] at member
  obtain ⟨record, listed, rfl⟩ := List.mem_map.mp member
  exact if_pos (implicit record listed)

theorem Network.LeavesDomains.domains_eq {n : Network} (implicit : n.LeavesDomains) :
    (Topology.ofNetwork n).organizations.map (·.domain) =
      ((Topology.ofNetwork n).organizations.map fun o => Naming.lowered o.name).map (· ++ ".example.com") := by
  rw [List.map_map]
  exact List.map_congr_left fun o member => implicit.domain_eq member

namespace Document
open FabricTopology.Yaml

/-- Where organizations leave their domains to their names, no service is lost exactly if no two names differ in
    case only. Otherwise there are services for one organization of each name, the last one. -/
theorem complete_iff (n : Network) (implicit : n.LeavesDomains) :
    let t := Topology.ofNetwork n
    let document := containers t.networkName t.organizations t.orderers
    let names := t.organizations.map fun o => Naming.lowered o.name
    (Complete document (t.orderers.map fun o => o.host t.ordererDomain) t.organizations ↔ names.Nodup) ∧
    (serviceNames document).length = t.orderers.length + 2 * names.dedup.length ∧
    ∀ before o after, t.organizations = before ++ o :: after →
      (∀ p ∈ after, Naming.lowered p.name ≠ Naming.lowered o.name) →
      ∀ host ∈ peerHosts o.domain, RunsFor document host o.mspId := by
  intro t document names
  have ending : Function.Injective (· ++ ".example.com") := fun a b same => (String.append_left_inj _).mp same
  have numbered := Topology.numbered_ofNetwork n
  refine ⟨?_, ?_, ?_⟩
  · refine (complete_iff_nodup numbered).trans ?_
    rw [implicit.domains_eq, List.nodup_map_iff ending]
  · rw [length_serviceNames numbered, implicit.domains_eq, List.dedup_map_of_injective ending, List.length_map]
  · intro before o after split last host running
    refine runsFor_of_last split ?_ running
    intro p later same
    have own : o ∈ t.organizations := by simp [split]
    have other : p ∈ t.organizations := by simp [split, later]
    rw [implicit.domain_eq own, implicit.domain_eq other, Naming.defaultDomain_eq_iff] at same
    exact last p later same

/-- A network of organizations with these names and an orderer. -/
def named (names : List String) : Network :=
  { Network.named "net" with
    entities :=
      { Entities.empty with
        organizations := names.mapIdx fun i name => .named (toString i) name
        orderers := [.named "orderer" "orderer"] } }

theorem leavesDomains_named (names : List String) : (named names).LeavesDomains := by
  have source : (named names).source = .records (named names).entities := by
    simp [Network.source, named, Entities.isEmpty]
  intro o member
  rw [source] at member
  obtain ⟨i, bound, rfl⟩ := List.mem_mapIdx.mp member
  rfl

theorem complete_named : (named ["Org1", "Org2"]).LeavesDomains ∧
    let t := Topology.ofNetwork (named ["Org1", "Org2"])
    Complete (containers t.networkName t.organizations t.orderers) (t.orderers.map fun o => o.host t.ordererDomain)
      t.organizations := by
  have implicit := leavesDomains_named ["Org1", "Org2"]
  exact ⟨implicit, (complete_iff _ implicit).1.mpr (by decide +kernel)⟩

/-- Two organizations whose names differ in case only have two services between them. -/
theorem services_lost : (named ["Org1", "ORG1"]).LeavesDomains ∧
    let t := Topology.ofNetwork (named ["Org1", "ORG1"])
    (t.organizations.map (·.name)).Nodup ∧
    ¬ Complete (containers t.networkName t.organizations t.orderers) (t.orderers.map fun o => o.host t.ordererDomain)
      t.organizations := by
  refine ⟨leavesDomains_named _, by decide, fun complete => ?_⟩
  have distinct := (complete_iff_nodup (Topology.numbered_ofNetwork _)).mp complete
  exact absurd distinct (by decide +kernel)

end Document

end FabricTopology
