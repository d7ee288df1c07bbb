import FabricTopology.Document.CryptoMaterial
import FabricTopology.PeerCommand
import FabricTopology.Proofs.Document.ChannelConfig
import FabricTopology.Proofs.Document.Services

/-!
The documents agree on names. They are made apart from one another, some from an orderer's stored host
name and some from its position, and are joined only by the tools that read them; so the names that the
tools join them by have to be the same (`names_agree`).
-/
namespace FabricTopology.Document
open FabricTopology.Yaml

/-- One host name for the orderer at a position wherever the documents name it, and one directory for its
    key material. -/
structure OrdererAgrees (consensus : Consensus) (config crypto compose : Tree) (position : Nat) (host : String)
    (part : Tree) : Prop where
  endpoint : config.at? [.key "Organizations", .item 0, .key "OrdererEndpoints", .item position] =
    some (.str (host ++ ":7050"))
  consenter : consensus = .etcdRaft →
    config.at? [.key "Orderer", .key "EtcdRaft", .key "Consenters", .item position, .key "Host"] = some (.str host)
  identity : ∃ hostname domain, host = hostname ++ "." ++ domain ∧
    crypto.at? [.key "OrdererOrgs", .item 0, .key "Specs", .item position, .key "Hostname"] = some (.str hostname) ∧
    crypto.at? [.key "OrdererOrgs", .item 0, .key "Domain"] = some (.str domain)
  service : ∃ parts, compose.at? [.key "services"] = some (.map parts) ∧ parts[position]? = some (.str host, part)
  container : part.at? [.key "container_name"] = some (.str host)
  certificate : ∃ dir, part.at? [.key "volumes"] = some (.ofStrings (mounts dir ordererHome)) ∧
    (consensus = .etcdRaft → ∀ certificate ∈ ["ClientTLSCert", "ServerTLSCert"],
      config.at? [.key "Orderer", .key "EtcdRaft", .key "Consenters", .item position, .key certificate] =
        some (.str (dir ++ "/tls/server.crt")))

/-- One domain for an organization wherever the documents name it, and a service for each of its peers that
    have an identity. -/
structure OrganizationAgrees (config crypto compose : Tree) (definition position : Nat) (domain : String)
    (count : Nat) : Prop where
  material : crypto.at? [.key "PeerOrgs", .item position, .key "Domain"] = some (.str domain)
  identities : crypto.at? [.key "PeerOrgs", .item position, .key "Template", .key "Count"] = some (.int count)
  services : ∀ k < count, IsService compose ("peer" ++ toString k ++ "." ++ domain)
  membership : config.at? [.key "Organizations", .item definition, .key "MSPDir"] =
    some (.str ("crypto-config/peerOrganizations/" ++ domain ++ "/msp"))

section
variable (name channel : String) (consensus : Consensus) (organizations : List OrgProfile)
  {orderers : List OrdererProfile}

theorem isEmpty_of_getElem? {i : Nat} {o : OrdererProfile} (stands : orderers[i]? = some o) :
    orderers.isEmpty = false := by
  cases orderers with
  | nil => simp at stands
  | cons first rest => rfl

theorem ordererAgrees (numbered : Numbered orderers) {i : Nat} {o : OrdererProfile} (stands : orderers[i]? = some o) :
    OrdererAgrees consensus (channelConfig name consensus channel organizations orderers)
      (cryptoMaterial name organizations orderers) (containers name organizations orderers) i
      (o.host (Naming.ordererDomain name)) (ordererService (Naming.ordererDomain name) o) := by
  have some := isEmpty_of_getElem? stands
  obtain ⟨_, hostname⟩ := numbered i o stands
  refine ⟨?_, ?_, ?_, ?_, ?_, ?_⟩
  · simp [channelConfig, definitions, some, ordererOrgDefinition, Tree.ofStrings, stands, ordererEndpoint_eq]
  · rintro rfl
    simp [channelConfig, ordererSection, agreement, consenter, stands]
  · refine ⟨o.hostname, Naming.ordererDomain name, ?_, ?_, ?_⟩
    · rw [OrdererProfile.host, Naming.ordererHost, hostname, (numbered i o stands).1]
    · simp [cryptoMaterial, some, ordererOrgMaterial, stands]
    · simp [cryptoMaterial, some, ordererOrgMaterial]
  · refine ⟨_, containers_services name organizations orderers, ?_⟩
    obtain ⟨bound, _⟩ := List.getElem?_eq_some_iff.mp stands
    rw [services_eq name organizations numbered, List.getElem?_map,
      List.getElem?_append_left (by simpa [ordererServices] using bound)]
    simp [ordererServices, stands]
  · exact container_name_service _ _ _ _ _ _ _
  · refine ⟨Naming.ordererCryptoDir o.index (Naming.ordererDomain name), ?_, ?_⟩
    · simp [ordererService, service]
    · rintro rfl certificate either
      simp only [List.mem_cons, List.not_mem_nil, or_false] at either
      rcases either with rfl | rfl
      · simp [channelConfig, ordererSection, agreement, consenter, stands, Naming.ordererTlsCert]
      · simp [channelConfig, ordererSection, agreement, consenter, stands, Naming.ordererTlsCert]

theorem organizationAgrees {j : Nat} {o : OrgProfile} (stands : organizations[j]? = some o) :
    OrganizationAgrees (channelConfig name consensus channel organizations orderers)
      (cryptoMaterial name organizations orderers) (containers name organizations orderers)
      (firstDefinition orderers + j) j o.domain Naming.peersPerOrg := by
  refine ⟨?_, ?_, ?_, ?_⟩
  · simp [cryptoMaterial, stands, orgMaterial]
  · simp [cryptoMaterial, stands, orgMaterial, identities]
  · intro k below
    exact isService_iff.mpr (.inr ⟨o, List.mem_of_getElem? stands, k, below, rfl⟩)
  · rw [channelConfig_definition, stands, Option.bind_some]
    simp only [orgDefinition, Tree.at?_cons, Tree.at?_nil, Tree.step?_key_cons]
    rfl

end

/-- The orderer that commands are addressed at runs exactly if there are orderers. -/
theorem isService_ordererHost (n : Network) :
    let t := Topology.ofNetwork n
    IsService (containers t.networkName t.organizations t.orderers) t.peerContext.ordererHost ↔ t.orderers ≠ [] := by
  intro t
  have domain : t.ordererDomain = Naming.ordererDomain t.networkName := rfl
  rw [isService_iff]
  constructor
  · rintro (⟨o, member, _⟩ | ⟨o, _, k, _, same⟩)
    · exact List.ne_nil_of_mem member
    · exact absurd same (Naming.ordererHost_ne_peerHost _ _ _ _)
  · intro some
    obtain ⟨o, rest, first⟩ := List.exists_cons_of_ne_nil some
    refine .inl ⟨o, ?_, by simp [Topology.peerContext, first, domain, OrdererProfile.host]⟩
    rw [first]
    exact List.mem_cons_self

/-- The peer that commands are addressed at runs exactly if there are organizations. -/
theorem isService_peerHost (n : Network) :
    let t := Topology.ofNetwork n
    IsService (containers t.networkName t.organizations t.orderers) t.peerContext.peerHost ↔ t.organizations ≠ [] := by
  intro t
  rw [isService_iff]
  constructor
  · rintro (⟨o, _, same⟩ | ⟨o, member, _⟩)
    · exact absurd same.symm (Naming.ordererHost_ne_peerHost _ _ _ _)
    · exact List.ne_nil_of_mem member
  · intro some
    obtain ⟨o, rest, first⟩ := List.exists_cons_of_ne_nil some
    exact .inr ⟨o, by rw [first]; exact List.mem_cons_self, 0, by decide, by simp [Topology.peerContext, first]⟩

/-- The three documents of a network and the commands for it name its hosts alike: orderers and organizations
    position by position, under any network name given to all three documents. Under the network's own name,
    the hosts that commands are addressed at run, unless a stand-in takes the place of an orderer or an
    organization that the network does not have. -/
theorem names_agree (n : Network) (name channel : String) (consensus : Consensus) :
    let t := Topology.ofNetwork n
    let config := channelConfig name consensus channel t.organizations t.orderers
    let crypto := cryptoMaterial name t.organizations t.orderers
    let compose := containers name t.organizations t.orderers
    let own := containers t.networkName t.organizations t.orderers
    (∀ i < t.orderers.length, ∃ host part, OrdererAgrees consensus config crypto compose i host part) ∧
    (∀ j < t.organizations.length, ∃ domain count,
      OrganizationAgrees config crypto compose (firstDefinition t.orderers + j) j domain count) ∧
    (IsService own t.peerContext.ordererHost ↔ t.orderers ≠ []) ∧
    (IsService own t.peerContext.peerHost ↔ t.organizations ≠ []) := by
  intro t config crypto compose own
  refine ⟨?_, ?_, isService_ordererHost n, isService_peerHost n⟩
  · intro i bound
    exact ⟨_, _, ordererAgrees name channel consensus t.organizations (Topology.numbered_ofNetwork n)
      (List.getElem?_eq_getElem bound)⟩
  · intro j bound
    exact ⟨_, _, organizationAgrees name channel consensus t.organizations (List.getElem?_eq_getElem bound)⟩

end FabricTopology.Document
