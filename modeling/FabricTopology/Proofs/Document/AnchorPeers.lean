import FabricTopology.Document.CryptoMaterial
import FabricTopology.Proofs.Canvas.Neighbors
import FabricTopology.Proofs.Document.ChannelConfig
import FabricTopology.Proofs.Document.Services
import Mathlib.Tactic.ByContra

/-!
The anchor peers of organizations that list none themselves. They are the first peers of the
organization's domain, as many as are drawn next to it or mapped to it, while identities and containers
are made for a fixed number of peers; so an anchor peer runs exactly if its position is below that number.
-/
namespace FabricTopology

/-- No organization of the records lists anchor peers. -/
def Network.LeavesAnchors (n : Network) : Prop := ∀ o ∈ n.entities.organizations, o.anchorPeers.getD [] = []

/-- How many peers are drawn next to an organization; none if the network is not taken from its canvas. -/
def Network.drawnPeers (n : Network) (o : Organization) : Nat :=
  match n.source with
  | .canvas c => (c.neighbors o.id .peer).length
  | .records _ => 0

/-- How many anchor peers an organization has that lists none: one for each peer next to it, or else one for
    each peer mapped to it, and at least one. -/
def Network.anchorCount (n : Network) (o : Organization) : Nat :=
  if n.drawnPeers o = 0 then max 1 (n.source.entities.peers.countP fun p => p.organizationId == o.id)
  else n.drawnPeers o

theorem AnchorPeer.getElem?_firstPeers {domain : String} {count k : Nat} {a : AnchorPeer} :
    (firstPeers domain count)[k]? = some a ↔ k < count ∧ a = ⟨Naming.peerHost k domain, Naming.peerPort⟩ := by
  by_cases below : k < count
  · simp [firstPeers, below, eq_comm]
  · simp [firstPeers, below]

/-- An organization that lists no anchor peers gets the first peers of its domain. -/
theorem Organization.anchorsAmong_of_empty {o : Organization} (empty : o.anchorPeers.getD [] = []) (peers : List Peer) :
    o.anchorsAmong peers =
      AnchorPeer.firstPeers o.resolvedDomain (max 1 (peers.countP fun p => p.organizationId == o.id)) := by
  rw [anchorsAmong]
  split
  · next a as listed => simp [listed] at empty
  · rfl

/-- An organization that lists anchor peers keeps them. -/
theorem Organization.anchorsAmong_of_some {o : Organization} {anchors : List AnchorPeer}
    (listed : o.anchorPeers = some anchors) (some : anchors ≠ []) (peers : List Peer) :
    o.anchorsAmong peers = anchors := by
  obtain ⟨a, rest, rfl⟩ := List.exists_cons_of_ne_nil some
  simp [anchorsAmong, listed]

theorem Canvas.organizationOf_anchors (position : Nat) (node : Node) (peers : List Node) :
    let o := organizationOf position node peers
    o.anchorPeers = if peers.isEmpty then none else some (AnchorPeer.firstPeers o.resolvedDomain peers.length) := by
  by_cases lone : peers.isEmpty
  · simp [organizationOf, lone, Organization.named]
  · simp [organizationOf, lone, Organization.resolvedDomain]

/-- The organizations of a canvas have the anchor peers that are drawn next to them. -/
theorem Canvas.anchorPeers_of_mem {c : Canvas} {o : Organization} (member : o ∈ c.entities.organizations) :
    o.anchorPeers = if (c.neighbors o.id .peer).length = 0 then none
      else some (AnchorPeer.firstPeers o.resolvedDomain (c.neighbors o.id .peer).length) := by
  obtain ⟨i, bound, rfl⟩ := List.mem_mapIdx.mp member
  rw [organizationOf_anchors, organizationOf_id]
  simp [neighbors]

/-- The anchor peers of an organization of a network that leaves them to the network. -/
theorem Network.anchorPeers_profile {n : Network} (implicit : n.LeavesAnchors) {o : Organization}
    (member : o ∈ n.source.entities.organizations) :
    (o.profile n.source.entities.peers).anchorPeers = AnchorPeer.firstPeers o.resolvedDomain (n.anchorCount o) := by
  rw [Organization.profile]
  cases source : n.source with
  | records e =>
    have none : n.drawnPeers o = 0 := by rw [drawnPeers, source]
    have listed : n.entities = e := by
      rw [Network.source] at source
      split at source
      · cases source
      · exact Source.records.inj source
    rw [source, Source.entities, ← listed] at member
    rw [anchorCount, if_pos none, source]
    exact Organization.anchorsAmong_of_empty (implicit o member) _
  | canvas c =>
    rw [source] at member
    have anchors := Canvas.anchorPeers_of_mem member
    have drawn : n.drawnPeers o = (c.neighbors o.id .peer).length := by rw [drawnPeers, source]
    rw [← drawn] at anchors
    by_cases lone : n.drawnPeers o = 0
    · rw [anchorCount, if_pos lone, source]
      rw [if_pos lone] at anchors
      exact Organization.anchorsAmong_of_empty (by rw [anchors]; rfl) _
    · rw [anchorCount, if_neg lone]
      rw [if_neg lone] at anchors
      exact Organization.anchorsAmong_of_some anchors (by simpa [AnchorPeer.firstPeers] using lone) _

namespace Document
open FabricTopology.Yaml

/-- Every anchor peer that the channel's document names runs. -/
def NoneDangles (config compose : Tree) : Prop :=
  ∀ i k host, config.at? [.key "Organizations", .item i, .key "AnchorPeers", .item k, .key "Host"] = some (.str host) →
    IsService compose host

/-- A peer's host name is the name of a service if it is among the peers that get an identity. -/
theorem isService_peerHost_iff {name : String} {organizations : List OrgProfile} {orderers : List OrdererProfile}
    {o : OrgProfile} (member : o ∈ organizations) (k : Nat) :
    IsService (containers name organizations orderers) (Naming.peerHost k o.domain) ↔ k < Naming.peersPerOrg := by
  rw [isService_iff]
  constructor
  · rintro (⟨orderer, _, same⟩ | ⟨other, _, position, below, same⟩)
    · exact absurd same.symm (Naming.ordererHost_ne_peerHost _ _ _ _)
    · rw [(Naming.peerHost_inj same).1]
      exact below
  · intro below
    exact .inr ⟨o, member, k, below, rfl⟩

/-- The anchor peers of an organization, the identities made for its peers and the services among them. -/
structure AnchorsOf (config crypto compose : Tree) (definition position : Nat) (domain : String)
    (anchors identities : Nat) : Prop where
  named : ∀ k host,
    config.at? [.key "Organizations", .item definition, .key "AnchorPeers", .item k, .key "Host"] = some (.str host) ↔
      k < anchors ∧ host = "peer" ++ toString k ++ "." ++ domain
  made : crypto.at? [.key "PeerOrgs", .item position, .key "Template", .key "Count"] = some (.int identities)
  running : ∀ k, IsService compose ("peer" ++ toString k ++ "." ++ domain) ↔ k < identities

theorem getElem?_organizations (n : Network) (j : Nat) :
    (Topology.ofNetwork n).organizations[j]? =
      n.source.entities.organizations[j]?.map fun o => o.profile n.source.entities.peers := by
  simp [Topology.ofNetwork, Topology.extract]

theorem anchorsOf {n : Network} (implicit : n.LeavesAnchors) {j : Nat} {o : Organization}
    (stands : n.source.entities.organizations[j]? = some o) :
    let t := Topology.ofNetwork n
    AnchorsOf (channelConfig t.networkName t.consensus t.channelName t.organizations t.orderers)
      (cryptoMaterial t.networkName t.organizations t.orderers) (containers t.networkName t.organizations t.orderers)
      (firstDefinition t.orderers + j) j o.resolvedDomain (n.anchorCount o) Naming.peersPerOrg := by
  intro t
  have anchors := Network.anchorPeers_profile implicit (List.mem_of_getElem? stands)
  have profile : t.organizations[j]? = some (o.profile n.source.entities.peers) := by
    rw [getElem?_organizations, stands, Option.map_some]
  refine ⟨?_, ?_, ?_⟩
  · intro k host
    rw [channelConfig_definition, profile, Option.bind_some, orgDefinition_anchors, anchors, Option.map_eq_some_iff]
    constructor
    · rintro ⟨a, listed, same⟩
      obtain ⟨below, rfl⟩ := AnchorPeer.getElem?_firstPeers.mp listed
      exact ⟨below, (Tree.str.inj same).symm⟩
    · rintro ⟨below, rfl⟩
      exact ⟨_, AnchorPeer.getElem?_firstPeers.mpr ⟨below, rfl⟩, rfl⟩
  · simp [cryptoMaterial, profile, orgMaterial, identities]
  · intro k
    exact isService_peerHost_iff (List.mem_of_getElem? profile) k

/-- The anchor peers of organizations that list none themselves are their first peers, as many as are drawn or
    mapped; those run whose position is below two, the number of identities and containers made for every
    organization. So no anchor peer dangles if and only if no organization has more than two. -/
theorem noneDangles_iff (n : Network) (implicit : n.LeavesAnchors) :
    let t := Topology.ofNetwork n
    let config := channelConfig t.networkName t.consensus t.channelName t.organizations t.orderers
    let crypto := cryptoMaterial t.networkName t.organizations t.orderers
    let compose := containers t.networkName t.organizations t.orderers
    (∀ j o, n.source.entities.organizations[j]? = some o →
      AnchorsOf config crypto compose (firstDefinition t.orderers + j) j o.resolvedDomain (n.anchorCount o) 2) ∧
    (NoneDangles config compose ↔ ∀ o ∈ n.source.entities.organizations, n.anchorCount o ≤ 2) := by
  intro t config crypto compose
  refine ⟨fun j o stands => anchorsOf implicit stands, ?_, ?_⟩
  · intro running o member
    obtain ⟨j, stands⟩ := List.mem_iff_getElem?.mp member
    have anchors := anchorsOf implicit stands
    by_contra many
    -- The third anchor peer is the first one without a container.
    have third := (anchors.named 2 _).mpr ⟨Nat.lt_of_not_le many, rfl⟩
    exact absurd ((anchors.running 2).mp (running _ _ _ third)) (by decide)
  · intro few i k host named
    obtain ⟨j, profile, a, rfl, member, _, _⟩ := (channelConfig_anchors _ _ _ _ _ i k host).mp named
    rw [getElem?_organizations, Option.map_eq_some_iff] at member
    obtain ⟨o, stands, _⟩ := member
    have anchors := anchorsOf implicit stands
    obtain ⟨below, rfl⟩ := (anchors.named k host).mp named
    exact (anchors.running k).mpr (Nat.lt_of_lt_of_le below (few o (List.mem_of_getElem? stands)))

/-- A network of one organization with so many peers mapped to it. -/
def mapped (peers : Nat) : Network :=
  { Network.named "net" with
    entities :=
      { Entities.empty with
        organizations := [.named "org1" "Org1"]
        peers := (List.range peers).map fun k => .named (toString k) "peer" "org1" } }

/-- With two peers no anchor peer dangles. -/
theorem noneDangles_pair :
    let t := Topology.ofNetwork (mapped 2)
    NoneDangles (channelConfig t.networkName t.consensus t.channelName t.organizations t.orderers)
      (containers t.networkName t.organizations t.orderers) :=
  (noneDangles_iff (mapped 2) (by simp [Network.LeavesAnchors, mapped, Organization.named])).2.mpr (by decide)

/-- With three peers the third one is named and does not run. -/
theorem third_anchor_dangles :
    (mapped 3).LeavesAnchors ∧
    let t := Topology.ofNetwork (mapped 3)
    ¬ NoneDangles (channelConfig t.networkName t.consensus t.channelName t.organizations t.orderers)
      (containers t.networkName t.organizations t.orderers) := by
  have implicit : (mapped 3).LeavesAnchors := by simp [Network.LeavesAnchors, mapped, Organization.named]
  refine ⟨implicit, fun running => ?_⟩
  have stands : (mapped 3).source.entities.organizations[0]? = some (.named "org1" "Org1") := by rfl
  have anchors := anchorsOf implicit stands
  have third := (anchors.named 2 _).mpr ⟨by decide, rfl⟩
  exact absurd ((anchors.running 2).mp (running _ _ _ third)) (by decide)

end Document

end FabricTopology
