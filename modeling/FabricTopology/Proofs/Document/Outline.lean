import FabricTopology.Compilation
import FabricTopology.Proofs.Topology

/-!
What the documents show of a network whose records are kept by hand: its name, how it agrees, its channel, how
many orderers it has, and of each organization the name, the membership provider, the domain and where its
anchor peers come from (`Outline`). Everything else may differ, and the documents are the same
(`artifacts_eq_of_outline`).
-/
namespace FabricTopology

/-- Where the anchor peers of an organization come from: it lists some itself, or they are counted among the
    peers mapped to it. -/
inductive AnchorSource where
  | listed (anchors : List AnchorPeer)
  | mapped (count : Nat)
deriving DecidableEq

/-- What the documents show of an organization. -/
structure OrgOutline where
  name : String
  mspId : String
  domain : String
  anchors : AnchorSource
deriving DecidableEq

/-- What the documents show of a network. -/
structure Outline where
  name : String
  consensus : Consensus
  channelName : String
  organizations : List OrgOutline
  ordererCount : Nat
deriving DecidableEq

/-- The source of an organization's anchor peers. An empty list counts as none. -/
def Organization.anchorSource (o : Organization) (peers : List Peer) : AnchorSource :=
  match o.anchorPeers with
  | some (a :: as) => .listed (a :: as)
  | _ => .mapped (peers.countP fun p => p.organizationId == o.id)

def Organization.outline (o : Organization) (peers : List Peer) : OrgOutline :=
  ⟨o.name, o.resolvedMspId, o.resolvedDomain, o.anchorSource peers⟩

/-- The outline of a network's records. -/
def Network.outline (n : Network) : Outline :=
  { name := n.name
    consensus := n.consensus
    channelName := n.channelName
    organizations := n.entities.organizations.map fun o => o.outline n.entities.peers
    ordererCount := n.entities.orderers.length }

/-! ### Profiles -/

/-- The profile without the id, which no document shows. -/
def OrgProfile.bare (o : OrgProfile) : OrgProfile := { o with id := "" }

/-- The profile without the id and the name, which no document shows. -/
def OrdererProfile.bare (o : OrdererProfile) : OrdererProfile := { o with id := "", name := "" }

/-- The anchor peers from a source in a domain. -/
def AnchorSource.peers (domain : String) : AnchorSource → List AnchorPeer
  | listed anchors => anchors
  | mapped count => AnchorPeer.firstPeers domain (max 1 count)

def OrgOutline.profile (o : OrgOutline) : OrgProfile := ⟨"", o.name, o.mspId, o.domain, o.anchors.peers o.domain⟩

/-- The profile of the orderer at a position, as far as it follows from the position. -/
def OrdererProfile.at (index : Nat) : OrdererProfile := ⟨"", "", index, Naming.ordererHostname index⟩

theorem Organization.peers_anchorSource (o : Organization) (peers : List Peer) :
    (o.anchorSource peers).peers o.resolvedDomain = o.anchorsAmong peers := by
  rw [anchorSource, anchorsAmong]
  cases o.anchorPeers with
  | none => rfl
  | some anchors => cases anchors <;> rfl

theorem Organization.bare_profile (o : Organization) (peers : List Peer) :
    (o.profile peers).bare = (o.outline peers).profile := by
  rw [profile, OrgProfile.bare, OrgOutline.profile, outline, o.peers_anchorSource]

namespace Network
variable {n : Network}

theorem bare_organizations (recorded : n.entities.isEmpty = false) :
    (Topology.ofNetwork n).organizations.map OrgProfile.bare = n.outline.organizations.map OrgOutline.profile := by
  rw [Topology.ofNetwork, source_of_recorded recorded]
  simp [Topology.extract, Source.entities, outline, Organization.bare_profile]

theorem bare_orderers (recorded : n.entities.isEmpty = false) :
    (Topology.ofNetwork n).orderers.map OrdererProfile.bare =
      (List.range n.outline.ordererCount).map OrdererProfile.at := by
  rw [Topology.ofNetwork, source_of_recorded recorded]
  refine List.ext_getElem (by simp [Topology.extract, Source.entities, outline]) fun i _ _ => ?_
  simp [Topology.extract, Source.entities, Orderer.profile, OrdererProfile.bare, OrdererProfile.at]

end Network

/-! ### Documents -/

namespace Document
variable (name channel : String) (consensus : Consensus) (organizations : List OrgProfile)
  (orderers : List OrdererProfile)

/-- What cannot tell items from what a function makes of them does not notice the function. -/
theorem map_of_blind {α β : Type} (blur : α → α) {f : α → β} (blind : ∀ a, f (blur a) = f a) (as : List α) :
    (as.map blur).map f = as.map f := by
  rw [List.map_map]
  exact List.map_congr_left fun a _ => blind a

theorem definitions_bare (domain : String) :
    definitions domain (organizations.map OrgProfile.bare) (orderers.map OrdererProfile.bare) =
      definitions domain organizations orderers := by
  rw [definitions, definitions, ordererOrgDefinition, ordererOrgDefinition, List.isEmpty_map,
    map_of_blind OrdererProfile.bare fun _ => rfl, map_of_blind OrgProfile.bare fun _ => rfl]

theorem agreement_bare (domain : String) :
    agreement domain (orderers.map OrdererProfile.bare) consensus = agreement domain orderers consensus := by
  cases consensus with
  | etcdRaft => rw [agreement, agreement, map_of_blind OrdererProfile.bare fun _ => rfl]
  | bft => rfl
  | solo => rfl

theorem orgReferences_bare : orgReferences (organizations.map OrgProfile.bare) = orgReferences organizations := by
  rw [orgReferences, orgReferences, map_of_blind OrgProfile.bare fun _ => rfl]

theorem channelConfigText_bare :
    channelConfigText name consensus channel (organizations.map OrgProfile.bare) (orderers.map OrdererProfile.bare) =
      channelConfigText name consensus channel organizations orderers := by
  simp only [channelConfigText, channelConfig, definitions_bare, ordererSection, agreement_bare, genesisProfile,
    channelProfile, orgReferences_bare, List.isEmpty_map]

theorem cryptoMaterialText_bare :
    cryptoMaterialText name (organizations.map OrgProfile.bare) (orderers.map OrdererProfile.bare) =
      cryptoMaterialText name organizations orderers := by
  rw [cryptoMaterialText, cryptoMaterialText, cryptoMaterial, cryptoMaterial, ordererOrgMaterial, ordererOrgMaterial,
    List.isEmpty_map, map_of_blind OrdererProfile.bare fun _ => rfl, map_of_blind OrgProfile.bare fun _ => rfl]

theorem services_bare :
    services name (organizations.map OrgProfile.bare) (orderers.map OrdererProfile.bare) =
      services name organizations orderers := by
  have orgServices : (organizations.map OrgProfile.bare).mapIdx orgServices = organizations.mapIdx orgServices := by
    refine List.ext_getElem (by simp) fun i _ _ => ?_
    rw [List.getElem_mapIdx, List.getElem_mapIdx, List.getElem_map]
    rfl
  rw [services, services, ordererServices, ordererServices, map_of_blind OrdererProfile.bare fun _ => rfl, orgServices]

theorem containersText_bare :
    containersText name (organizations.map OrgProfile.bare) (orderers.map OrdererProfile.bare) =
      containersText name organizations orderers := by
  rw [containersText, containersText, containers, containers, services_bare]

end Document

/-- The documents of an outline. -/
def Outline.artifacts (o : Outline) : Artifacts :=
  let organizations := o.organizations.map OrgOutline.profile
  let orderers := (List.range o.ordererCount).map OrdererProfile.at
  { configtx := Document.channelConfigText o.name o.consensus o.channelName organizations orderers
    cryptoConfig := Document.cryptoMaterialText o.name organizations orderers
    dockerCompose := Document.containersText o.name organizations orderers }

/-- The documents of a network with records follow from its outline. -/
theorem Network.artifacts_eq_outline {n : Network} (recorded : n.entities.isEmpty = false) :
    n.artifacts = n.outline.artifacts := by
  rw [Outline.artifacts, ← bare_organizations recorded, ← bare_orderers recorded, Document.channelConfigText_bare,
    Document.cryptoMaterialText_bare, Document.containersText_bare]
  rfl

/-- Networks with records that have one outline have the same documents, whatever else they hold. -/
theorem artifacts_eq_of_outline {n m : Network} (recorded : n.entities.isEmpty = false)
    (alsoRecorded : m.entities.isEmpty = false) (same : n.outline = m.outline) : n.artifacts = m.artifacts := by
  rw [n.artifacts_eq_outline recorded, m.artifacts_eq_outline alsoRecorded, same]

/-- A network of one organization with two peers and an orderer, with nothing but the defaults. -/
def modest : Network :=
  { Network.named "net" with
    entities :=
      { Entities.empty with
        organizations := [.named "o" "Org1"]
        peers := [.named "p" "peer0" "o", .named "q" "peer1" "o"]
        orderers := [.named "r" "orderer"] } }

/-- A network with another canvas, other ids, hosts and further records. -/
def lavish : Network :=
  { Network.named "net" with
    id := "7"
    entities :=
      { organizations := [⟨"org", "Org1", "Org1MSP", "org1.example.com", some []⟩]
        peers := [⟨"a", "east", "org", "east.net", 7051, false, true⟩, ⟨"b", "none", "", "", 1, true, true⟩,
          ⟨"c", "west", "org", "west.net", 7061, true, false⟩]
        orderers := [⟨"d", "raft", some "org", "raft.net", 9, false⟩]
        cas := [.named "e" "ca" "org"]
        channels := [⟨"f", "ledger", ["org"], ["d"]⟩]
        chaincodes := [.named "g" "trade" "f"] }
    nodes := [⟨"h", .organization, "Org9", none, .origin⟩]
    edges := [⟨"i", "h", "h"⟩]
    status := some .active }

theorem modest_artifacts_eq_lavish : modest.entities.isEmpty = false ∧ lavish.entities.isEmpty = false ∧
    modest.outline = lavish.outline ∧ modest.artifacts = lavish.artifacts :=
  ⟨rfl, rfl, by decide, artifacts_eq_of_outline rfl rfl (by decide)⟩

end FabricTopology
