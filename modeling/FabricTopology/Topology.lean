import FabricTopology.Canvas
import FabricTopology.Network.Basic
import FabricTopology.Network.Codec
import FabricTopology.Network.Entities

/-!
What the documents need to know of a network, whichever way it is described. Records kept by hand
come before the canvas, which counts only where there are none. Each organization is resolved to a
profile with its membership provider, domain and anchor peers, and each orderer to its position and
host name.

A canvas stands for one record for each node, in the collection of its kind and in the order of the canvas. Where a
record refers to one other node it takes the first neighbour of the right kind; a channel lists all of them. The anchor
peers of an organization are as many as the peers next to it.
-/
namespace FabricTopology

/-! ### The records of a canvas -/

/-- The `count` first peers of a domain as anchor peers. -/
def AnchorPeer.firstPeers (domain : String) (count : Nat) : List AnchorPeer :=
  (List.range count).map fun k => ⟨Naming.peerHost k domain, Naming.peerPort⟩

namespace Canvas

/-- The name of the organization that is drawn at a position among the organizations: its label
    without white space around it, or a name made from the position. -/
def organizationName (position : Nat) (label : String) : String :=
  match Text.trim label.toList with
  | [] => "Org" ++ toString (position + 1)
  | cs => String.ofList cs

/-- The ids of nodes. -/
def idsOf (nodes : List Node) : List String := nodes.map (·.id)

/-- The organization for a node with the given peers next to it. -/
def organizationOf (position : Nat) (n : Node) (peers : List Node) : Organization :=
  let o := Organization.named n.id (organizationName position n.label)
  if peers.isEmpty then o
  else { o with anchorPeers := some (AnchorPeer.firstPeers o.resolvedDomain peers.length) }

/-- The records that a canvas stands for. -/
def entities (c : Canvas) : Entities :=
  let edges := c.links
  let near (n : Node) (kind : NodeKind) : List Node := c.joinedBy edges n.id kind
  let first? (n : Node) (kind : NodeKind) : Option String := (near n kind).head?.map (·.id)
  let first (n : Node) (kind : NodeKind) : String := (first? n kind).getD ""
  { organizations := (c.nodesOf .organization).mapIdx fun i n => organizationOf i n (near n .peer)
    peers := (c.nodesOf .peer).map fun n => .named n.id n.label (first n .organization)
    orderers := (c.nodesOf .orderer).map fun n =>
      { Orderer.named n.id n.label with organizationId := first? n .organization }
    cas := (c.nodesOf .certificateAuthority).map fun n =>
      .named n.id n.label (first n .organization)
    channels := (c.nodesOf .channel).map fun n =>
      ⟨n.id, n.label, idsOf (near n .organization), idsOf (near n .orderer)⟩
    chaincodes := (c.nodesOf .chaincode).map fun n => .named n.id n.label (first n .channel) }

end Canvas

/-! ### Topologies -/

/-- Where the records of a network come from. -/
inductive Source where
  | canvas (c : Canvas)
  | records (e : Entities)

/-- The records of a source. -/
def Source.entities : Source → Entities
  | canvas c => c.entities
  | records e => e

/-- The source of a network: its records, or its canvas when it has none. -/
def Network.source (n : Network) : Source :=
  if n.entities.isEmpty then .canvas n.canvas else .records n.entities

/-- An organization as the documents refer to it. -/
structure OrgProfile where
  id : String
  name : String
  mspId : String
  domain : String
  anchorPeers : List AnchorPeer
deriving DecidableEq

/-- An orderer as the documents refer to it. -/
structure OrdererProfile where
  id : String
  name : String
  index : Nat
  hostname : String
deriving DecidableEq

/-- The orderer's host name in a domain. -/
def OrdererProfile.host (o : OrdererProfile) (domain : String) : String :=
  Naming.ordererHost o.index domain

/-- How many records of each kind there are. -/
structure KindCounts where
  organizations : Nat
  peers : Nat
  orderers : Nat
  cas : Nat
  channels : Nat
  chaincodes : Nat
deriving DecidableEq

/-- How many records of each kind there are. -/
def Entities.counts (e : Entities) : KindCounts :=
  ⟨e.organizations.length, e.peers.length, e.orderers.length, e.cas.length, e.channels.length,
    e.chaincodes.length⟩

/-- The anchor peers of an organization: those it lists, or else one for each of its peers, or else
    its first peer. -/
def Organization.anchorsAmong (o : Organization) (peers : List Peer) : List AnchorPeer :=
  match o.anchorPeers with
  | some (a :: as) => a :: as
  | _ =>
    AnchorPeer.firstPeers o.resolvedDomain (max 1 (peers.countP fun p => p.organizationId == o.id))

/-- The profile of an organization among the given peers. -/
def Organization.profile (o : Organization) (peers : List Peer) : OrgProfile :=
  ⟨o.id, o.name, o.resolvedMspId, o.resolvedDomain, o.anchorsAmong peers⟩

/-- The profile of the orderer at a position. -/
def Orderer.profile (index : Nat) (o : Orderer) : OrdererProfile :=
  ⟨o.id, o.name, index, Naming.ordererHostname index⟩

/-- What the documents need to know of a network. -/
structure Topology where
  networkName : String
  consensus : Consensus
  channelName : String
  ordererDomain : String
  organizations : List OrgProfile
  orderers : List OrdererProfile
  entities : Entities
  counts : KindCounts

namespace Topology

/-- The topology of a source under a network name, with the usual way to agree and channel. -/
def extract (networkName : String) (source : Source) : Topology :=
  let e := source.entities
  { networkName
    consensus := .etcdRaft
    channelName := Network.defaultChannel
    ordererDomain := Naming.ordererDomain networkName
    organizations := e.organizations.map fun o => o.profile e.peers
    orderers := e.orderers.mapIdx Orderer.profile
    entities := e
    counts := e.counts }

/-- The topology of a saved network. -/
def ofNetwork (n : Network) : Topology :=
  { extract n.name n.source with consensus := n.consensus, channelName := n.channelName }

end Topology

/-! ### Topologies in JSON -/

def OrgProfile.toJson (o : OrgProfile) : Json :=
  .obj [
    ("id", .str o.id),
    ("name", .str o.name),
    ("mspId", .str o.mspId),
    ("domain", .str o.domain),
    ("anchorPeers", .arr (o.anchorPeers.map AnchorPeer.toJson))]

def OrdererProfile.toJson (o : OrdererProfile) : Json :=
  .obj [
    ("id", .str o.id),
    ("name", .str o.name),
    ("index", .int o.index),
    ("hostname", .str o.hostname)]

def KindCounts.toJson (c : KindCounts) : Json :=
  .obj [
    ("organizations", .int c.organizations),
    ("peers", .int c.peers),
    ("orderers", .int c.orderers),
    ("cas", .int c.cas),
    ("channels", .int c.channels),
    ("chaincodes", .int c.chaincodes)]

def Topology.toJson (t : Topology) : Json :=
  .obj [
    ("networkName", .str t.networkName),
    ("consensus", .str t.consensus.name),
    ("channelName", .str t.channelName),
    ("ordererDomain", .str t.ordererDomain),
    ("organizations", .arr (t.organizations.map OrgProfile.toJson)),
    ("orderers", .arr (t.orderers.map OrdererProfile.toJson)),
    ("entities", t.entities.toJson),
    ("counts", t.counts.toJson)]

end FabricTopology
