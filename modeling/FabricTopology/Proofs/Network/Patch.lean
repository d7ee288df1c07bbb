import FabricTopology.Proofs.Json.Text
import FabricTopology.Proofs.Network.Codec

/-!
The encoding of a network. All of it is read back from its text, if only the coordinates on its canvas are
(`legible_toJson`), and it is a patch to all parts of the network but the id and the times (`ofJson?_toJson`).
-/
namespace FabricTopology

/-! ### As a text -/

open Json

/-- Both coordinates are numbers that are read back from their texts. -/
def Position.IsLegible (p : Position) : Prop := LegibleNumber p.x ∧ LegibleNumber p.y

/-- Every node of the canvas has a place that is read back from its text. -/
def Network.IsLegible (n : Network) : Prop := ∀ node ∈ n.nodes, node.position.IsLegible

instance (n : Network) : Decidable n.IsLegible :=
  inferInstanceAs (Decidable (∀ node ∈ n.nodes, LegibleNumber node.position.x ∧ LegibleNumber node.position.y))

instance (n : Network) : Decidable n.IsPlaced :=
  inferInstanceAs (Decidable (∀ node ∈ n.nodes, node.position.x.isFinite = true ∧ node.position.y.isFinite = true))

theorem legible_ofFloat {x : Float} (legible : LegibleNumber x) : Legible (.ofFloat x) := by
  rw [ofFloat, if_pos legible.1]
  exact .float legible

theorem Position.legible_toJson {p : Position} (legible : p.IsLegible) : Legible p.toJson :=
  legible_ofMembers p.rows (by simp [Position.rows, legible_ofFloat, legible.1, legible.2])

theorem Node.legible_toJson {n : Node} (legible : n.position.IsLegible) : Legible n.toJson :=
  legible_ofMembers n.rows (by simp [Node.rows, Position.legible_toJson legible])

theorem Edge.legible_toJson (e : Edge) : Legible e.toJson := legible_ofMembers e.rows (by simp [Edge.rows])

theorem Entities.legible_members (e : Entities) : ∀ row ∈ e.rows, ∀ j ∈ row.2, Legible j := by
  have texts (ss : List String) : Legible (.ofStrings ss) := legible_arr fun s _ => .str s
  have anchors (as : List AnchorPeer) : Legible (.arr (as.map AnchorPeer.toJson)) :=
    legible_arr fun a _ => legible_ofMembers a.rows (by simp [AnchorPeer.rows])
  have organization (o : Organization) : Legible o.toJson :=
    legible_ofMembers o.rows (by simp [Organization.rows, anchors])
  have peer (p : Peer) : Legible p.toJson :=
    legible_ofMembers p.rows (by simp [Peer.rows])
  have orderer (o : Orderer) : Legible o.toJson :=
    legible_ofMembers o.rows (by simp [Orderer.rows])
  have ca (c : CertificateAuthority) : Legible c.toJson :=
    legible_ofMembers c.rows (by simp [CertificateAuthority.rows])
  have channel (c : Channel) : Legible c.toJson :=
    legible_ofMembers c.rows (by simp [Channel.rows, texts])
  have chaincode (c : Chaincode) : Legible c.toJson :=
    legible_ofMembers c.rows (by simp [Chaincode.rows])
  simp [Entities.rows, Entities.members, legible_arr, organization, peer, orderer, ca, channel, chaincode]

theorem Network.IsLegible.isPlaced {n : Network} (legible : n.IsLegible) : n.IsPlaced :=
  fun node stands => ⟨(legible node stands).1.1, (legible node stands).2.1⟩

/-- The encoding of a network is legible if its canvas is. -/
theorem Network.legible_toJson {n : Network} (legible : n.IsLegible) : Legible n.toJson := by
  have nodes : Legible (.arr (n.nodes.map Node.toJson)) :=
    legible_arr fun node stands => Node.legible_toJson (legible node stands)
  have edges : Legible (.arr (n.edges.map Edge.toJson)) := legible_arr fun e _ => e.legible_toJson
  refine legible_ofMembers n.rows ?_
  rw [rows, List.forall_mem_append, List.forall_mem_append]
  refine ⟨⟨by simp, n.entities.legible_members⟩, ?_⟩
  simp [nodes, edges, Calendar.Timestamp.toJson]

/-! ### As a patch -/

open Json.Rewording

/-- The patch to every part of a network. -/
def Network.asPatch (m : Network) : NetworkPatch :=
  { name := some m.name
    consensus := some m.consensus
    channelName := some m.channelName
    organizations := some m.entities.organizations
    peers := some m.entities.peers
    orderers := some m.entities.orderers
    cas := some m.entities.cas
    channels := some m.entities.channels
    chaincodes := some m.entities.chaincodes
    nodes := some m.nodes
    edges := some m.edges
    status := m.status }

namespace NetworkPatch

theorem apply_asPatch (m n : Network) :
    m.asPatch.apply n =
      { m with id := n.id, createdAt := n.createdAt, updatedAt := n.updatedAt, status := m.status <|> n.status } := rfl

theorem ofJson?_written {m : Network} (placed : m.IsPlaced) {j : Json} (written : Written Network.fields m.rows j) :
    ofJson? j = some m.asPatch := by
  have name : j.optionalMember Json.str? 0 ["name"] = some (some m.name) :=
    written.optionalMember 1 rfl rfl (fun s _ => reads_str s) rfl
  have consensus : j.optionalMember Consensus.ofJson? 1 ["consensusType"] = some (some m.consensus) :=
    written.optionalMember 2 rfl rfl (fun c _ => c.reads) rfl
  have channelName : j.optionalMember Json.str? 2 ["channelName"] = some (some m.channelName) :=
    written.optionalMember 3 rfl rfl (fun s _ => reads_str s) rfl
  have organizations : j.optionalMember (Json.list? Organization.ofJson?) 3 ["organizations"] =
      some (some m.entities.organizations) :=
    written.optionalMember 4 rfl rfl (fun os _ => reads_list fun o _ => o.reads) rfl
  have peers : j.optionalMember (Json.list? Peer.ofJson?) 4 ["peers"] = some (some m.entities.peers) :=
    written.optionalMember 5 rfl rfl (fun ps _ => reads_list fun p _ => p.reads) rfl
  have orderers : j.optionalMember (Json.list? Orderer.ofJson?) 5 ["orderers"] = some (some m.entities.orderers) :=
    written.optionalMember 6 rfl rfl (fun os _ => reads_list fun o _ => o.reads) rfl
  have cas : j.optionalMember (Json.list? CertificateAuthority.ofJson?) 6 ["cas"] = some (some m.entities.cas) :=
    written.optionalMember 7 rfl rfl (fun cs _ => reads_list fun c _ => c.reads) rfl
  have channels : j.optionalMember (Json.list? Channel.ofJson?) 7 ["channels"] = some (some m.entities.channels) :=
    written.optionalMember 8 rfl rfl (fun cs _ => reads_list fun c _ => c.reads) rfl
  have chaincodes : j.optionalMember (Json.list? Chaincode.ofJson?) 8 ["chaincodes"] =
      some (some m.entities.chaincodes) :=
    written.optionalMember 9 rfl rfl (fun cs _ => reads_list fun c _ => c.reads) rfl
  have nodes : j.optionalMember (Json.list? Node.ofJson?) 9 ["nodes"] = some (some m.nodes) := by
    have row : m.rows[10]? = some ("nodes", (some m.nodes).map fun ns => .arr (ns.map Node.toJson)) := rfl
    refine written.optionalMember 10 rfl row (fun ns drawn => ?_) rfl
    cases drawn
    exact reads_list fun node stands => Node.reads (placed node stands)
  have edges : j.optionalMember (Json.list? Edge.ofJson?) 10 ["edges"] = some (some m.edges) :=
    written.optionalMember 11 rfl rfl (fun es _ => reads_list fun e _ => e.reads) rfl
  have status : j.optionalMember Status.ofJson? 11 ["status"] = some m.status :=
    written.optionalMember 14 rfl rfl (fun x _ => x.reads) rfl
  simp [ofJson?, written.isRecord, Network.asPatch, name, consensus, channelName, organizations, peers, orderers, cas,
    channels, chaincodes, nodes, edges, status]

/-- The encoding of a network is read as the patch to every part of it. -/
theorem ofJson?_toJson {m : Network} (placed : m.IsPlaced) : ofJson? m.toJson = some m.asPatch :=
  ofJson?_written placed ⟨by decide, by simp [Network.rows, Entities.rows, Entities.members], m.self.1⟩

end NetworkPatch

end FabricTopology
