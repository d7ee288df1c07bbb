import FabricTopology.Proofs.Canvas.Derivation
import FabricTopology.Proofs.Document.AnchorPeers
import FabricTopology.Proofs.Topology

/-!
A canvas and the records that are kept in its stead. A canvas counts the anchor peers of an organization by the
edges at the organization, and records count them by the keys of the peers. The two counts are the same where
every peer is joined to one organization at most and no id of an organization is empty, and then the same
profiles and documents are made of both (`recorded_agrees`).
-/
namespace FabricTopology

/-- The records without the anchor peers, which are left to the defaults. -/
def Entities.unanchored (e : Entities) : Entities :=
  { e with organizations := e.organizations.map fun o => { o with anchorPeers := none } }

/-- The network with other records. -/
def Network.recorded (n : Network) (e : Entities) : Network := { n with entities := e }

theorem Entities.isEmpty_iff {e : Entities} : e.isEmpty ↔ e.counts.total = 0 := by
  simp only [isEmpty, Bool.and_eq_true, List.isEmpty_iff_length_eq_zero, counts, KindCounts.total]
  omega

theorem Topology.artifacts_congr {t t' : Topology} (name : t.networkName = t'.networkName)
    (consensus : t.consensus = t'.consensus) (channel : t.channelName = t'.channelName)
    (organizations : t.organizations = t'.organizations) (orderers : t.orderers = t'.orderers) :
    t.artifacts = t'.artifacts := by
  simp only [artifacts, Artifact.text, name, consensus, channel, organizations, orderers]

namespace Canvas
variable {c : Canvas} {node peer : Node}

/-- Every peer is joined to one organization at most. -/
def PeersSettled (c : Canvas) : Prop :=
  ∀ peer ∈ c.nodesOf .peer, ∀ a ∈ c.nodesOf .organization, ∀ b ∈ c.nodesOf .organization,
    c.Joins peer.id a.id → c.Joins peer.id b.id → a.id = b.id

instance (c : Canvas) : Decidable c.PeersSettled :=
  inferInstanceAs (Decidable (∀ peer ∈ c.nodesOf .peer, ∀ a ∈ c.nodesOf .organization,
    ∀ b ∈ c.nodesOf .organization, c.Joins peer.id a.id → c.Joins peer.id b.id → a.id = b.id))

/-- A settled peer refers to an organization exactly if it is joined to it. -/
theorem key_eq_iff (settled : c.PeersSettled) (drawn : peer ∈ c.nodesOf .peer)
    (organization : node ∈ c.nodesOf .organization) (named : node.id ≠ "") :
    ((c.neighbors peer.id .organization).head?.map (·.id)).getD "" = node.id ↔ c.Joins node.id peer.id := by
  cases first : (c.neighbors peer.id .organization).head? with
  | none =>
    have alone := List.head?_eq_none_iff.mp first
    constructor
    · intro empty
      exact absurd empty.symm named
    · intro joined
      have listed := mem_neighbors_iff.mpr ⟨organization, joins_comm.mp joined⟩
      rw [alone] at listed
      cases listed
  | some other =>
    obtain ⟨otherDrawn, otherJoined⟩ := mem_neighbors_iff.mp (List.mem_of_head? first)
    show other.id = node.id ↔ _
    constructor
    · intro same
      exact joins_comm.mp (same ▸ otherJoined)
    · intro joined
      exact settled peer drawn other otherDrawn node organization otherJoined (joins_comm.mp joined)

/-- As many peers are mapped to an organization as are drawn next to it. -/
theorem countP_mapped (settled : c.PeersSettled) (organization : node ∈ c.nodesOf .organization)
    (named : node.id ≠ "") :
    c.entities.peers.countP (fun p => p.organizationId == node.id) = (c.neighbors node.id .peer).length := by
  rw [entities_eq, List.countP_map, neighbors_eq, ← List.countP_eq_length_filter]
  refine List.countP_congr fun peer drawn => ?_
  rw [Function.comp_apply, beq_iff_eq, decide_eq_true_iff]
  exact key_eq_iff settled drawn organization named

/-- An organization of a canvas has the same profile without its anchor peers. -/
theorem profile_unanchored (settled : c.PeersSettled) (named : ∀ node ∈ c.nodesOf .organization, node.id ≠ "")
    {o : Organization} (member : o ∈ c.entities.organizations) :
    ({ o with anchorPeers := none } : Organization).profile c.entities.peers = o.profile c.entities.peers := by
  have anchors := anchorPeers_of_mem member
  have mapped : c.entities.peers.countP (fun p => p.organizationId == o.id) = (c.neighbors o.id .peer).length := by
    have listed : o.id ∈ c.entities.organizations.map (·.id) := List.mem_map_of_mem member
    rw [ids_organizations] at listed
    obtain ⟨node, drawn, same⟩ := List.mem_map.mp listed
    rw [← same]
    exact countP_mapped settled drawn (named node drawn)
  suffices ({ o with anchorPeers := none } : Organization).anchorsAmong c.entities.peers =
      o.anchorsAmong c.entities.peers by
    rw [Organization.profile, Organization.profile, this]
    rfl
  rw [Organization.anchorsAmong_of_empty rfl, mapped]
  by_cases lone : (c.neighbors o.id .peer).length = 0
  · rw [if_pos lone] at anchors
    rw [Organization.anchorsAmong_of_empty (by rw [anchors]; rfl), mapped]
    rfl
  · rw [if_neg lone] at anchors
    have some : AnchorPeer.firstPeers o.resolvedDomain (c.neighbors o.id .peer).length ≠ [] := by
      simpa [AnchorPeer.firstPeers] using lone
    rw [Organization.anchorsAmong_of_some anchors some, Nat.max_eq_right (Nat.pos_of_ne_zero lone)]
    rfl

/-- A canvas without nodes stands for no records. -/
theorem entities_of_nodes_eq_nil (blank : c.nodes = []) : c.entities = .empty := by
  simp [entities_eq, nodesOf, blank, Entities.empty]

/-- A network has the records of a canvas if it is given them, whatever else is drawn; nothing may be drawn if
    they are none. -/
theorem entities_source_recorded (n : Network) {other : Canvas} (blank : c.nodes = [] → other.nodes = []) :
    ((n.drawn other).recorded c.entities.unanchored).source.entities = c.entities.unanchored := by
  have same : c.entities.unanchored.counts.total = c.nodes.length := by
    rw [← total_counts]
    simp [Entities.unanchored, Entities.counts]
  show (if c.entities.unanchored.isEmpty then Source.canvas other else .records c.entities.unanchored).entities = _
  by_cases none : c.nodes = []
  · have recorded : c.entities.unanchored = .empty := by
      rw [entities_of_nodes_eq_nil none]
      rfl
    rw [recorded]
    exact entities_of_nodes_eq_nil (blank none)
  · rw [if_neg]
    · rfl
    · rw [Entities.isEmpty_iff, same, List.length_eq_zero_iff]
      exact none

end Canvas

/-- Where no id of an organization is empty and every peer is joined to one organization at most, the records of a
    canvas, kept by hand without anchor peers, have the profiles of the canvas itself, and a network with these
    records has the documents of a network with this canvas and no records. -/
theorem recorded_agrees {c : Canvas} (named : ∀ node ∈ c.nodesOf .organization, node.id ≠ "")
    (settled : c.PeersSettled) :
    (∀ name, let kept := Topology.extract name (.records c.entities.unanchored)
      let drawn := Topology.extract name (.canvas c)
      kept.organizations = drawn.organizations ∧ kept.orderers = drawn.orderers) ∧
    ∀ (n : Network) (other : Canvas), (c.nodes = [] → other.nodes = []) →
      ((n.drawn other).recorded c.entities.unanchored).artifacts = ((n.drawn c).recorded .empty).artifacts := by
  have organizations (name : String) : (Topology.extract name (.records c.entities.unanchored)).organizations =
      (Topology.extract name (.canvas c)).organizations := by
    show (c.entities.organizations.map _).map _ = c.entities.organizations.map _
    rw [List.map_map]
    exact List.map_congr_left fun o member => Canvas.profile_unanchored settled named member
  refine ⟨fun name => ⟨organizations name, rfl⟩, fun n other blank => ?_⟩
  have kept : Topology.extract n.name ((n.drawn other).recorded c.entities.unanchored).source =
      Topology.extract n.name (.records c.entities.unanchored) :=
    Topology.extract_congr (Canvas.entities_source_recorded n blank) n.name
  refine Topology.artifacts_congr rfl rfl rfl ?_ ?_
  · exact (congrArg Topology.organizations kept).trans (organizations n.name)
  · exact (congrArg Topology.orderers kept).trans rfl

/-- Two peers of one organization, drawn apart and one of them joined twice, another organization with one peer, one
    without peers, and a peer that is joined to none. -/
def Canvas.settledPeers : Canvas :=
  { nodes := [⟨"p", .peer, "peer0", none, .origin⟩, ⟨"o", .organization, "Org1", none, .origin⟩,
      ⟨"a", .organization, "Org2", none, .origin⟩, ⟨"q", .peer, "peer0", none, .origin⟩,
      ⟨"u", .peer, "peer1", none, .origin⟩, ⟨"v", .peer, "peer2", none, .origin⟩,
      ⟨"b", .organization, "Org3", none, .origin⟩, ⟨"r", .orderer, "orderer", none, .origin⟩]
    edges := [⟨"1", "o", "p"⟩, ⟨"2", "u", "o"⟩, ⟨"3", "p", "o"⟩, ⟨"4", "q", "a"⟩, ⟨"5", "v", "r"⟩] }

theorem recorded_agrees_settledPeers :
    (∀ node ∈ Canvas.settledPeers.nodesOf .organization, node.id ≠ "") ∧ Canvas.settledPeers.PeersSettled ∧
    (Topology.extract "net" (.records Canvas.settledPeers.entities.unanchored)).organizations.map
      (·.anchorPeers.length) = [2, 1, 1] ∧
    ((Network.named "net").recorded Canvas.settledPeers.entities.unanchored).artifacts =
      (((Network.named "net").drawn Canvas.settledPeers).recorded .empty).artifacts := by
  have named : ∀ node ∈ Canvas.settledPeers.nodesOf .organization, node.id ≠ "" := by decide
  have settled : Canvas.settledPeers.PeersSettled := by decide
  obtain ⟨profiles, documents⟩ := recorded_agrees named settled
  refine ⟨named, settled, ?_, documents (Network.named "net") ⟨[], []⟩ fun _ => rfl⟩
  rw [(profiles "net").1]
  decide

end FabricTopology
