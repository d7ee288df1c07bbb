import FabricTopology.Deployment
import FabricTopology.Proofs.Canvas.Recorded
import FabricTopology.Proofs.Network.Defaults
import FabricTopology.Proofs.Validation.Report

/-!
Networks whose records are drawn on their canvas as well. A report and the counts of a deployment look at nothing
but ids, names and keys (`validate_bare`, `counts_bare`), and so the records may have hosts and ports of their own.
Where the defaults of the organizations are written out besides, the records can be left to the canvas: the same is
compiled and deployed without them (`Mirrored.compile`, `Mirrored.deployment`).
-/
namespace FabricTopology

/-! ### Records with nothing but their ids, names and keys -/

theorem Entities.counts_bare (e : Entities) : e.bare.counts = e.counts := by simp [counts, bare]

theorem Entities.orderers_bare (e : Entities) :
    e.bare.orderers.mapIdx Orderer.profile = e.orderers.mapIdx Orderer.profile := by
  refine List.ext_getElem (by simp [bare]) fun i _ _ => ?_
  simp [bare, Orderer.profile, Orderer.named]

/-- Anchor peers follow from the keys of peers. -/
theorem Organization.profile_bare (o : Organization) (e : Entities) : o.profile e.bare.peers = o.profile e.peers := by
  have mapped : e.bare.peers.countP (fun p => p.organizationId == o.id) =
      e.peers.countP fun p => p.organizationId == o.id := by
    simp [Entities.bare, List.countP_map, Function.comp_def, Peer.named]
  simp only [profile, anchorsAmong, mapped]

/-! ### Records that are drawn as well -/

/-- Without its anchor peers an organization of a canvas has nothing but its name. -/
theorem Canvas.organizationOf_unanchored (position : Nat) (node : Node) (peers : List Node) :
    { organizationOf position node peers with anchorPeers := none } =
      Organization.named node.id (organizationName position node.label) := by
  by_cases lone : peers.isEmpty <;> simp [organizationOf, lone, Organization.named]

/-- The source of a network without records is its canvas, and that of one with records is in its records. -/
theorem Network.source_eq (n : Network) : n.source = (n.recorded .empty).source ∨ n.source = .records n.entities := by
  rw [source]
  by_cases unrecorded : n.entities.isEmpty
  · exact .inl (if_pos unrecorded)
  · exact .inr (if_neg unrecorded)

/-- The canvas of a network shows its records, but for hosts and ports, and its organizations have their defaults
    written out. -/
structure Network.Mirrored (n : Network) : Prop where
  bare : n.entities.bare = n.canvas.entities.bare
  organizations : n.entities.organizations = n.canvas.entities.unanchored.organizations.map Organization.withDefaults
  named : ∀ node ∈ n.canvas.nodesOf .organization, node.id ≠ ""
  settled : n.canvas.PeersSettled

namespace Network.Mirrored
variable {n : Network}

/-- What counts of the records is on the canvas. -/
theorem bare_source (mirrored : n.Mirrored) : n.canvas.entities.bare = n.source.entities.bare := by
  rcases n.source_eq with drawn | kept
  · rw [drawn]
    rfl
  · rw [kept]
    exact mirrored.bare.symm

theorem profiles (mirrored : n.Mirrored) :
    n.entities.organizations.map (fun o => o.profile n.entities.peers) =
      n.canvas.entities.organizations.map fun o => o.profile n.canvas.entities.peers := by
  rw [mirrored.organizations, Entities.unanchored, List.map_map, List.map_map]
  refine List.map_congr_left fun o member => ?_
  rw [Function.comp_apply, Function.comp_apply, Organization.profile_withDefaults, ← Organization.profile_bare,
    mirrored.bare, Organization.profile_bare]
  exact Canvas.profile_unanchored mirrored.settled mirrored.named member

theorem organizations_source (mirrored : n.Mirrored) :
    (Topology.ofNetwork (n.recorded .empty)).organizations = (Topology.ofNetwork n).organizations := by
  rw [Topology.organizations_ofNetwork, Topology.organizations_ofNetwork]
  rcases n.source_eq with drawn | kept
  · rw [drawn]
  · rw [kept]
    exact mirrored.profiles.symm

/-- Without the records the same is made of the network. -/
theorem compile (mirrored : n.Mirrored) : (n.recorded .empty).compile = n.compile := by
  have orderers : (Topology.ofNetwork (n.recorded .empty)).orderers = (Topology.ofNetwork n).orderers := by
    show n.canvas.entities.orderers.mapIdx _ = n.source.entities.orderers.mapIdx _
    rw [← Entities.orderers_bare, mirrored.bare_source, Entities.orderers_bare]
  have artifacts : (n.recorded .empty).artifacts = n.artifacts :=
    Topology.artifacts_congr rfl rfl rfl mirrored.organizations_source orderers
  have report : n.canvas.entities.validate = n.source.entities.validate := by
    rw [← Entities.validate_bare, mirrored.bare_source, Entities.validate_bare]
  exact congrArg₂ (Compilation.mk · · n.canvas.lint) artifacts report

/-- Without the records a deployment of the network has the same nodes. -/
theorem deployment (mirrored : n.Mirrored) (id : String) (now : Calendar.Timestamp) :
    Deployment.ofNetwork id (n.recorded .empty) now = Deployment.ofNetwork id n now := by
  have counts : (Topology.ofNetwork (n.recorded .empty)).counts = (Topology.ofNetwork n).counts := by
    show n.canvas.entities.counts = n.source.entities.counts
    rw [← Entities.counts_bare, mirrored.bare_source, Entities.counts_bare]
  rw [Deployment.ofNetwork, Deployment.ofNetwork, counts]
  rfl

end Network.Mirrored

end FabricTopology
