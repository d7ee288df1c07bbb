import FabricTopology.Proofs.Canvas.Neighbors
import FabricTopology.Proofs.Topology

/-!
What may change on a canvas without any effect. Nodes may be moved and described anew, and reordered among
the kinds; edges may be reordered, reversed, renamed and repeated, and loops and edges with a missing end
come and go. All of it leaves the same drawing (`SameDrawing`), and the same is made of the same drawing.
-/
namespace FabricTopology

/-- The node without its description and its place. -/
def Node.bare (n : Node) : Node := { n with description := none, position := .origin }

namespace Canvas

/-- The same nodes kind by kind, but for their descriptions and places, and the same pairs of ids joined. -/
structure SameDrawing (c c' : Canvas) : Prop where
  nodes : ∀ kind, (c.nodesOf kind).map Node.bare = (c'.nodesOf kind).map Node.bare
  joins : ∀ a b, c.Joins a b ↔ c'.Joins a b

/-- The canvas with bare nodes. -/
def bare (c : Canvas) : Canvas := { c with nodes := c.nodes.map Node.bare }

variable {c c' : Canvas}

theorem nodesOf_bare (c : Canvas) (kind : NodeKind) : c.bare.nodesOf kind = (c.nodesOf kind).map Node.bare := by
  simp only [nodesOf, bare, List.filter_map]
  rfl

theorem hasNode_bare (c : Canvas) (id : String) : c.bare.hasNode id = c.hasNode id := by
  simp only [hasNode, bare, List.any_map]
  rfl

theorem joins_bare (c : Canvas) (a b : String) : c.bare.Joins a b ↔ c.Joins a b := by
  simp only [joins_iff, links, isDangling, hasNode_bare]
  rfl

theorem neighbors_bare (c : Canvas) (id : String) (kind : NodeKind) :
    c.bare.neighbors id kind = (c.neighbors id kind).map Node.bare := by
  rw [neighbors_eq, neighbors_eq, nodesOf_bare, List.filter_map]
  simp only [joins_bare]
  rfl

/-- No record holds a description or a place. -/
theorem entities_bare (c : Canvas) : c.bare.entities = c.entities := by
  rw [entities_eq, entities_eq, Entities.mk.injEq]
  simp only [nodesOf_bare, neighbors_bare, List.map_map]
  refine ⟨?_, ?_, ?_, ?_, ?_, ?_⟩
  · refine List.ext_getElem (by simp) fun i _ _ => ?_
    simp [organizationOf, Node.bare]
  all_goals
    refine List.map_congr_left fun n _ => ?_
    simp [idsOf, Node.bare, Function.comp_def]

theorem SameDrawing.entities (same : c.SameDrawing c') : c.entities = c'.entities := by
  have nodes (kind : NodeKind) : c.bare.nodesOf kind = c'.bare.nodesOf kind := by
    rw [nodesOf_bare, nodesOf_bare, same.nodes]
  have joins (a b : String) : c.bare.Joins a b ↔ c'.bare.Joins a b := by
    rw [joins_bare, joins_bare, same.joins]
  rw [← entities_bare c, ← entities_bare c']
  exact entities_congr nodes fun _ other _ n _ => neighbors_congr (nodes other) fun m _ => joins n.id m.id

/-- Every pair that is joined here is joined there, if only the edges that are neither loops nor dangling
    have their ends joined there. -/
theorem joins_imp_iff : (∀ a b, c.Joins a b → c'.Joins a b) ↔
    ∀ e ∈ c.links, e.sourceNodeId ≠ e.targetNodeId → c'.Joins e.sourceNodeId e.targetNodeId := by
  constructor
  · intro joins e link distinct
    exact joins _ _ (joins_iff.mpr ⟨distinct, e, link, .inl ⟨rfl, rfl⟩⟩)
  · intro joins a b joined
    obtain ⟨distinct, e, link, ⟨rfl, rfl⟩ | ⟨rfl, rfl⟩⟩ := joins_iff.mp joined
    · exact joins e link distinct
    · exact joins_comm.mp (joins e link distinct.symm)

end Canvas

/-- Networks that differ in nothing but how their canvas is drawn have the same topology, and the same
    documents, report and scripts are made of them. -/
theorem alike_of_sameDrawing {c c' : Canvas} (same : c.SameDrawing c') :
    (∀ name, Topology.extract name (.canvas c) = Topology.extract name (.canvas c')) ∧
    ∀ n : Network, (n.drawn c).Alike (n.drawn c') := by
  have entities := same.entities
  refine ⟨Topology.extract_congr entities, fun n => ?_⟩
  exact Network.alike_of_topology (Topology.ofNetwork_drawn entities n)

namespace Canvas

/-- An organization with a peer, and an orderer. -/
def pair : Canvas :=
  { nodes := [⟨"o", .organization, "Org1", none, .origin⟩, ⟨"p", .peer, "peer0", none, .origin⟩,
      ⟨"r", .orderer, "orderer", none, .origin⟩]
    edges := [⟨"e", "o", "p"⟩, ⟨"f", "r", "o"⟩] }

/-- The same canvas with its nodes in another order, one of them moved and described, and its edges
    reversed, repeated and renamed, with a loop and an edge to nowhere among them. -/
def untidyPair : Canvas :=
  { nodes := [⟨"r", .orderer, "orderer", none, .origin⟩, ⟨"p", .peer, "peer0", some "first", ⟨7, 2⟩⟩,
      ⟨"o", .organization, "Org1", none, .origin⟩]
    edges := [⟨"g", "o", "r"⟩, ⟨"loop", "p", "p"⟩, ⟨"h", "p", "o"⟩, ⟨"h", "o", "p"⟩, ⟨"e", "p", "x"⟩] }

theorem sameDrawing_untidyPair : pair.SameDrawing untidyPair where
  nodes kind := by cases kind <;> rfl
  joins a b := ⟨joins_imp_iff.mpr (by decide) a b, joins_imp_iff.mpr (by decide) a b⟩

theorem untidyPair_alike : pair.SameDrawing untidyPair ∧
    (∀ name, Topology.extract name (.canvas pair) = Topology.extract name (.canvas untidyPair)) ∧
    ∀ n : Network, (n.drawn pair).Alike (n.drawn untidyPair) :=
  ⟨sameDrawing_untidyPair, alike_of_sameDrawing sameDrawing_untidyPair⟩

end Canvas

end FabricTopology
