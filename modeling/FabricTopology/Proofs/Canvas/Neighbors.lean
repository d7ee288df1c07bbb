import FabricTopology.Canvas
import FabricTopology.Topology
import Mathlib.Data.List.Nodup

/-!
Which nodes are next to each other. Of the edges only the pairs of ids count that they join (`Joins`): the
neighbours of an id are the nodes joined to it, in the order of the canvas (`neighbors_eq`). So two nodes are neighbours
of each other or not at all (`exact_neighbors`). The records of a canvas look at its nodes and at such neighbours, of
the kinds that may be joined, and at nothing else (`entities_congr`).
-/
namespace FabricTopology

/-! ### Joined nodes -/

/-- The ends of the edge, whichever way it was drawn. -/
def Edge.Between (e : Edge) (a b : String) : Prop :=
  (e.sourceNodeId = a ∧ e.targetNodeId = b) ∨ (e.sourceNodeId = b ∧ e.targetNodeId = a)

instance (e : Edge) (a b : String) : Decidable (e.Between a b) :=
  inferInstanceAs (Decidable ((_ ∧ _) ∨ (_ ∧ _)))

theorem Edge.between_comm {e : Edge} {a b : String} : e.Between a b ↔ e.Between b a := Or.comm

theorem Edge.otherEnd?_eq_some_iff {e : Edge} {a b : String} : e.otherEnd? a = some b ↔ e.Between a b := by
  rw [otherEnd?, Between]
  by_cases source : e.sourceNodeId = a
  · rw [if_pos source, Option.some_inj]
    constructor
    · exact fun target => .inl ⟨source, target⟩
    · rintro (⟨_, target⟩ | ⟨same, target⟩)
      · exact target
      · rw [target, ← source, same]
  · by_cases target : e.targetNodeId = a <;> simp [source, target]

namespace Canvas
variable {c : Canvas} {a b id : String} {kind : NodeKind} {n : Node} {e : Edge}

/-- Two distinct ids of nodes are the ends of some edge. -/
structure Joins (c : Canvas) (a b : String) : Prop where
  distinct : a ≠ b
  left : c.hasNode a
  right : c.hasNode b
  edge : ∃ e ∈ c.edges, e.Between a b

instance (c : Canvas) (a b : String) : Decidable (c.Joins a b) :=
  decidable_of_iff (a ≠ b ∧ c.hasNode a ∧ c.hasNode b ∧ ∃ e ∈ c.edges, e.Between a b)
    ⟨fun ⟨distinct, left, right, edge⟩ => ⟨distinct, left, right, edge⟩,
      fun ⟨distinct, left, right, edge⟩ => ⟨distinct, left, right, edge⟩⟩

theorem joins_comm : c.Joins a b ↔ c.Joins b a := by
  have swap {a b : String} (joined : c.Joins a b) : c.Joins b a :=
    ⟨joined.distinct.symm, joined.right, joined.left,
      joined.edge.imp fun _ ⟨drawn, ends⟩ => ⟨drawn, Edge.between_comm.mp ends⟩⟩
  exact ⟨swap, swap⟩

@[simp] theorem mem_nodesOf : n ∈ c.nodesOf kind ↔ n ∈ c.nodes ∧ n.kind = kind := by simp [nodesOf]

theorem hasNode_iff : c.hasNode id ↔ ∃ n ∈ c.nodes, n.id = id := by simp [hasNode]

theorem hasNode_of_mem (member : n ∈ c.nodes) : c.hasNode n.id := hasNode_iff.mpr ⟨n, member, rfl⟩

theorem isDangling_eq_false_iff :
    c.isDangling e = false ↔ c.hasNode e.sourceNodeId ∧ c.hasNode e.targetNodeId := by
  simp [isDangling]

/-- An edge between ids of nodes does not dangle. -/
theorem isDangling_eq_false (left : c.hasNode a) (right : c.hasNode b) (ends : e.Between a b) :
    c.isDangling e = false := by
  rw [isDangling_eq_false_iff]
  rcases ends with ⟨rfl, rfl⟩ | ⟨rfl, rfl⟩
  · exact ⟨left, right⟩
  · exact ⟨right, left⟩

theorem mem_links : e ∈ c.links ↔ e ∈ c.edges ∧ c.isDangling e = false := by simp [links]

theorem joins_iff : c.Joins a b ↔ a ≠ b ∧ ∃ e ∈ c.links, e.Between a b := by
  constructor
  · intro joined
    obtain ⟨e, drawn, ends⟩ := joined.edge
    exact ⟨joined.distinct, e, mem_links.mpr ⟨drawn, isDangling_eq_false joined.left joined.right ends⟩, ends⟩
  · rintro ⟨distinct, e, link, ends⟩
    obtain ⟨drawn, sound⟩ := mem_links.mp link
    obtain ⟨source, target⟩ := isDangling_eq_false_iff.mp sound
    rcases ends with ⟨rfl, rfl⟩ | ⟨rfl, rfl⟩
    · exact ⟨distinct, source, target, e, drawn, .inl ⟨rfl, rfl⟩⟩
    · exact ⟨distinct, target, source, e, drawn, .inr ⟨rfl, rfl⟩⟩

/-- The neighbours of an id are the nodes joined to it, in the order of the canvas. -/
theorem neighbors_eq (c : Canvas) (id : String) (kind : NodeKind) :
    c.neighbors id kind = (c.nodesOf kind).filter fun n => c.Joins id n.id := by
  refine List.filter_congr fun n _ => ?_
  rw [Bool.eq_iff_iff, decide_eq_true_iff, joins_iff, ne_comm]
  simp [Edge.otherEnd?_eq_some_iff]

/-- A node is a neighbour if it has the kind and is joined to the id. -/
theorem mem_neighbors_iff : n ∈ c.neighbors id kind ↔ n ∈ c.nodesOf kind ∧ c.Joins id n.id := by
  rw [neighbors_eq, List.mem_filter, decide_eq_true_iff]

/-- Edges that join the same ids give the same neighbours. -/
theorem neighbors_congr {c c' : Canvas} (nodes : c.nodesOf kind = c'.nodesOf kind)
    (joins : ∀ n ∈ c.nodesOf kind, c.Joins id n.id ↔ c'.Joins id n.id) :
    c.neighbors id kind = c'.neighbors id kind := by
  rw [neighbors_eq, neighbors_eq, ← nodes]
  exact List.filter_congr fun n member => decide_eq_decide.mpr (joins n member)

end Canvas

/-! ### What the records depend on -/

namespace Canvas

section
variable {c c' : Canvas}

theorem entities_eq (c : Canvas) : c.entities =
    { organizations := (c.nodesOf .organization).mapIdx fun i n => organizationOf i n (c.neighbors n.id .peer)
      peers := (c.nodesOf .peer).map fun n =>
        .named n.id n.label (((c.neighbors n.id .organization).head?.map (·.id)).getD "")
      orderers := (c.nodesOf .orderer).map fun n =>
        { Orderer.named n.id n.label with
          organizationId := (c.neighbors n.id .organization).head?.map (·.id) }
      cas := (c.nodesOf .certificateAuthority).map fun n =>
        .named n.id n.label (((c.neighbors n.id .organization).head?.map (·.id)).getD "")
      channels := (c.nodesOf .channel).map fun n =>
        ⟨n.id, n.label, idsOf (c.neighbors n.id .organization), idsOf (c.neighbors n.id .orderer)⟩
      chaincodes := (c.nodesOf .chaincode).map fun n =>
        .named n.id n.label (((c.neighbors n.id .channel).head?.map (·.id)).getD "") } := rfl

theorem organizationOf_id (position : Nat) (node : Node) (peers : List Node) :
    (organizationOf position node peers).id = node.id := by
  by_cases lone : peers.isEmpty <;> simp [organizationOf, lone, Organization.named]

/-- The same nodes, and the same neighbours where kinds may be joined, make the same records. -/
theorem entities_congr (nodes : ∀ kind, c.nodesOf kind = c'.nodesOf kind)
    (near : ∀ kind other, kind.canConnect other → ∀ n ∈ c.nodesOf kind,
      c.neighbors n.id other = c'.neighbors n.id other) :
    c.entities = c'.entities := by
  rw [entities_eq, entities_eq, Entities.mk.injEq]
  simp only [← nodes]
  refine ⟨?_, ?_, ?_, ?_, ?_, ?_⟩
  · refine List.ext_getElem (by simp) fun i _ _ => ?_
    simp only [List.getElem_mapIdx]
    rw [near .organization .peer rfl _ (List.getElem_mem _)]
  · refine List.map_congr_left fun n member => ?_
    rw [near .peer .organization rfl n member]
  · refine List.map_congr_left fun n member => ?_
    rw [near .orderer .organization rfl n member]
  · refine List.map_congr_left fun n member => ?_
    rw [near .certificateAuthority .organization rfl n member]
  · refine List.map_congr_left fun n member => ?_
    rw [near .channel .organization rfl n member, near .channel .orderer rfl n member]
  · refine List.map_congr_left fun n member => ?_
    rw [near .chaincode .channel rfl n member]

end

/-! ### Neighbours as the canvas shows them -/

section
variable {c : Canvas} {a b : Node} {id other : String} {kind : NodeKind}

/-- Ids are joined if they differ and some edge with both its ends is between them. -/
theorem joins_iff_edge : c.Joins id other ↔
    other ≠ id ∧ ∃ e ∈ c.edges, c.hasNode e.sourceNodeId ∧ c.hasNode e.targetNodeId ∧ e.Between id other := by
  rw [joins_iff, ne_comm]
  simp only [mem_links, isDangling_eq_false_iff, and_assoc]

theorem neighbors_sublist (c : Canvas) (id : String) (kind : NodeKind) : (c.neighbors id kind).Sublist c.nodes := by
  rw [neighbors_eq, nodesOf]
  exact List.filter_sublist.trans List.filter_sublist

/-- Where no id is drawn twice, none is among the neighbours twice. -/
theorem nodup_neighbors (distinct : (idsOf c.nodes).Nodup) (id : String) (kind : NodeKind) :
    (idsOf (c.neighbors id kind)).Nodup :=
  have listed : (idsOf (c.neighbors id kind)).Sublist (idsOf c.nodes) := (c.neighbors_sublist id kind).map Node.id
  distinct.sublist listed

/-- Being neighbours is mutual. -/
theorem mem_neighbors_comm (left : a ∈ c.nodes) (right : b ∈ c.nodes) :
    b ∈ c.neighbors a.id b.kind ↔ a ∈ c.neighbors b.id a.kind := by
  rw [mem_neighbors_iff, mem_neighbors_iff, joins_comm]
  simp only [mem_nodesOf, left, right, true_and]

/-- The neighbours of an id are the other nodes of the kind that an edge with both its ends joins to it, in the order
    of the canvas. No id is among them twice unless it is drawn twice, and of two nodes each is a neighbour of the
    other or neither is. -/
theorem exact_neighbors (c : Canvas) :
    (∀ id kind, c.neighbors id kind = c.nodes.filter fun n => n.kind = kind ∧ n.id ≠ id ∧
      ∃ e ∈ c.edges, c.hasNode e.sourceNodeId ∧ c.hasNode e.targetNodeId ∧ e.Between id n.id) ∧
    ((idsOf c.nodes).Nodup → ∀ id kind, (idsOf (c.neighbors id kind)).Nodup) ∧
    ∀ a ∈ c.nodes, ∀ b ∈ c.nodes, b ∈ c.neighbors a.id b.kind ↔ a ∈ c.neighbors b.id a.kind := by
  refine ⟨fun id kind => ?_, nodup_neighbors, fun a left b right => mem_neighbors_comm left right⟩
  rw [neighbors_eq, nodesOf, List.filter_filter]
  refine List.filter_congr fun n _ => ?_
  rw [Bool.eq_iff_iff, Bool.and_eq_true, beq_iff_eq, decide_eq_true_iff, decide_eq_true_iff, joins_iff_edge]
  exact and_comm

/-- An organization and its two peers, one of them joined to it twice and to itself, and an edge to nowhere. -/
def knotted : Canvas :=
  { nodes := [⟨"p", .peer, "peer0", none, .origin⟩, ⟨"o", .organization, "Org1", none, .origin⟩,
      ⟨"q", .peer, "peer1", none, .origin⟩]
    edges := [⟨"e", "o", "q"⟩, ⟨"f", "o", "p"⟩, ⟨"g", "p", "o"⟩, ⟨"loop", "p", "p"⟩, ⟨"h", "x", "o"⟩] }

theorem neighbors_knotted :
    (idsOf knotted.nodes).Nodup ∧ idsOf (knotted.neighbors "o" .peer) = ["p", "q"] ∧
    (∀ id kind, (idsOf (knotted.neighbors id kind)).Nodup) ∧
    ∀ a ∈ knotted.nodes, ∀ b ∈ knotted.nodes,
      b ∈ knotted.neighbors a.id b.kind ↔ a ∈ knotted.neighbors b.id a.kind :=
  ⟨by decide, by decide, (exact_neighbors knotted).2.1 (by decide), (exact_neighbors knotted).2.2⟩

end

end Canvas

end FabricTopology
