import FabricTopology.Proofs.Canvas.Neighbors
import FabricTopology.Proofs.Topology
import FabricTopology.Validation
import Mathlib.Data.List.Nodup

/-!
The lint of a canvas tells which of its edges count for nothing. Where no id is drawn twice, an edge that it
reports has a missing end or joins kinds that no record looks at; so the same is made of a network without
these edges, and of the remaining ones there is nothing to report (`alike_cleaned`).
-/
namespace FabricTopology

namespace Canvas
variable {c : Canvas} {a b : String} {n m : Node} {e : Edge} {i : Issue}

/-- What the lint reports of an edge, if anything. -/
def edgeIssue? (c : Canvas) (e : Edge) : Option Issue :=
  if c.isDangling e then some (danglingIssue e) else c.connectionIssue? e

/-- The canvas without the edges that the lint reports. -/
def cleaned (c : Canvas) : Canvas := { c with edges := c.edges.filter fun e => (c.edgeIssue? e).isNone }

theorem mem_cleaned_edges : e ∈ c.cleaned.edges ↔ e ∈ c.edges ∧ c.edgeIssue? e = none := by
  simp [cleaned]

/-! ### What the lint reports -/

/-- The lint reports the nodes that repeat an id and each edge at most once. -/
theorem lint_perm (c : Canvas) :
    c.lint.Perm ((repeated [] c.nodes).map duplicateIssue ++ c.edges.filterMap c.edgeIssue?) := by
  have dangling : c.danglingEdges.filterMap c.edgeIssue? = c.danglingEdges.map danglingIssue := by
    rw [← List.filterMap_eq_map]
    refine List.filterMap_congr fun e member => ?_
    simp [edgeIssue?, (List.mem_filter.mp member).2]
  have linked : c.links.filterMap c.edgeIssue? = c.links.filterMap c.connectionIssue? := by
    refine List.filterMap_congr fun e member => ?_
    simp [edgeIssue?, (mem_links.mp member).2]
  rw [lint, List.append_assoc, ← dangling, ← linked, ← List.filterMap_append]
  exact (((List.filter_append_perm c.isDangling c.edges).filterMap _).append_left _)

theorem rule_edgeIssue? (reported : c.edgeIssue? e = some i) :
    i.rule = "graph-dangling-edge" ∨ i.rule = "graph-connection" := by
  rw [edgeIssue?] at reported
  split at reported
  · cases reported
    exact .inl rfl
  · simp only [connectionIssue?, Option.bind_eq_bind, Option.bind_eq_some_iff, Option.ite_none_left_eq_some] at reported
    obtain ⟨source, _, target, _, _, issue⟩ := reported
    cases issue
    exact .inr rfl

/-- No node repeats an id exactly if the ids are distinct and none of them was seen before. -/
theorem repeated_eq_nil_iff {seen : List String} {nodes : List Node} :
    repeated seen nodes = [] ↔ (idsOf nodes).Nodup ∧ ∀ n ∈ nodes, n.id ∉ seen := by
  induction nodes generalizing seen with
  | nil => simp [repeated, idsOf]
  | cons n rest ih =>
    by_cases known : n.id ∈ seen
    · simp [repeated, known]
    · have later : (∀ m ∈ rest, m.id ∉ n.id :: seen) ↔ n.id ∉ idsOf rest ∧ ∀ m ∈ rest, m.id ∉ seen := by
        simp [idsOf, forall_and]
      rw [repeated, if_neg (by simpa using known), ih, later, List.forall_mem_cons]
      simp [idsOf, known, and_assoc, and_left_comm]

theorem repeated_eq_nil (distinct : ∀ i ∈ c.lint, i.rule ≠ "graph-duplicate-node") : repeated [] c.nodes = [] := by
  refine List.eq_nil_iff_forall_not_mem.mpr fun n twice => ?_
  have reported : duplicateIssue n ∈ c.lint :=
    (lint_perm c).mem_iff.mpr (List.mem_append_left _ (List.mem_map_of_mem twice))
  exact distinct _ reported rfl

/-! ### What an unreported edge may be needed for -/

/-- The node of an id, where no id is drawn twice. -/
theorem node?_eq_some (distinct : (idsOf c.nodes).Nodup) (member : n ∈ c.nodes) : c.node? n.id = some n := by
  have some : (c.node? n.id).isSome := List.find?_isSome.mpr ⟨n, member, beq_self_eq_true n.id⟩
  obtain ⟨first, found⟩ := Option.isSome_iff_exists.mp some
  have same : first.id = n.id := by simpa using List.find?_some found
  rw [found, List.inj_on_of_nodup_map distinct (List.mem_of_find?_eq_some found) member same]

/-- An edge between nodes whose kinds may be joined is not reported. -/
theorem edgeIssue?_eq_none (distinct : (idsOf c.nodes).Nodup) (left : n ∈ c.nodes) (right : m ∈ c.nodes)
    (fits : n.kind.canConnect m.kind) (ends : e.Between n.id m.id) : c.edgeIssue? e = none := by
  have first := node?_eq_some distinct left
  have second := node?_eq_some distinct right
  have sound := isDangling_eq_false (hasNode_of_mem left) (hasNode_of_mem right) ends
  rw [edgeIssue?, sound, if_neg Bool.false_ne_true, connectionIssue?]
  rcases ends with ⟨source, target⟩ | ⟨source, target⟩
  · simp [source, target, first, second, fits]
  · rw [NodeKind.canConnect_comm] at fits
    simp [source, target, first, second, fits]

theorem joins_cleaned_iff (distinct : (idsOf c.nodes).Nodup) (left : n ∈ c.nodes) (right : m ∈ c.nodes)
    (fits : n.kind.canConnect m.kind) : c.Joins n.id m.id ↔ c.cleaned.Joins n.id m.id := by
  constructor
  · intro ⟨different, source, target, e, drawn, ends⟩
    exact ⟨different, source, target, e,
      mem_cleaned_edges.mpr ⟨drawn, edgeIssue?_eq_none distinct left right fits ends⟩, ends⟩
  · intro ⟨different, source, target, e, kept, ends⟩
    exact ⟨different, source, target, e, (mem_cleaned_edges.mp kept).1, ends⟩

theorem entities_cleaned (distinct : (idsOf c.nodes).Nodup) : c.entities = c.cleaned.entities := by
  refine entities_congr (fun _ => rfl) fun kind other fits n left => ?_
  refine neighbors_congr rfl fun m right => ?_
  obtain ⟨leftDrawn, rfl⟩ := mem_nodesOf.mp left
  obtain ⟨rightDrawn, rfl⟩ := mem_nodesOf.mp right
  exact joins_cleaned_iff distinct leftDrawn rightDrawn fits

/-- Of the remaining edges there is nothing to report. -/
theorem lint_cleaned (unrepeated : repeated [] c.nodes = []) : c.cleaned.lint = [] := by
  have kept : c.cleaned.edges.filterMap c.cleaned.edgeIssue? = [] :=
    List.filterMap_eq_nil_iff.mpr fun e member => (mem_cleaned_edges.mp member).2
  have issues := lint_perm c.cleaned
  rw [kept, show repeated [] c.cleaned.nodes = [] from unrepeated] at issues
  exact List.perm_nil.mp issues

end Canvas

/-- Where no id is drawn twice, the issues of the lint are those of the edges with a missing end and of the
    edges between kinds that may not be joined. Without these edges the topology, the documents, the report
    and the scripts of a network stay the same, and the lint has nothing to report. -/
theorem alike_cleaned (n : Network) (distinct : ∀ i ∈ n.canvas.lint, i.rule ≠ "graph-duplicate-node") :
    n.canvas.lint.Perm (n.edges.filterMap n.canvas.edgeIssue?) ∧
    (∀ i ∈ n.canvas.lint, i.rule = "graph-dangling-edge" ∨ i.rule = "graph-connection") ∧
    n.Alike (n.drawn n.canvas.cleaned) ∧ (n.drawn n.canvas.cleaned).canvas.lint = [] := by
  have unrepeated := Canvas.repeated_eq_nil distinct
  have issues := Canvas.lint_perm n.canvas
  rw [unrepeated, List.map_nil, List.nil_append] at issues
  have entities := Canvas.entities_cleaned (Canvas.repeated_eq_nil_iff.mp unrepeated).1
  refine ⟨issues, ?_, ?_, ?_⟩
  · intro i reported
    obtain ⟨e, _, issue⟩ := List.mem_filterMap.mp (issues.mem_iff.mp reported)
    exact Canvas.rule_edgeIssue? issue
  · exact Network.alike_of_topology (Topology.ofNetwork_drawn entities n)
  · exact Canvas.lint_cleaned unrepeated

/-- An organization with a peer that is also joined to an orderer and to nothing. -/
def overdrawn : Network :=
  (Network.named "net").drawn
    { nodes := [⟨"o", .organization, "Org1", none, .origin⟩, ⟨"p", .peer, "peer0", none, .origin⟩,
        ⟨"r", .orderer, "orderer", none, .origin⟩]
      edges := [⟨"e", "o", "p"⟩, ⟨"f", "p", "r"⟩, ⟨"g", "p", "x"⟩] }

theorem alike_cleaned_overdrawn :
    overdrawn.canvas.lint.length = 2 ∧ overdrawn.canvas.cleaned.edges = [⟨"e", "o", "p"⟩] ∧
    overdrawn.Alike (overdrawn.drawn overdrawn.canvas.cleaned) ∧
    (overdrawn.drawn overdrawn.canvas.cleaned).canvas.lint = [] :=
  ⟨by decide, by decide, (alike_cleaned overdrawn (by decide)).2.2⟩

end FabricTopology
