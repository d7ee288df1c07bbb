import FabricTopology.Proofs.Canvas.Lint
import Mathlib.Data.List.Forall2
import Mathlib.Data.List.Sort

/-!
What the lint of a canvas reports, place by place: the nodes whose id stands further ahead, then the edges with an end
that is no node, then the other edges between kinds that may not be joined, one issue each and in the order of the
canvas (`exact_lint`). Which places these are does not depend on the direction in which an edge was drawn.
-/
namespace FabricTopology

/-- One issue for each of these places in a list: for those, in ascending order, whose element is at fault. -/
structure Accounts {α : Type} (xs : List α) (fault : Nat → α → Issue → Prop) (places : List Nat)
    (issues : List Issue) : Prop where
  each : List.Forall₂ (fun i issue => ∃ x, xs[i]? = some x ∧ fault i x issue) places issues
  ascending : places.Pairwise (· < ·)
  mem_iff : ∀ i, i ∈ places ↔ ∃ x issue, xs[i]? = some x ∧ fault i x issue

namespace Accounts
variable {α β : Type} {xs : List α} {ys : List β} {fault : Nat → α → Issue → Prop} {other : Nat → β → Issue → Prop}
  {places others : List Nat} {issues further : List Issue}

/-- A row that finds an issue, and the issue that it finds. -/
theorem forall₂_filterMap (finds : α → Option Issue) (rows : List α) :
    List.Forall₂ (fun r issue => finds r = some issue) (rows.filter fun r => (finds r).isSome) (rows.filterMap finds) := by
  induction rows with
  | nil => exact .nil
  | cons r rows ih =>
    cases found : finds r with
    | none => simpa [found] using ih
    | some issue => simpa [found] using ih

/-- What a test of element and place finds accounts for the faults that it tells. -/
theorem exists_filterMap (finds : α × Nat → Option Issue)
    (tells : ∀ i x issue, finds (x, i) = some issue ↔ fault i x issue) :
    ∃ places, Accounts xs fault places (xs.zipIdx.filterMap finds) := by
  refine ⟨(xs.zipIdx.filter fun r => (finds r).isSome).map (·.2), ?_, ?_, ?_⟩
  · have found := forall₂_filterMap finds xs.zipIdx
    have stand : ∀ r ∈ xs.zipIdx.filter fun r => (finds r).isSome, xs[r.2]? = some r.1 := fun r member =>
      List.mem_zipIdx_iff_getElem?.mp (List.mem_filter.mp member).1
    rw [List.forall₂_map_left_iff]
    exact ((List.forall₂_and_left _ _).mpr ⟨stand, found⟩).imp fun r issue both =>
      ⟨r.1, both.1, (tells _ _ _).mp both.2⟩
  · have rows : (xs.zipIdx.map (·.2)).Pairwise (· < ·) := by
      rw [List.zipIdx_map_snd]
      exact List.pairwise_lt_range'
    exact rows.sublist (List.filter_sublist.map _)
  · intro i
    simp only [List.mem_map, List.mem_filter, List.mem_zipIdx_iff_getElem?, Option.isSome_iff_exists, Prod.exists,
      exists_eq_right]
    simp only [tells, exists_and_left]

/-- Faults in the same places are accounted for in the same places. -/
theorem places_eq (left : Accounts xs fault places issues) (right : Accounts ys other others further)
    (same : ∀ i, (∃ x issue, xs[i]? = some x ∧ fault i x issue) ↔ ∃ y issue, ys[i]? = some y ∧ other i y issue) :
    places = others :=
  left.ascending.eq_of_mem_iff right.ascending fun i => (left.mem_iff i).trans ((same i).trans (right.mem_iff i).symm)

/-- Issues of one kind, as many as there are places. -/
theorem map_eq_replicate {γ : Type} {kind : Issue → γ} {k : γ} (accounts : Accounts xs fault places issues)
    (alike : ∀ i x issue, fault i x issue → kind issue = k) : issues.map kind = List.replicate places.length k := by
  have each := accounts.each
  clear accounts
  induction each with
  | nil => rfl
  | cons one _ ih =>
    obtain ⟨x, _, broken⟩ := one
    rw [List.map_cons, ih, alike _ _ _ broken, List.length_cons, List.replicate_succ]

end Accounts

/-- The edge drawn the other way. -/
def Edge.reversed (e : Edge) : Edge := { e with sourceNodeId := e.targetNodeId, targetNodeId := e.sourceNodeId }

namespace Canvas

/-- The canvas with the edges in these places drawn the other way. -/
def reversed (c : Canvas) (which : Nat → Bool) : Canvas :=
  { c with edges := c.edges.mapIdx fun i e => if which i then e.reversed else e }

/-- The id of a node in this place stands in an earlier place, too. -/
def Repeats (c : Canvas) (i : Nat) (n : Node) : Prop := ∃ j < i, ∃ m, c.nodes[j]? = some m ∧ m.id = n.id

/-- An end of the edge is the id of no node. -/
def Loose (c : Canvas) (e : Edge) : Prop := e.sourceNodeId ∉ idsOf c.nodes ∨ e.targetNodeId ∉ idsOf c.nodes

/-- The first node of that id. -/
def First (c : Canvas) (id : String) (n : Node) : Prop :=
  ∃ before after, c.nodes = before ++ n :: after ∧ n.id = id ∧ id ∉ idsOf before

/-- The ends of the edge are first nodes of their ids whose kinds may not be joined. -/
def Refused (c : Canvas) (e : Edge) (source target : Node) : Prop :=
  c.First e.sourceNodeId source ∧ c.First e.targetNodeId target ∧ source.kind.canConnect target.kind = false

/-- What the lint has to report: the nodes that repeat an id, then the loose edges, then the refused ones, in these
    places and nothing else. Each issue has the rule and the severity of its kind, and no edge has two of them. -/
structure ExactLint (c : Canvas) (twice loose refused : List Nat) (issues : List Issue) : Prop where
  parts : ∃ nodes ends kinds : List Issue, issues = nodes ++ ends ++ kinds ∧
    Accounts c.nodes (fun i n issue => c.Repeats i n ∧ issue = duplicateIssue n) twice nodes ∧
    Accounts c.edges (fun _ e issue => c.Loose e ∧ issue = danglingIssue e) loose ends ∧
    Accounts c.edges (fun _ e issue => ∃ source target, c.Refused e source target ∧
      issue = connectionIssue e source target) refused kinds
  rules : issues.map (fun issue => (issue.rule, issue.severity)) =
    List.replicate twice.length ("graph-duplicate-node", .error) ++
    List.replicate loose.length ("graph-dangling-edge", .warning) ++
    List.replicate refused.length ("graph-connection", .warning)
  once : ∀ i ∈ loose, i ∉ refused

variable {c : Canvas} {e : Edge} {n : Node} {id : String} {issue : Issue}

/-! ### Tests of the faults -/

theorem mem_idsOf : id ∈ idsOf c.nodes ↔ c.hasNode id := by
  rw [hasNode_iff, idsOf, List.mem_map]

theorem loose_iff : c.Loose e ↔ c.isDangling e = true := by
  simp only [Loose, mem_idsOf, isDangling, Bool.or_eq_true, Bool.not_eq_true', Bool.not_eq_true]

theorem first_iff : c.First id n ↔ c.node? id = some n := by
  rw [node?, List.find?_eq_some_iff_append]
  simp only [First, beq_iff_eq, Bool.not_eq_true', beq_eq_false_iff_ne, idsOf, List.mem_map, not_exists, not_and, ne_eq]
  constructor
  · rintro ⟨before, after, nodes, same, new⟩
    exact ⟨same, before, after, nodes, new⟩
  · rintro ⟨same, before, after, nodes, new⟩
    exact ⟨before, after, nodes, same, new⟩

theorem First.mem_idsOf (first : c.First id n) : id ∈ idsOf c.nodes := by
  obtain ⟨before, after, nodes, rfl, _⟩ := first
  simp [nodes, idsOf]

/-- A refused edge has both ends. -/
theorem Refused.not_loose {source target : Node} (refused : c.Refused e source target) : ¬ c.Loose e := by
  rintro (missing | missing)
  · exact missing refused.1.mem_idsOf
  · exact missing refused.2.1.mem_idsOf

theorem connectionIssue?_eq_some_iff : c.connectionIssue? e = some issue ↔
    ∃ source target, c.Refused e source target ∧ issue = connectionIssue e source target := by
  simp only [connectionIssue?, Option.bind_eq_bind, Option.bind_eq_some_iff, Option.ite_none_left_eq_some,
    Option.some.injEq, ← first_iff, Bool.not_eq_true]
  constructor
  · rintro ⟨source, first, target, second, kinds, rfl⟩
    exact ⟨source, target, ⟨first, second, kinds⟩, rfl⟩
  · rintro ⟨source, target, ⟨first, second, kinds⟩, rfl⟩
    exact ⟨source, first, target, second, kinds, rfl⟩

theorem mem_idsOf_take {nodes : List Node} {i : Nat} :
    id ∈ idsOf (nodes.take i) ↔ ∃ j < i, ∃ m, nodes[j]? = some m ∧ m.id = id := by
  rw [idsOf, List.mem_map]
  simp only [List.mem_iff_getElem?, List.getElem?_take]
  constructor
  · rintro ⟨m, ⟨j, stands⟩, same⟩
    rw [Option.ite_none_right_eq_some] at stands
    exact ⟨j, stands.1, m, stands.2, same⟩
  · rintro ⟨j, below, m, stands, same⟩
    exact ⟨m, ⟨j, by rw [if_pos below, stands]⟩, same⟩

/-- The scan of the nodes finds an issue where the id stands further ahead. -/
theorem map_repeated (before rest : List Node) {seen : List String} (same : ∀ id, id ∈ seen ↔ id ∈ idsOf before) :
    (repeated seen rest).map duplicateIssue = (rest.zipIdx before.length).filterMap fun r =>
      if r.1.id ∈ idsOf ((before ++ rest).take r.2) then some (duplicateIssue r.1) else none := by
  induction rest generalizing before seen with
  | nil => rfl
  | cons n rest ih =>
    have longer : ∀ id, id ∈ idsOf (before ++ [n]) ↔ id = n.id ∨ id ∈ seen := by simp [idsOf, same, or_comm]
    have later := fun seen same => @ih (before ++ [n]) seen same
    simp only [List.length_append, List.length_singleton, List.append_assoc, List.singleton_append] at later
    rw [List.zipIdx_cons, List.filterMap_cons, List.take_left]
    by_cases known : n.id ∈ seen
    · have again : ∀ id, id ∈ seen ↔ id ∈ idsOf (before ++ [n]) := fun id => by
        rw [longer, or_iff_right_of_imp]
        rintro rfl
        exact known
      rw [repeated, if_pos (by simpa using known), List.map_cons, if_pos ((same n.id).mp known), later seen again]
    · have first : ∀ id, id ∈ n.id :: seen ↔ id ∈ idsOf (before ++ [n]) := fun id => by rw [longer, List.mem_cons]
      rw [repeated, if_neg (by simpa using known), if_neg (mt (same n.id).mpr known), later (n.id :: seen) first]

/-! ### The parts of the lint -/

theorem accounts_repeated (c : Canvas) : ∃ places,
    Accounts c.nodes (fun i n issue => c.Repeats i n ∧ issue = duplicateIssue n) places
      ((repeated [] c.nodes).map duplicateIssue) := by
  rw [map_repeated [] c.nodes (by simp [idsOf])]
  refine Accounts.exists_filterMap _ fun i n issue => ?_
  rw [Option.ite_none_right_eq_some, List.nil_append, mem_idsOf_take, Option.some.injEq, eq_comm (a := issue)]
  rfl

/-- Where the place does not matter, a test of the element alone accounts for the faults. -/
theorem accounts_edges {fault : Edge → Issue → Prop} {finds : Edge → Option Issue}
    (tells : ∀ e issue, finds e = some issue ↔ fault e issue) :
    ∃ places, Accounts c.edges (fun _ e issue => fault e issue) places (c.edges.filterMap finds) := by
  have rows : c.edges.filterMap finds = c.edges.zipIdx.filterMap fun r => finds r.1 := by
    rw [← Function.comp_def, ← List.filterMap_map, List.zipIdx_map_fst]
  rw [rows]
  exact Accounts.exists_filterMap _ fun _ e issue => tells e issue

theorem accounts_dangling (c : Canvas) : ∃ places,
    Accounts c.edges (fun _ e issue => c.Loose e ∧ issue = danglingIssue e) places
      (c.danglingEdges.map danglingIssue) := by
  have found : c.danglingEdges.map danglingIssue =
      c.edges.filterMap fun e => if c.isDangling e then some (danglingIssue e) else none := by
    rw [danglingEdges, ← List.filterMap_eq_map, List.filterMap_filter]
    rfl
  rw [found]
  refine accounts_edges fun e issue => ?_
  rw [Option.ite_none_right_eq_some, loose_iff, Option.some.injEq, eq_comm (a := issue)]

theorem accounts_links (c : Canvas) : ∃ places,
    Accounts c.edges (fun _ e issue => ∃ source target, c.Refused e source target ∧
      issue = connectionIssue e source target) places (c.links.filterMap c.connectionIssue?) := by
  have found : c.links.filterMap c.connectionIssue? = c.edges.filterMap c.connectionIssue? := by
    rw [links, List.filterMap_filter]
    refine List.filterMap_congr fun e _ => ?_
    rw [ite_eq_left_iff, Bool.not_eq_true', Bool.not_eq_false, ← loose_iff]
    intro loose
    refine (Option.eq_none_iff_forall_ne_some.mpr fun issue found => ?_).symm
    obtain ⟨source, target, refused, _⟩ := connectionIssue?_eq_some_iff.mp found
    exact refused.not_loose loose
  rw [found]
  exact accounts_edges fun e issue => connectionIssue?_eq_some_iff

theorem exists_exactLint (c : Canvas) : ∃ twice loose refused, c.ExactLint twice loose refused c.lint := by
  obtain ⟨twice, nodes⟩ := c.accounts_repeated
  obtain ⟨loose, ends⟩ := c.accounts_dangling
  obtain ⟨refused, kinds⟩ := c.accounts_links
  refine ⟨twice, loose, refused, ⟨_, _, _, rfl, nodes, ends, kinds⟩, ?_, ?_⟩
  · rw [lint, List.map_append, List.map_append]
    congr
    · refine nodes.map_eq_replicate ?_
      rintro _ _ _ ⟨_, rfl⟩
      rfl
    · refine ends.map_eq_replicate ?_
      rintro _ _ _ ⟨_, rfl⟩
      rfl
    · refine kinds.map_eq_replicate ?_
      rintro _ _ _ ⟨_, _, _, rfl⟩
      rfl
  · intro i missing other
    obtain ⟨e, _, stands, loose, _⟩ := (ends.mem_iff i).mp missing
    obtain ⟨f, _, again, source, target, refused, _⟩ := (kinds.mem_iff i).mp other
    obtain rfl : e = f := by simpa [stands] using again
    exact refused.not_loose loose

/-! ### Edges drawn the other way -/

theorem getElem?_reversed (which : Nat → Bool) (i : Nat) :
    (c.reversed which).edges[i]? = c.edges[i]?.map fun e => if which i then e.reversed else e :=
  List.getElem?_mapIdx

theorem loose_reversed (e : Edge) : c.Loose e.reversed ↔ c.Loose e := Or.comm

theorem refused_reversed {source target : Node} (refused : c.Refused e source target) :
    c.Refused e.reversed target source :=
  ⟨refused.2.1, refused.1, by rw [NodeKind.canConnect_comm, refused.2.2]⟩

/-- Where an edge is at fault in both directions, it does not matter how it is drawn. -/
theorem faults_reversed {fault : Edge → Issue → Prop}
    (either : ∀ e, (∃ issue, fault e.reversed issue) ↔ ∃ issue, fault e issue) (which : Nat → Bool) (i : Nat) :
    (∃ e issue, (c.reversed which).edges[i]? = some e ∧ fault e issue) ↔
      ∃ e issue, c.edges[i]? = some e ∧ fault e issue := by
  simp only [getElem?_reversed, exists_and_left, Option.map_eq_some_iff]
  constructor
  · rintro ⟨_, ⟨e, stands, rfl⟩, broken⟩
    split at broken
    · exact ⟨e, stands, (either e).mp broken⟩
    · exact ⟨e, stands, broken⟩
  · rintro ⟨e, stands, broken⟩
    refine ⟨_, ⟨e, stands, rfl⟩, ?_⟩
    split
    · exact (either e).mpr broken
    · exact broken

end Canvas

/-- The lint of any nodes and edges is exact: it reports the repeated nodes, the loose edges and the refused ones, each
    once and in this order. When edges are drawn the other way, the same nodes and edges are reported. -/
theorem Canvas.exact_lint (c : Canvas) : ∃ twice loose refused : List Nat,
    c.ExactLint twice loose refused c.lint ∧
    ∀ which : Nat → Bool, (c.reversed which).ExactLint twice loose refused (c.reversed which).lint := by
  obtain ⟨twice, loose, refused, straight⟩ := c.exists_exactLint
  refine ⟨twice, loose, refused, straight, fun which => ?_⟩
  obtain ⟨twice', loose', refused', turned⟩ := (c.reversed which).exists_exactLint
  obtain ⟨nodes, ends, kinds, _, first, second, third⟩ := straight.parts
  obtain ⟨nodes', ends', kinds', _, first', second', third'⟩ := turned.parts
  have either : ∀ e, (∃ issue source target, c.Refused e.reversed source target ∧
      issue = connectionIssue e.reversed source target) ↔
      ∃ issue source target, c.Refused e source target ∧ issue = connectionIssue e source target := by
    intro e
    constructor
    · rintro ⟨_, source, target, refused, _⟩
      exact ⟨_, target, source, refused_reversed refused, rfl⟩
    · rintro ⟨_, source, target, refused, _⟩
      exact ⟨_, target, source, refused_reversed refused, rfl⟩
  obtain rfl : twice' = twice := first'.places_eq first fun _ => Iff.rfl
  obtain rfl : loose' = loose := second'.places_eq second fun i =>
    faults_reversed (fun e => by simp only [loose_reversed, exists_and_left, exists_eq, and_true]) which i
  obtain rfl : refused' = refused := third'.places_eq third fun i => faults_reversed either which i
  exact turned

end FabricTopology
