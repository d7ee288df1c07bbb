import FabricTopology.Proofs.Calendar
import FabricTopology.Proofs.Canvas.Lint
import FabricTopology.Proofs.Canvas.Mirrored
import FabricTopology.Proofs.Canvas.Names
import FabricTopology.Proofs.Template.Seats
import FabricTopology.Proofs.Text.Words
import Mathlib.Data.List.Perm.Basic

/-!
The canvas of a template. No id is drawn twice, and every peer is joined to its organization by one edge and to
nothing else, so the canvas is sound and shows the records (`matches_instantiate`).
-/
namespace FabricTopology.Template
open Canvas
variable {t : Template} {n : Network} {s : Seat} {i : Nat}

/-! ### Nodes -/

/-- Of nodes that are drawn alike those of a kind are all of them or none. -/
theorem filter_drawn {α : Type} (draw : α → Node) {drawn : NodeKind} (alike : ∀ a, (draw a).kind = drawn)
    (kind : NodeKind) (records : List α) :
    (records.map draw).filter (fun n => n.kind == kind) = if drawn = kind then records.map draw else [] := by
  by_cases same : drawn = kind <;> simp [alike, same]

theorem nodesOf_canvas (t : Template) (kind : NodeKind) : t.canvas.nodesOf kind =
    ((List.range t.orgCount).flatMap fun i => (if .organization = kind then [orgNode i] else []) ++
      if .peer = kind then (t.seatsOf i).map peerNode else []) ++
    if .orderer = kind then (List.range t.ordererCount).map ordererNode else [] := by
  have row (i : Nat) : (orgNode i :: (t.seatsOf i).map peerNode).filter (fun n => n.kind == kind) =
      (if .organization = kind then [orgNode i] else []) ++
        if .peer = kind then (t.seatsOf i).map peerNode else [] := by
    rw [← List.singleton_append, List.filter_append, filter_drawn peerNode fun _ => rfl]
    exact congrArg (· ++ _) (filter_drawn orgNode (fun _ => rfl) kind [i])
  rw [nodesOf, canvas]
  simp only [List.filter_append, List.filter_flatMap, row, filter_drawn ordererNode fun _ => rfl]

theorem nodesOf_organization (t : Template) :
    t.canvas.nodesOf .organization = (List.range t.orgCount).map orgNode := by
  simp [nodesOf_canvas, List.map_eq_flatMap]

theorem nodesOf_peer (t : Template) : t.canvas.nodesOf .peer = t.seats.map peerNode := by
  simp [nodesOf_canvas, seats, List.map_flatMap]

theorem nodesOf_orderer (t : Template) :
    t.canvas.nodesOf .orderer = (List.range t.ordererCount).map ordererNode := by
  simp [nodesOf_canvas]

theorem nodesOf_other (t : Template) {kind : NodeKind} (organization : .organization ≠ kind) (peer : .peer ≠ kind)
    (orderer : .orderer ≠ kind) : t.canvas.nodesOf kind = [] := by
  simp [nodesOf_canvas, organization, peer, orderer]

/-- Kind by kind the nodes are the same. -/
theorem nodes_perm (t : Template) : t.canvas.nodes.Perm
    ((List.range t.orgCount).map orgNode ++ t.seats.map peerNode ++ (List.range t.ordererCount).map ordererNode) := by
  have rows := List.map_append_flatMap_perm (List.range t.orgCount) orgNode fun i => (t.seatsOf i).map peerNode
  rw [← List.map_flatMap] at rows
  exact rows.symm.append_right _

/-- No id is drawn twice. -/
theorem nodup_ids (t : Template) : (idsOf t.canvas.nodes).Nodup := by
  have ids := (t.nodes_perm.map (·.id)).nodup_iff
  rw [idsOf, ids]
  simp only [List.map_append, List.map_map]
  have organizations : ((List.range t.orgCount).map ((·.id) ∘ orgNode)).Nodup :=
    List.nodup_range.map fun _ _ => orgId_inj
  have peers : (t.seats.map ((·.id) ∘ peerNode)).Nodup :=
    t.nodup_numbers.of_map.map_on fun _ left _ right same => seat_eq left right (peerId_inj same)
  have orderers : ((List.range t.ordererCount).map ((·.id) ∘ ordererNode)).Nodup :=
    List.nodup_range.map fun _ _ => ordererId_inj
  refine (organizations.append peers ?_).append orderers ?_
  · rintro id left right
    obtain ⟨i, _, rfl⟩ := List.mem_map.mp left
    obtain ⟨s, _, same⟩ := List.mem_map.mp right
    exact orgId_ne_peerId _ _ same.symm
  · rintro id left right
    obtain ⟨k, _, rfl⟩ := List.mem_map.mp right
    rcases List.mem_append.mp left with organization | peer
    · obtain ⟨i, _, same⟩ := List.mem_map.mp organization
      exact orgId_ne_ordererId _ _ same
    · obtain ⟨s, _, same⟩ := List.mem_map.mp peer
      exact peerId_ne_ordererId _ _ same

/-! ### Edges -/

theorem between_peerEdge {k : Nat} {id : String} :
    (peerEdge s).Between (peerId k) id ↔ s.number = k ∧ id = orgId s.org := by
  constructor
  · rintro (⟨source, target⟩ | ⟨_, target⟩)
    · exact ⟨peerId_inj source, target.symm⟩
    · exact absurd target (orgId_ne_peerId _ _)
  · rintro ⟨rfl, rfl⟩
    exact .inl ⟨rfl, rfl⟩

theorem orgNode_mem (below : i < t.orgCount) : orgNode i ∈ t.canvas.nodesOf .organization := by
  rw [nodesOf_organization]
  exact List.mem_map_of_mem (List.mem_range.mpr below)

theorem peerNode_mem (member : s ∈ t.seats) : peerNode s ∈ t.canvas.nodesOf .peer := by
  rw [nodesOf_peer]
  exact List.mem_map_of_mem member

/-- A peer is joined to its organization and to nothing else. -/
theorem joins_peer_iff (member : s ∈ t.seats) {id : String} :
    t.canvas.Joins (peerId s.number) id ↔ id = orgId s.org := by
  constructor
  · intro joined
    obtain ⟨e, drawn, ends⟩ := joined.edge
    obtain ⟨u, seat, rfl⟩ := List.mem_map.mp drawn
    obtain ⟨number, organization⟩ := between_peerEdge.mp ends
    rw [organization, seat_eq seat member number]
  · rintro rfl
    exact
      { distinct := (orgId_ne_peerId _ _).symm
        left := hasNode_of_mem (mem_nodesOf.mp (peerNode_mem member)).1
        right := hasNode_of_mem (mem_nodesOf.mp (orgNode_mem (org_lt member))).1
        edge := ⟨peerEdge s, List.mem_map_of_mem member, between_peerEdge.mpr ⟨rfl, rfl⟩⟩ }

theorem neighbors_peer (member : s ∈ t.seats) :
    t.canvas.neighbors (peerId s.number) .organization = [orgNode s.org] := by
  have own : (List.range t.orgCount).filter ((fun n => decide (t.canvas.Joins (peerId s.number) n.id)) ∘
      orgNode) = [s.org] :=
    filter_only List.nodup_range (List.mem_range.mpr (org_lt member)) fun i _ => by
      rw [Function.comp_apply, decide_eq_true_iff, joins_peer_iff member]
      exact ⟨fun same => orgId_inj same, fun same => congrArg orgId same⟩
  rw [neighbors_eq, nodesOf_organization, List.filter_map, own, List.map_singleton]

/-- Every peer has one edge. -/
theorem filter_edges (member : s ∈ t.seats) :
    t.canvas.edges.filter (fun e => e.sourceNodeId = peerId s.number ∨ e.targetNodeId = peerId s.number) =
      [peerEdge s] := by
  have own : t.seats.filter ((fun e : Edge =>
      decide (e.sourceNodeId = peerId s.number ∨ e.targetNodeId = peerId s.number)) ∘ peerEdge) = [s] :=
    filter_only t.nodup_numbers.of_map member fun u seat => by
      rw [Function.comp_apply, decide_eq_true_iff]
      constructor
      · rintro (source | target)
        · exact seat_eq seat member (peerId_inj source)
        · exact absurd target (orgId_ne_peerId _ _)
      · rintro rfl
        exact .inl rfl
  rw [canvas, List.filter_map, own, List.map_singleton]

/-- There is nothing wrong with the canvas. -/
theorem lint_canvas (t : Template) : t.canvas.lint = [] := by
  have distinct := t.nodup_ids
  have unrepeated : repeated [] t.canvas.nodes = [] :=
    repeated_eq_nil_iff.mpr ⟨distinct, fun _ _ => List.not_mem_nil⟩
  have sound : t.canvas.edges.filterMap t.canvas.edgeIssue? = [] := by
    refine List.filterMap_eq_nil_iff.mpr fun e drawn => ?_
    obtain ⟨s, member, rfl⟩ := List.mem_map.mp drawn
    obtain ⟨peer, _⟩ := mem_nodesOf.mp (peerNode_mem member)
    obtain ⟨organization, _⟩ := mem_nodesOf.mp (orgNode_mem (org_lt member))
    exact edgeIssue?_eq_none distinct peer organization rfl (between_peerEdge.mpr ⟨rfl, rfl⟩)
  have issues := lint_perm t.canvas
  rw [unrepeated, sound] at issues
  exact List.perm_nil.mp issues

/-! ### Records -/

/-- The name of an organization is its label. -/
theorem organizationName_orgName (i : Nat) : organizationName i (orgName i) = orgName i := by
  have solid : ∀ c ∈ (orgName i).toList, Text.isBlank c = false := by
    intro c member
    rw [orgName, String.toList_append] at member
    rcases List.mem_append.mp member with letter | digit
    · have letters : "Org".toList.all (fun c => !Text.isBlank c) = true := by decide
      simpa using List.all_eq_true.mp letters c letter
    · exact Text.isBlank_of_isDigit (Decimal.isDigit_of_mem_digits (by simpa [Decimal.digits] using digit))
  have trimmed : (orgNode i).trimmed = (orgName i).toList := Text.trim_eq_self solid
  have some : (orgNode i).trimmed ≠ [] := by simp [trimmed, orgName]
  rw [show orgName i = (orgNode i).label from rfl, organizationName_of_label some, trimmed, String.ofList_toList]
  rfl

theorem organizations_unanchored (t : Template) : t.canvas.entities.unanchored.organizations =
    (List.range t.orgCount).map fun i => .named (orgId i) (orgName i) := by
  refine List.ext_getElem (by simp [Entities.unanchored, entities_eq, nodesOf_organization]) fun i _ _ => ?_
  simp [Entities.unanchored, entities_eq, nodesOf_organization, organizationOf_unanchored, orgNode,
    organizationName_orgName]

/-- The ids, names and keys of the records. -/
def roster (t : Template) : Entities :=
  { Entities.empty with
    organizations := (List.range t.orgCount).map fun i => .named (orgId i) (orgName i)
    peers := t.seats.map fun s => .named (peerId s.number) (peerName s.org s.position) (orgId s.org)
    orderers := (List.range t.ordererCount).map fun i => .named (ordererId i) (ordererName i) }

theorem MadeOf.bare (parts : t.MadeOf n) : n.entities.bare = t.roster := by
  obtain ⟨cas, channels, chaincodes⟩ := parts.others
  have peers : n.entities.bare.peers = t.roster.peers :=
    map_of_mapM parts.peers fun s _ p made => by
      obtain ⟨port, _, rfl⟩ := peerAt?_eq_some_iff.mp made
      rfl
  have orderers : n.entities.bare.orderers = t.roster.orderers :=
    map_of_mapM parts.orderers fun i _ o made => by
      obtain ⟨port, _, rfl⟩ := ordererAt?_eq_some_iff.mp made
      rfl
  have organizations : n.entities.bare.organizations = t.roster.organizations := by
    rw [Entities.bare, parts.organizations, List.map_map]
    rfl
  rw [roster, Entities.mk.injEq]
  exact ⟨organizations, peers, orderers, by simp [Entities.bare, cas, Entities.empty],
    by simp [Entities.bare, channels, Entities.empty], by simp [Entities.bare, chaincodes, Entities.empty]⟩

theorem bare_canvas (t : Template) : t.canvas.entities.bare = t.roster := by
  have organizations : t.canvas.entities.bare.organizations =
      t.canvas.entities.unanchored.organizations.map fun o => .named o.id o.name := by
    simp [Entities.bare, Entities.unanchored]
  have peers : t.canvas.entities.peers = t.roster.peers := by
    rw [entities_eq, nodesOf_peer, List.map_map]
    refine List.map_congr_left fun s member => ?_
    simp [peerNode, neighbors_peer member, orgNode]
  rw [roster, Entities.mk.injEq, organizations, organizations_unanchored]
  refine ⟨?_, ?_, ?_, ?_, ?_, ?_⟩
  · simp [Organization.named]
  · simp [Entities.bare, peers, roster, Peer.named]
  · simp [Entities.bare, entities_eq, nodesOf_orderer, ordererNode, Orderer.named]
  all_goals
    simp [Entities.bare, entities_eq, nodesOf_other, Entities.empty]

theorem MadeOf.mirrored (parts : t.MadeOf n) : n.Mirrored where
  bare := by rw [parts.bare, parts.canvas, bare_canvas]
  organizations := by
    rw [parts.organizations, parts.canvas, organizations_unanchored, List.map_map]
    rfl
  named := by
    intro node drawn
    rw [parts.canvas, nodesOf_organization] at drawn
    obtain ⟨i, _, rfl⟩ := List.mem_map.mp drawn
    simp [orgNode, orgId]
  settled := by
    intro peer drawn a _ b _ left right
    rw [parts.canvas] at drawn left right
    rw [nodesOf_peer] at drawn
    obtain ⟨s, member, rfl⟩ := List.mem_map.mp drawn
    rw [(joins_peer_iff member).mp left, (joins_peer_iff member).mp right]

theorem not_linked_orderer (t : Template) (i : Nat) (id : String) : ¬ t.canvas.Linked (ordererId i) id := by
  rintro ⟨e, link, ends⟩
  obtain ⟨s, _, rfl⟩ := List.mem_map.mp (mem_links.mp link).1
  rcases ends with ⟨source, _⟩ | ⟨_, target⟩
  · exact peerId_ne_ordererId _ _ source
  · exact orgId_ne_ordererId _ _ target

/-- The keys of the records are those that the edges tell. -/
theorem MadeOf.pictured (parts : t.MadeOf n) : t.canvas.Pictured n.entities := by
  obtain ⟨cas, channels, chaincodes⟩ := parts.others
  have undrawn {kind : NodeKind} (organization : .organization ≠ kind) (peer : .peer ≠ kind)
      (orderer : .orderer ≠ kind) : idsOf (t.canvas.nodesOf kind) = [] := by
    rw [nodesOf_other t organization peer orderer, idsOf, List.map_nil]
  have organizations : n.entities.organizations.map (·.id) = idsOf (t.canvas.nodesOf .organization) := by
    rw [parts.organizations, nodesOf_organization, idsOf, List.map_map, List.map_map]
    rfl
  refine
    { organizations
      peers := by
        rw [parts.ids_peers, nodesOf_peer, idsOf, List.map_map, ← numbers_seats, List.map_map]
        rfl
      orderers := by
        rw [parts.ids_orderers, nodesOf_orderer, idsOf, List.map_map]
        rfl
      cas := by rw [cas, undrawn (by decide) (by decide) (by decide), List.map_nil]
      channels := by rw [channels, undrawn (by decide) (by decide) (by decide), List.map_nil]
      chaincodes := by rw [chaincodes, undrawn (by decide) (by decide) (by decide), List.map_nil]
      peerKeys := ?peers
      ordererKeys := ?orderers
      caKeys := by simp [cas]
      chaincodeKeys := by simp [chaincodes]
      organizationLists := by simp [channels]
      ordererLists := by simp [channels] }
  case peers =>
    rw [organizations]
    intro p listed
    obtain ⟨s, member, id, key⟩ := parts.exists_seat listed
    have first := firstLinked_neighbors t.nodup_ids (peerNode_mem member) (show NodeKind.peer ≠ .organization by decide)
    rw [id, key]
    exact ⟨_, first, congrArg (fun near => (near.head?.map (·.id)).getD "") (neighbors_peer member).symm⟩
  case orderers =>
    intro o listed
    obtain ⟨i, id, key⟩ := parts.exists_place listed
    rw [id, key]
    exact .missing fun id _ => t.not_linked_orderer i id

/-! ### The network of a template -/

/-- The records of a template are as many as it says, its peers numbered in a row, and the canvas shows them. -/
structure Matches (t : Template) (n : Network) : Prop where
  organizations : n.entities.organizations.length = t.orgCount
  orderers : n.entities.orderers.length = t.ordererCount
  peers : n.entities.peers.map (·.id) =
    (List.range (if t.orgCount = 0 then 0 else t.peerCount)).map fun k => "peer-" ++ toString k
  members : ∀ p ∈ n.entities.peers, p.organizationId ∈ n.entities.organizations.map (·.id)
  edges : ∀ p ∈ n.entities.peers, ∃ e,
    n.edges.filter (fun e => e.sourceNodeId = p.id ∨ e.targetNodeId = p.id) = [e] ∧ e.Between p.id p.organizationId
  sound : n.canvas.lint = []
  pictured : n.canvas.Pictured n.entities
  compiled : (n.recorded .empty).compile = n.compile
  deployed : ∀ id now, Deployment.ofNetwork id (n.recorded .empty) now = Deployment.ofNetwork id n now

theorem MadeOf.matches (parts : t.MadeOf n) : t.Matches n where
  organizations := by simp [parts.organizations]
  orderers := by simp [length_of_mapM parts.orderers]
  peers := parts.ids_peers
  members := by
    intro p listed
    obtain ⟨s, seat, _, key⟩ := parts.exists_seat listed
    rw [key, parts.organizations, List.map_map]
    exact List.mem_map_of_mem (List.mem_range.mpr (org_lt seat))
  edges := by
    intro p listed
    obtain ⟨s, seat, id, key⟩ := parts.exists_seat listed
    rw [id, key, show n.edges = t.canvas.edges from congrArg (·.edges) parts.canvas]
    exact ⟨peerEdge s, filter_edges seat, between_peerEdge.mpr ⟨rfl, rfl⟩⟩
  sound := by rw [parts.canvas, lint_canvas]
  pictured := by
    rw [parts.canvas]
    exact parts.pictured
  compiled := parts.mirrored.compile
  deployed := parts.mirrored.deployment

/-- The network of any template matches it, if its ports fit. -/
theorem matches_instantiate (t : Template) : t.Yields t.Matches := yields_of_madeOf fun _ parts => parts.matches

/-- One organization with sixty peers. -/
def throng : Template := ⟨"custom", "Throng", "", 1, 60, 1, false⟩

/-- The last of the sixty peers has no port, so there is no network. -/
theorem throng_has_no_network : throng.instantiate? = none :=
  instantiate?_eq_none_of_not_fits fun fits => absurd fits.peers (by decide)

end FabricTopology.Template
