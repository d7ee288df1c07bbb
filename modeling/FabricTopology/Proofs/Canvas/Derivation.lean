import FabricTopology.Proofs.Canvas.Neighbors
import FabricTopology.Topology
import Mathlib.Data.List.Nodup

/-!
The records of a canvas are a picture of it. Where no id is drawn twice there is one record for each node, in the
collection of its kind and in the order of the canvas. A key refers to records of the right kind that an edge
joins to its owner: a key to one record refers to the first of them, and a list to all of them
(`pictured_entities`).
-/
namespace FabricTopology

/-- How many records there are of all kinds. -/
def KindCounts.total (k : KindCounts) : Nat :=
  k.organizations + k.peers + k.orderers + k.cas + k.channels + k.chaincodes

namespace Canvas

/-- An edge that has both its ends joins the two ids. -/
def Linked (c : Canvas) (a b : String) : Prop := ∃ e ∈ c.links, e.Between a b

instance (c : Canvas) (a b : String) : Decidable (c.Linked a b) :=
  inferInstanceAs (Decidable (∃ e ∈ c.links, e.Between a b))

/-- What refers to one of some records from its owner: the first id that an edge joins to the owner, if any. -/
inductive FirstLinked (c : Canvas) (owner : String) (ids : List String) : Option String → Prop where
  | first {before after : List String} {id : String} (split : ids = before ++ id :: after)
      (linked : c.Linked owner id) (earlier : ∀ other ∈ before, ¬ c.Linked owner other) :
      FirstLinked c owner ids (some id)
  | missing (alone : ∀ id ∈ ids, ¬ c.Linked owner id) : FirstLinked c owner ids none

/-- What refers to one of some records by a text, which is empty where there is none to refer to. -/
def FirstLinkedText (c : Canvas) (owner : String) (ids : List String) (key : String) : Prop :=
  ∃ found, FirstLinked c owner ids found ∧ key = found.getD ""

/-- What refers to all of some records that edges join to the owner: each of them once and in their order. -/
structure AllLinked (c : Canvas) (owner : String) (ids keys : List String) : Prop where
  ordered : keys.Sublist ids
  distinct : keys.Nodup
  mem_iff : ∀ id, id ∈ keys ↔ id ∈ ids ∧ c.Linked owner id

/-- Records that picture a canvas: one for each node, kind by kind, with the keys that its edges tell. -/
structure Pictured (c : Canvas) (e : Entities) : Prop where
  organizations : e.organizations.map (·.id) = idsOf (c.nodesOf .organization)
  peers : e.peers.map (·.id) = idsOf (c.nodesOf .peer)
  orderers : e.orderers.map (·.id) = idsOf (c.nodesOf .orderer)
  cas : e.cas.map (·.id) = idsOf (c.nodesOf .certificateAuthority)
  channels : e.channels.map (·.id) = idsOf (c.nodesOf .channel)
  chaincodes : e.chaincodes.map (·.id) = idsOf (c.nodesOf .chaincode)
  peerKeys : ∀ p ∈ e.peers, c.FirstLinkedText p.id (e.organizations.map (·.id)) p.organizationId
  ordererKeys : ∀ o ∈ e.orderers, c.FirstLinked o.id (e.organizations.map (·.id)) o.organizationId
  caKeys : ∀ a ∈ e.cas, c.FirstLinkedText a.id (e.organizations.map (·.id)) a.organizationId
  chaincodeKeys : ∀ x ∈ e.chaincodes, c.FirstLinkedText x.id (e.channels.map (·.id)) x.channelId
  organizationLists : ∀ l ∈ e.channels, c.AllLinked l.id (e.organizations.map (·.id)) l.organizationIds
  ordererLists : ∀ l ∈ e.channels, c.AllLinked l.id (e.orderers.map (·.id)) l.ordererIds

variable {c : Canvas} {n m : Node} {own kind : NodeKind}

/-! ### Neighbours by their ids -/

/-- Nodes of different kinds are joined if an edge has their ids as its ends. -/
theorem joins_iff_linked (distinct : (idsOf c.nodes).Nodup) (left : n ∈ c.nodesOf own) (right : m ∈ c.nodesOf kind)
    (other : own ≠ kind) : c.Joins n.id m.id ↔ c.Linked n.id m.id := by
  obtain ⟨leftDrawn, rfl⟩ := mem_nodesOf.mp left
  obtain ⟨rightDrawn, rfl⟩ := mem_nodesOf.mp right
  have apart : n.id ≠ m.id := by
    intro same
    have one := List.inj_on_of_nodup_map distinct leftDrawn rightDrawn same
    exact other (congrArg Node.kind one)
  rw [joins_iff, Linked]
  exact and_iff_right apart

theorem idsOf_neighbors (distinct : (idsOf c.nodes).Nodup) (drawn : n ∈ c.nodesOf own) (other : own ≠ kind) :
    idsOf (c.neighbors n.id kind) = (idsOf (c.nodesOf kind)).filter fun id => c.Linked n.id id := by
  rw [neighbors_eq, idsOf, idsOf, List.filter_map]
  refine congrArg (List.map _) (List.filter_congr fun m right => ?_)
  exact decide_eq_decide.mpr (joins_iff_linked distinct drawn right other)

theorem firstLinked_neighbors (distinct : (idsOf c.nodes).Nodup) (drawn : n ∈ c.nodesOf own) (other : own ≠ kind) :
    c.FirstLinked n.id (idsOf (c.nodesOf kind)) ((c.neighbors n.id kind).head?.map (·.id)) := by
  have key : (c.neighbors n.id kind).head?.map (·.id) =
      (idsOf (c.nodesOf kind)).find? fun id => c.Linked n.id id := by
    rw [← List.head?_map, ← List.head?_filter]
    exact congrArg List.head? (idsOf_neighbors distinct drawn other)
  rw [key]
  cases found : (idsOf (c.nodesOf kind)).find? fun id => c.Linked n.id id with
  | none =>
    have alone := List.find?_eq_none.mp found
    exact .missing fun id listed => by simpa using alone id listed
  | some id =>
    obtain ⟨linked, before, after, split, earlier⟩ := List.find?_eq_some_iff_append.mp found
    exact .first split (by simpa using linked) fun id listed => by simpa using earlier id listed

theorem allLinked_neighbors (distinct : (idsOf c.nodes).Nodup) (drawn : n ∈ c.nodesOf own) (other : own ≠ kind) :
    c.AllLinked n.id (idsOf (c.nodesOf kind)) (idsOf (c.neighbors n.id kind)) := by
  have ids : (idsOf (c.nodesOf kind)).Nodup := distinct.sublist (List.filter_sublist.map _)
  rw [idsOf_neighbors distinct drawn other]
  refine ⟨List.filter_sublist, ids.filter _, ?_⟩
  intro id
  rw [List.mem_filter, decide_eq_true_iff]

/-! ### Records -/

theorem ids_organizations (c : Canvas) :
    c.entities.organizations.map (·.id) = idsOf (c.nodesOf .organization) := by
  refine List.ext_getElem (by simp [entities_eq, idsOf]) fun i _ _ => ?_
  simp [entities_eq, idsOf, organizationOf_id]

/-- Every node has a record of its kind. -/
theorem total_counts (c : Canvas) : c.entities.counts.total = c.nodes.length := by
  obtain ⟨nodes, edges⟩ := c
  simp only [entities_eq, Entities.counts, KindCounts.total, List.length_mapIdx, List.length_map, nodesOf]
  induction nodes with
  | nil => rfl
  | cons n rest ih =>
    cases kind : n.kind <;> simp [kind] <;> omega

/-- Where no id is drawn twice, the records of a canvas picture it: one for each node, with the keys that the edges
    tell. -/
theorem pictured_entities (distinct : (idsOf c.nodes).Nodup) :
    c.Pictured c.entities ∧ ∀ name, (Topology.extract name (.canvas c)).counts.total = c.nodes.length := by
  refine ⟨?_, fun _ => total_counts c⟩
  have organizations := ids_organizations c
  have orderers : c.entities.orderers.map (·.id) = idsOf (c.nodesOf .orderer) := by
    simp [entities_eq, idsOf, Orderer.named]
  have channels : c.entities.channels.map (·.id) = idsOf (c.nodesOf .channel) := by simp [entities_eq, idsOf]
  refine
    { organizations, orderers, channels
      peers := by simp [entities_eq, idsOf, Peer.named]
      cas := by simp [entities_eq, idsOf, CertificateAuthority.named]
      chaincodes := by simp [entities_eq, idsOf, Chaincode.named]
      peerKeys := ?peers
      ordererKeys := ?orderers
      caKeys := ?cas
      chaincodeKeys := ?chaincodes
      organizationLists := ?organizationLists
      ordererLists := ?ordererLists }
  case peers =>
    rw [organizations]
    intro p listed
    obtain ⟨n, drawn, rfl⟩ := List.mem_map.mp listed
    exact ⟨_, firstLinked_neighbors distinct drawn (by decide), rfl⟩
  case orderers =>
    rw [organizations]
    intro o listed
    obtain ⟨n, drawn, rfl⟩ := List.mem_map.mp listed
    exact firstLinked_neighbors distinct drawn (by decide)
  case cas =>
    rw [organizations]
    intro a listed
    obtain ⟨n, drawn, rfl⟩ := List.mem_map.mp listed
    exact ⟨_, firstLinked_neighbors distinct drawn (by decide), rfl⟩
  case chaincodes =>
    rw [channels]
    intro x listed
    obtain ⟨n, drawn, rfl⟩ := List.mem_map.mp listed
    exact ⟨_, firstLinked_neighbors distinct drawn (by decide), rfl⟩
  case organizationLists =>
    rw [organizations]
    intro l listed
    obtain ⟨n, drawn, rfl⟩ := List.mem_map.mp listed
    exact allLinked_neighbors distinct drawn (by decide)
  case ordererLists =>
    rw [orderers]
    intro l listed
    obtain ⟨n, drawn, rfl⟩ := List.mem_map.mp listed
    exact allLinked_neighbors distinct drawn (by decide)

/-- A peer between two organizations, a channel that two edges join to one of them, and edges that count for nothing. -/
def crossing : Canvas :=
  { nodes := [⟨"s", .chaincode, "trade", none, .origin⟩, ⟨"o", .organization, "Org1", none, .origin⟩,
      ⟨"p", .peer, "peer0", none, .origin⟩, ⟨"q", .organization, "Org2", none, .origin⟩,
      ⟨"l", .channel, "ledger", none, .origin⟩, ⟨"r", .orderer, "orderer", none, .origin⟩]
    edges := [⟨"a", "p", "q"⟩, ⟨"b", "o", "p"⟩, ⟨"c", "l", "q"⟩, ⟨"d", "q", "l"⟩, ⟨"e", "o", "l"⟩, ⟨"f", "r", "x"⟩,
      ⟨"g", "s", "s"⟩] }

theorem pictured_crossing : (idsOf crossing.nodes).Nodup ∧ crossing.Pictured crossing.entities ∧
    (∀ name, (Topology.extract name (.canvas crossing)).counts.total = 6) ∧
    crossing.entities.peers.map (·.organizationId) = ["o"] ∧
    crossing.entities.channels.map (·.organizationIds) = [["o", "q"]] ∧
    crossing.entities.orderers.map (·.organizationId) = [none] ∧
    crossing.entities.chaincodes.map (·.channelId) = [""] := by
  have distinct : (idsOf crossing.nodes).Nodup := by decide
  obtain ⟨pictured, counts⟩ := pictured_entities distinct
  exact ⟨distinct, pictured, counts, by decide, by decide, by decide, by decide⟩

end Canvas

end FabricTopology
