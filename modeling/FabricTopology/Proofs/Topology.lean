import FabricTopology.Compilation
import FabricTopology.PeerCommand
import FabricTopology.Topology

/-!
What holds of every topology, whichever way its network is described: orderers are numbered in their order, and each is
named by its number; organizations keep their order and their names. Everything that is made of a network comes from its
topology, and its topology from its records or else from those of its canvas.
-/
namespace FabricTopology

theorem Network.source_of_recorded {n : Network} (recorded : n.entities.isEmpty = false) :
    n.source = .records n.entities := by
  rw [source, recorded]
  rfl

/-- Each orderer knows its position and is named by it. -/
def Numbered (orderers : List OrdererProfile) : Prop :=
  ∀ i o, orderers[i]? = some o → o.index = i ∧ o.hostname = Naming.ordererHostname i

namespace Topology

theorem numbered_extract (networkName : String) (source : Source) : Numbered (extract networkName source).orderers := by
  intro i o stands
  simp only [extract, List.getElem?_mapIdx, Option.map_eq_some_iff] at stands
  obtain ⟨record, _, rfl⟩ := stands
  exact ⟨rfl, rfl⟩

theorem numbered_ofNetwork (n : Network) : Numbered (ofNetwork n).orderers := numbered_extract n.name n.source

theorem organizations_ofNetwork (n : Network) :
    (ofNetwork n).organizations = n.source.entities.organizations.map fun o => o.profile n.source.entities.peers := rfl

theorem names_ofNetwork (n : Network) :
    (ofNetwork n).organizations.map (·.name) = n.source.entities.organizations.map (·.name) := by
  rw [organizations_ofNetwork, List.map_map]
  rfl

end Topology

/-! ### What is made of a network -/

/-- Two networks of which the same is made. -/
structure Network.Alike (n m : Network) : Prop where
  topology : Topology.ofNetwork n = Topology.ofNetwork m
  artifacts : n.artifacts = m.artifacts
  report : validateNetwork (some n) = validateNetwork (some m)
  scripts : ∀ command, (Topology.ofNetwork n).peerScript command = (Topology.ofNetwork m).peerScript command

theorem Network.alike_of_topology {n m : Network} (same : Topology.ofNetwork n = Topology.ofNetwork m) :
    n.Alike m := by
  refine ⟨same, ?_, ?_, ?_⟩
  · rw [artifacts, artifacts, same]
  · rw [validateNetwork, validateNetwork, same]
  · intro command
    rw [same]

/-- The network with another canvas. -/
def Network.drawn (n : Network) (c : Canvas) : Network := { n with nodes := c.nodes, edges := c.edges }

theorem Network.source_drawn (n : Network) (c : Canvas) :
    (n.drawn c).source = if n.entities.isEmpty then .canvas c else .records n.entities := rfl

namespace Topology

theorem extract_congr {s s' : Source} (same : s.entities = s'.entities) (name : String) :
    extract name s = extract name s' := by
  rw [extract, extract, same]

theorem ofNetwork_drawn {c c' : Canvas} (same : c.entities = c'.entities) (n : Network) :
    ofNetwork (n.drawn c) = ofNetwork (n.drawn c') := by
  have sources : (n.drawn c).source.entities = (n.drawn c').source.entities := by
    rw [Network.source_drawn, Network.source_drawn]
    by_cases unrecorded : n.entities.isEmpty
    · rw [if_pos unrecorded, if_pos unrecorded]
      exact same
    · rw [if_neg unrecorded, if_neg unrecorded]
  rw [ofNetwork, ofNetwork, extract_congr sources]
  rfl

end Topology

end FabricTopology
