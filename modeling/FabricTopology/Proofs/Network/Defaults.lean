import FabricTopology.Compilation
import FabricTopology.PeerCommand
import FabricTopology.Proofs.Topology
import FabricTopology.Proofs.Validation.Report
import Mathlib.Logic.Function.Iterate

/-!
Defaults written out. An organization with its membership provider and its domain written out resolves to the same
ones, because neither is ever empty; so writing them out again changes nothing, and whatever is made of a network is
made of the network with all defaults written out (`interchangeable_settled`). Networks that differ only in which
defaults they write out therefore cannot be told apart by anything that is made of them (`interchangeable_filled`).
-/
namespace FabricTopology

namespace Organization
variable (o : Organization)

theorem resolvedMspId_ne_empty : o.resolvedMspId ≠ "" := by
  rw [resolvedMspId]
  split
  · simp [Naming.defaultMspId]
  · next given => exact given

theorem resolvedDomain_ne_empty : o.resolvedDomain ≠ "" := by
  rw [resolvedDomain]
  split
  · simp [Naming.defaultDomain]
  · next given => exact given

theorem resolvedMspId_withDefaults : o.withDefaults.resolvedMspId = o.resolvedMspId :=
  if_neg o.resolvedMspId_ne_empty

theorem resolvedDomain_withDefaults : o.withDefaults.resolvedDomain = o.resolvedDomain :=
  if_neg o.resolvedDomain_ne_empty

theorem withDefaults_withDefaults : o.withDefaults.withDefaults = o.withDefaults := by
  rw [withDefaults, resolvedMspId_withDefaults, resolvedDomain_withDefaults]
  rfl

theorem withDefaults_iterate (times : Nat) : (withDefaults^[times] o).withDefaults = o.withDefaults := by
  induction times generalizing o with
  | zero => rfl
  | succ times ih => rw [Function.iterate_succ_apply, ih, withDefaults_withDefaults]

/-- The documents refer to an organization as before when its defaults are written out. -/
theorem profile_withDefaults (peers : List Peer) : o.withDefaults.profile peers = o.profile peers := by
  have anchors : o.withDefaults.anchorsAmong peers = o.anchorsAmong peers := by
    rw [anchorsAmong, anchorsAmong, resolvedDomain_withDefaults]
    rfl
  rw [profile, profile, resolvedMspId_withDefaults, resolvedDomain_withDefaults, anchors]
  rfl

end Organization

/-! ### All defaults written out -/

/-- The records with all defaults of organizations written out. -/
def Entities.settled (e : Entities) : Entities :=
  { e with organizations := e.organizations.map Organization.withDefaults }

/-- The network with all defaults of its organizations written out. -/
def Network.settled (n : Network) : Network := { n with entities := n.entities.settled }

namespace Entities
variable (e : Entities)

theorem isEmpty_settled : e.settled.isEmpty = e.isEmpty := by
  simp [isEmpty, settled]

/-- No rule looks at a membership provider or a domain. -/
theorem validate_settled : e.settled.validate = e.validate := by
  have bare : e.settled.bare = e.bare := by
    simp only [Entities.bare, settled, List.map_map]
    rfl
  rw [← validate_bare, bare, validate_bare]

end Entities

/-- The same is made of two networks, whatever their records are: the profiles of their organizations, the documents,
    the report and the scripts. -/
structure Network.Interchangeable (n m : Network) : Prop where
  profiles : (Topology.ofNetwork n).organizations = (Topology.ofNetwork m).organizations
  artifacts : n.artifacts = m.artifacts
  report : validateNetwork (some n) = validateNetwork (some m)
  scripts : ∀ command, (Topology.ofNetwork n).peerScript command = (Topology.ofNetwork m).peerScript command

namespace Network

theorem Interchangeable.symm {n m : Network} (same : n.Interchangeable m) : m.Interchangeable n :=
  ⟨same.profiles.symm, same.artifacts.symm, same.report.symm, fun command => (same.scripts command).symm⟩

theorem Interchangeable.trans {n m k : Network} (left : n.Interchangeable m) (right : m.Interchangeable k) :
    n.Interchangeable k :=
  ⟨left.profiles.trans right.profiles, left.artifacts.trans right.artifacts, left.report.trans right.report,
    fun command => (left.scripts command).trans (right.scripts command)⟩

theorem settled_of_unrecorded {n : Network} (unrecorded : n.entities.isEmpty = true) : n.settled = n := by
  have none : n.entities.organizations = [] := by
    simp only [Entities.isEmpty, Bool.and_eq_true, List.isEmpty_iff] at unrecorded
    exact unrecorded.1.1.1.1.1
  rw [settled, Entities.settled, none, List.map_nil, ← none]

theorem ofNetwork_settled_of_recorded {n : Network} (recorded : n.entities.isEmpty = false) :
    Topology.ofNetwork n.settled = { Topology.ofNetwork n with entities := n.entities.settled } := by
  have source : n.settled.source = .records n.entities.settled :=
    source_of_recorded (n.entities.isEmpty_settled.trans recorded)
  rw [Topology.ofNetwork, Topology.ofNetwork, source_of_recorded recorded, source]
  simp only [Topology.extract, Source.entities, Entities.settled, Entities.counts, List.map_map, List.length_map,
    Function.comp_def, Organization.profile_withDefaults]
  rfl

/-- The same is made of a network when all defaults are written out. -/
theorem interchangeable_settled (n : Network) : n.settled.Interchangeable n := by
  cases recorded : n.entities.isEmpty with
  | true => rw [settled_of_unrecorded recorded]; exact ⟨rfl, rfl, rfl, fun _ => rfl⟩
  | false =>
    have topology := ofNetwork_settled_of_recorded recorded
    have source : (Topology.ofNetwork n).entities = n.entities := by
      rw [Topology.ofNetwork, source_of_recorded recorded]
      rfl
    refine ⟨by rw [topology], ?_, ?_, fun command => ?_⟩
    · rw [artifacts, topology]
      rfl
    · rw [validateNetwork, validateNetwork, topology, source, Entities.validate_settled]
    · rw [Topology.peerScript, Topology.peerScript, Topology.peerContext, Topology.peerContext, topology, source]
      rfl

/-- The network with the defaults of some of its organizations written out, of the one at each position so many times
    over. -/
def filled (n : Network) (times : Nat → Nat) : Network :=
  { n with
    entities :=
      { n.entities with
        organizations := n.entities.organizations.mapIdx fun j o => Organization.withDefaults^[times j] o } }

theorem settled_filled (n : Network) (times : Nat → Nat) : (n.filled times).settled = n.settled := by
  have organizations : (n.filled times).entities.organizations.map Organization.withDefaults =
      n.entities.organizations.map Organization.withDefaults := by
    refine List.ext_getElem (by simp [filled]) fun j _ _ => ?_
    simp [filled, Organization.withDefaults_iterate]
  rw [settled, Entities.settled, organizations]
  rfl

end Network

/-- Whichever organizations have their defaults written out, and however often, the same is made of the network. -/
theorem interchangeable_filled (n : Network) (times : Nat → Nat) : (n.filled times).Interchangeable n := by
  have settled := (n.filled times).interchangeable_settled
  rw [n.settled_filled times] at settled
  exact settled.symm.trans n.interchangeable_settled

end FabricTopology
