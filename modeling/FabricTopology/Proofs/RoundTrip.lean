import FabricTopology.Deployment
import FabricTopology.Proofs.Network.Codec
import FabricTopology.Proofs.Validation.Codec

/-!
Every record is read back from its encoding, and from every other way to write that encoding: members in
any order, under any of their names, and among members of unknown names. Only a network minds what an
unknown member holds, because it keeps all but its plain fields for later reading.
-/
namespace FabricTopology
open Json.Rewording

/-! ### Deployments -/

namespace Deployment

def fields : List Field :=
  [⟨"id", [], same⟩,
    ⟨"networkId", [], same⟩,
    ⟨"networkName", [], same⟩,
    ⟨"status", [], same⟩,
    ⟨"totalNodes", [], same⟩,
    ⟨"peerCount", [], same⟩,
    ⟨"ordererCount", [], same⟩,
    ⟨"caCount", [], same⟩,
    ⟨"uptime", [], same⟩,
    ⟨"progress", [], same⟩,
    ⟨"createdAt", [], same⟩,
    ⟨"lastActive", [], same⟩]

def rows (d : Deployment) : List (String × Option Json) :=
  [("id", some (.str d.id)),
    ("networkId", some (.str d.networkId)),
    ("networkName", some (.str d.networkName)),
    ("status", some (.str d.status.name)),
    ("totalNodes", some (.int d.totalNodes)),
    ("peerCount", some (.int d.peerCount)),
    ("ordererCount", some (.int d.ordererCount)),
    ("caCount", some (.int d.caCount)),
    ("uptime", d.uptime.map .str),
    ("progress", d.progress.map fun p => .int p.toNat),
    ("createdAt", some d.createdAt.toJson),
    ("lastActive", d.lastActive.map Calendar.Timestamp.toJson)]

theorem ofJson?_written (d : Deployment) {j : Json} (written : Written fields d.rows j) : ofJson? j = some d := by
  have id : j.required Json.str? 0 ["id"] = some d.id := written.required 0 rfl rfl (reads_str d.id)
  have networkId : j.required Json.str? 1 ["networkId"] = some d.networkId :=
    written.required 1 rfl rfl (reads_str d.networkId)
  have networkName : j.required Json.str? 2 ["networkName"] = some d.networkName :=
    written.required 2 rfl rfl (reads_str d.networkName)
  have status : j.required Status.ofJson? 3 ["status"] = some d.status := written.required 3 rfl rfl d.status.reads
  have totalNodes : j.required Json.nat? 4 ["totalNodes"] = some d.totalNodes :=
    written.required 4 rfl rfl (reads_nat d.totalNodes)
  have peerCount : j.required Json.nat? 5 ["peerCount"] = some d.peerCount :=
    written.required 5 rfl rfl (reads_nat d.peerCount)
  have ordererCount : j.required Json.nat? 6 ["ordererCount"] = some d.ordererCount :=
    written.required 6 rfl rfl (reads_nat d.ordererCount)
  have caCount : j.required Json.nat? 7 ["caCount"] = some d.caCount :=
    written.required 7 rfl rfl (reads_nat d.caCount)
  have uptime : j.optional Json.str? 8 ["uptime"] = some d.uptime :=
    written.optional 8 rfl rfl (fun s _ => reads_str s) rfl
  have progress : j.optional Json.word8? 9 ["progress"] = some d.progress :=
    written.optional 9 rfl rfl (fun p _ => reads_word8 p) rfl
  have createdAt : j.required Calendar.Timestamp.ofJson? 10 ["createdAt"] = some d.createdAt :=
    written.required 10 rfl rfl d.createdAt.reads
  have lastActive : j.optional Calendar.Timestamp.ofJson? 11 ["lastActive"] = some d.lastActive :=
    written.optional 11 rfl rfl (fun t _ => t.reads) rfl
  simp [ofJson?, written.isRecord, id, networkId, networkName, status, totalNodes, peerCount,
    ordererCount, caCount, uptime, progress, createdAt, lastActive]

theorem reads (d : Deployment) : Reads (record fields) d.toJson ofJson? d :=
  fun _ reworded => d.ofJson?_written ⟨by decide, by simp [rows], reworded⟩

theorem self (d : Deployment) : record fields d.toJson d.toJson :=
  record_self d.rows (by simp [fields, rows, same])

end Deployment

/-! ### All records -/

/-- A value is read from its encoding and from every other way to write it. -/
def RoundTrips {α : Type} (rewording : Json.Rewording) (toJson : α → Json) (ofJson? : Json → Option α) (a : α) : Prop :=
  ofJson? (toJson a) = some a ∧ ∀ j, rewording (toJson a) j → ofJson? j = some a

theorem roundTrips {α : Type} {rewording : Json.Rewording} {toJson : α → Json} {ofJson? : Json → Option α} {a : α}
    (reads : Reads rewording (toJson a) ofJson? a) (self : rewording (toJson a) (toJson a)) :
    RoundTrips rewording toJson ofJson? a :=
  ⟨reads _ self, reads⟩

/-- All records make the round trip, those on a canvas if they have a place. -/
theorem records_roundTrip :
    (∀ n : Network, n.IsPlaced → RoundTrips Network.rewording Network.toJson Network.ofJson? n) ∧
    (∀ e : Entities, RoundTrips (record Entities.fields) Entities.toJson Entities.ofJson? e) ∧
    (∀ o : Organization, RoundTrips (record Organization.fields) Organization.toJson Organization.ofJson? o) ∧
    (∀ p : Peer, RoundTrips (record Peer.fields) Peer.toJson Peer.ofJson? p) ∧
    (∀ o : Orderer, RoundTrips (record Orderer.fields) Orderer.toJson Orderer.ofJson? o) ∧
    (∀ c : CertificateAuthority,
      RoundTrips (record CertificateAuthority.fields) CertificateAuthority.toJson CertificateAuthority.ofJson? c) ∧
    (∀ c : Channel, RoundTrips (record Channel.fields) Channel.toJson Channel.ofJson? c) ∧
    (∀ c : Chaincode, RoundTrips (record Chaincode.fields) Chaincode.toJson Chaincode.ofJson? c) ∧
    (∀ n : Node, n.position.IsFinite → RoundTrips (record Node.fields) Node.toJson Node.ofJson? n) ∧
    (∀ e : Edge, RoundTrips (record Edge.fields) Edge.toJson Edge.ofJson? e) ∧
    (∀ d : Deployment, RoundTrips (record Deployment.fields) Deployment.toJson Deployment.ofJson? d) ∧
    (∀ r : Report, RoundTrips (record Report.fields) Report.toJson Report.ofJson? r) := by
  refine ⟨?_, ?_, ?_, ?_, ?_, ?_, ?_, ?_, ?_, ?_, ?_, ?_⟩
  · exact fun n placed => roundTrips (Network.reads placed) n.self
  · exact fun e => roundTrips e.reads e.self
  · exact fun o => roundTrips o.reads o.self
  · exact fun p => roundTrips p.reads p.self
  · exact fun o => roundTrips o.reads o.self
  · exact fun c => roundTrips c.reads c.self
  · exact fun c => roundTrips c.reads c.self
  · exact fun c => roundTrips c.reads c.self
  · exact fun n finite => roundTrips (Node.reads finite) n.self
  · exact fun e => roundTrips e.reads e.self
  · exact fun d => roundTrips d.reads d.self
  · exact fun r => roundTrips r.reads r.self

theorem records_roundTrip_placed :
    let node : Node := ⟨"n", .peer, "peer", none, ⟨0.5, -1250.75⟩⟩
    let n : Network := { Network.named "net" with nodes := [node] }
    n.IsPlaced ∧ RoundTrips Network.rewording Network.toJson Network.ofJson? n ∧
      node.position.IsFinite ∧ RoundTrips (record Node.fields) Node.toJson Node.ofJson? node := by
  intro node n
  have finite : node.position.IsFinite := ⟨by decide +kernel, by decide +kernel⟩
  have placed : n.IsPlaced := List.forall_mem_singleton.mpr finite
  obtain ⟨networks, _, _, _, _, _, _, _, nodes, _⟩ := records_roundTrip
  exact ⟨placed, networks n placed, finite, nodes node finite⟩

/-! ### What a network does not skip -/

namespace Json

/-- An empty array inside so many others. -/
def nested : Nat → Json
  | 0 => .arr []
  | n + 1 => .arr [nested n]

theorem isReadable_nested (n depth : Nat) : (nested n).isReadable depth = decide (n < depth) := by
  induction n generalizing depth with
  | zero => cases depth <;> simp [nested, isReadable, areReadable]
  | succ n ih => cases depth <;> simp [nested, isReadable, areReadable, ih]

end Json

/-- The encoding of a network with a member before all others. -/
def Network.toJsonWith (n : Network) (m : String × Json) : Json :=
  .obj (m :: n.rows.filterMap fun row => row.2.map fun j => (row.1, j))

/-- A network refuses an unknown member with too many arrays inside one another, which other records skip. -/
theorem nested_member_refused :
    let n := Network.named "net"
    let j := n.toJsonWith ("note", .nested 126)
    record Network.fields n.toJson j ∧ Network.ofJson? j = none := by
  intro n j
  have deep : Network.isReadable j = false := by
    simp [j, Network.toJsonWith, Network.isReadable, Network.plainFields, Network.nestingLimit, Json.isReadable_nested]
  refine ⟨record_cons (by decide) n.self.1, ?_⟩
  rw [Network.ofJson?, deep]
  rfl

end FabricTopology
