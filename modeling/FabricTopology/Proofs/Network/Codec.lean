import FabricTopology.Network.Codec
import FabricTopology.Proofs.Calendar
import FabricTopology.Proofs.Json.Rewording

/-!
The records of a network are read back from what is written for them, in whatever other way it is
written. Each record has its fields with their names (`fields`), the rows that its writer fills in
(`rows`), and a theorem that its reader finds every field again (`ofJson?_written`).
-/
namespace FabricTopology
open Json (Rewording)
open Json.Rewording

theorem Calendar.Timestamp.reads (t : Calendar.Timestamp) : Reads same t.toJson Calendar.Timestamp.ofJson? t :=
  reads_same (by simp [Calendar.Timestamp.ofJson?, Calendar.Timestamp.toJson, Json.str?, t.ofText?_text])

theorem Status.reads (x : Status) : Reads same (.str x.name) Status.ofJson? x :=
  reads_same (by simp [Status.ofJson?, Json.alternative?, Json.alternativeBut?, Status.ofName?_name])

theorem NodeKind.reads (k : NodeKind) : Reads same (.str k.name) NodeKind.ofJson? k :=
  reads_same (by simp [NodeKind.ofJson?, Json.alternative?, Json.alternativeBut?, NodeKind.ofName?_name])

theorem Language.reads (x : Language) : Reads same (.str x.name) Language.ofJson? x :=
  reads_same (by simp [Language.ofJson?, Json.alternative?, Json.alternativeBut?, Language.ofName?_name])

theorem Language.reads_kept (x : Language) : Reads same (.str x.name) Language.ofKeptJson? x :=
  reads_same (by simp [Language.ofKeptJson?, Json.keptAlternative?, Json.alternativeBut?, Language.ofName?_name])

namespace Consensus

/-- The short name of the first family. -/
def synonyms : List (String × String) := [("etcdraft", "raft")]

theorem reads (c : Consensus) : Reads (word synonyms) (.str c.name) ofJson? c := by
  refine reads_word (fun s => rfl) c.ofName?_name ?_
  cases c <;> decide

end Consensus

namespace AnchorPeer

def fields : List Field := [⟨"host", [], same⟩, ⟨"port", [], same⟩]

def rows (a : AnchorPeer) : List (String × Option Json) :=
  [("host", some (.str a.host)), ("port", some (.int a.port.toNat))]

theorem ofJson?_written (a : AnchorPeer) {j : Json} (written : Written fields a.rows j) : ofJson? j = some a := by
  have host : j.required Json.str? 0 ["host"] = some a.host := written.required 0 rfl rfl (reads_str a.host)
  have port : j.required Json.word16? 1 ["port"] = some a.port := written.required 1 rfl rfl (reads_word16 a.port)
  simp [ofJson?, written.isRecord, host, port]

theorem reads (a : AnchorPeer) : Reads (record fields) a.toJson ofJson? a :=
  fun _ reworded => a.ofJson?_written ⟨by decide, by simp [rows], reworded⟩

theorem self (a : AnchorPeer) : record fields a.toJson a.toJson :=
  record_self a.rows (by simp [fields, rows, same])

end AnchorPeer

namespace Organization

def fields : List Field :=
  [⟨"id", [], same⟩,
    ⟨"name", [], same⟩,
    ⟨"mspId", [], same⟩,
    ⟨"domain", [], same⟩,
    ⟨"anchorPeers", [], list (record AnchorPeer.fields)⟩]

def rows (o : Organization) : List (String × Option Json) :=
  [("id", some (.str o.id)),
    ("name", some (.str o.name)),
    ("mspId", some (.str o.mspId)),
    ("domain", some (.str o.domain)),
    ("anchorPeers", o.anchorPeers.map fun as => .arr (as.map AnchorPeer.toJson))]

theorem ofJson?_written (o : Organization) {j : Json} (written : Written fields o.rows j) : ofJson? j = some o := by
  have id : j.required Json.str? 0 ["id"] = some o.id := written.required 0 rfl rfl (reads_str o.id)
  have name : j.required Json.str? 1 ["name"] = some o.name := written.required 1 rfl rfl (reads_str o.name)
  have mspId : j.defaulted "" Json.str? 2 ["mspId"] = some o.mspId := written.defaulted 2 rfl rfl (reads_str o.mspId)
  have domain : j.defaulted "" Json.str? 3 ["domain"] = some o.domain :=
    written.defaulted 3 rfl rfl (reads_str o.domain)
  have anchorPeers : j.optional (Json.list? AnchorPeer.ofJson?) 4 ["anchorPeers"] = some o.anchorPeers :=
    written.optional 4 rfl rfl (fun as _ => reads_list fun a _ => a.reads) rfl
  simp [ofJson?, written.isRecord, id, name, mspId, domain, anchorPeers]

theorem reads (o : Organization) : Reads (record fields) o.toJson ofJson? o :=
  fun _ reworded => o.ofJson?_written ⟨by decide, by simp [rows], reworded⟩

theorem self (o : Organization) : record fields o.toJson o.toJson := by
  have anchors (as : List AnchorPeer) : list (record AnchorPeer.fields) (.arr (as.map AnchorPeer.toJson))
      (.arr (as.map AnchorPeer.toJson)) := list_self fun a _ => a.self
  exact record_self o.rows (by simp [fields, rows, anchors, same])

end Organization

namespace Peer

def fields : List Field :=
  [⟨"id", [], same⟩,
    ⟨"name", [], same⟩,
    ⟨"organizationId", [], same⟩,
    ⟨"host", [], same⟩,
    ⟨"port", [], same⟩,
    ⟨"tlsEnabled", [], same⟩,
    ⟨"couchDbEnabled", [], same⟩]

def rows (p : Peer) : List (String × Option Json) :=
  [("id", some (.str p.id)),
    ("name", some (.str p.name)),
    ("organizationId", some (.str p.organizationId)),
    ("host", some (.str p.host)),
    ("port", some (.int p.port.toNat)),
    ("tlsEnabled", some (.bool p.tlsEnabled)),
    ("couchDbEnabled", some (.bool p.couchDbEnabled))]

theorem ofJson?_written (p : Peer) {j : Json} (written : Written fields p.rows j) : ofJson? j = some p := by
  have id : j.required Json.str? 0 ["id"] = some p.id := written.required 0 rfl rfl (reads_str p.id)
  have name : j.required Json.str? 1 ["name"] = some p.name := written.required 1 rfl rfl (reads_str p.name)
  have organizationId : j.defaulted "" Json.str? 2 ["organizationId"] = some p.organizationId :=
    written.defaulted 2 rfl rfl (reads_str p.organizationId)
  have host : j.defaulted "" Json.str? 3 ["host"] = some p.host := written.defaulted 3 rfl rfl (reads_str p.host)
  have port : j.defaulted Naming.peerPort Json.word16? 4 ["port"] = some p.port :=
    written.defaulted 4 rfl rfl (reads_word16 p.port)
  have tlsEnabled : j.defaulted true Json.bool? 5 ["tlsEnabled"] = some p.tlsEnabled :=
    written.defaulted 5 rfl rfl (reads_bool p.tlsEnabled)
  have couchDbEnabled : j.defaulted false Json.bool? 6 ["couchDbEnabled"] = some p.couchDbEnabled :=
    written.defaulted 6 rfl rfl (reads_bool p.couchDbEnabled)
  simp [ofJson?, written.isRecord, id, name, organizationId, host, port, tlsEnabled, couchDbEnabled]

theorem reads (p : Peer) : Reads (record fields) p.toJson ofJson? p :=
  fun _ reworded => p.ofJson?_written ⟨by decide, by simp [rows], reworded⟩

theorem self (p : Peer) : record fields p.toJson p.toJson :=
  record_self p.rows (by simp [fields, rows, same])

end Peer

namespace Orderer

def fields : List Field :=
  [⟨"id", [], same⟩,
    ⟨"name", [], same⟩,
    ⟨"organizationId", [], same⟩,
    ⟨"host", [], same⟩,
    ⟨"port", [], same⟩,
    ⟨"tlsEnabled", [], same⟩]

def rows (o : Orderer) : List (String × Option Json) :=
  [("id", some (.str o.id)),
    ("name", some (.str o.name)),
    ("organizationId", o.organizationId.map .str),
    ("host", some (.str o.host)),
    ("port", some (.int o.port.toNat)),
    ("tlsEnabled", some (.bool o.tlsEnabled))]

theorem ofJson?_written (o : Orderer) {j : Json} (written : Written fields o.rows j) : ofJson? j = some o := by
  have id : j.required Json.str? 0 ["id"] = some o.id := written.required 0 rfl rfl (reads_str o.id)
  have name : j.required Json.str? 1 ["name"] = some o.name := written.required 1 rfl rfl (reads_str o.name)
  have organizationId : j.optional Json.str? 2 ["organizationId"] = some o.organizationId :=
    written.optional 2 rfl rfl (fun s _ => reads_str s) rfl
  have host : j.defaulted "" Json.str? 3 ["host"] = some o.host := written.defaulted 3 rfl rfl (reads_str o.host)
  have port : j.defaulted Naming.ordererPort Json.word16? 4 ["port"] = some o.port :=
    written.defaulted 4 rfl rfl (reads_word16 o.port)
  have tlsEnabled : j.defaulted true Json.bool? 5 ["tlsEnabled"] = some o.tlsEnabled :=
    written.defaulted 5 rfl rfl (reads_bool o.tlsEnabled)
  simp [ofJson?, written.isRecord, id, name, organizationId, host, port, tlsEnabled]

theorem reads (o : Orderer) : Reads (record fields) o.toJson ofJson? o :=
  fun _ reworded => o.ofJson?_written ⟨by decide, by simp [rows], reworded⟩

theorem self (o : Orderer) : record fields o.toJson o.toJson :=
  record_self o.rows (by simp [fields, rows, same])

end Orderer

namespace CertificateAuthority

def fields : List Field :=
  [⟨"id", [], same⟩,
    ⟨"name", [], same⟩,
    ⟨"organizationId", [], same⟩,
    ⟨"host", [], same⟩,
    ⟨"port", [], same⟩,
    ⟨"tlsEnabled", [], same⟩]

def rows (c : CertificateAuthority) : List (String × Option Json) :=
  [("id", some (.str c.id)),
    ("name", some (.str c.name)),
    ("organizationId", some (.str c.organizationId)),
    ("host", some (.str c.host)),
    ("port", some (.int c.port.toNat)),
    ("tlsEnabled", some (.bool c.tlsEnabled))]

theorem ofJson?_written (c : CertificateAuthority) {j : Json} (written : Written fields c.rows j) :
    ofJson? j = some c := by
  have id : j.required Json.str? 0 ["id"] = some c.id := written.required 0 rfl rfl (reads_str c.id)
  have name : j.required Json.str? 1 ["name"] = some c.name := written.required 1 rfl rfl (reads_str c.name)
  have organizationId : j.defaulted "" Json.str? 2 ["organizationId"] = some c.organizationId :=
    written.defaulted 2 rfl rfl (reads_str c.organizationId)
  have host : j.defaulted "" Json.str? 3 ["host"] = some c.host := written.defaulted 3 rfl rfl (reads_str c.host)
  have port : j.defaulted Naming.caPort Json.word16? 4 ["port"] = some c.port :=
    written.defaulted 4 rfl rfl (reads_word16 c.port)
  have tlsEnabled : j.defaulted true Json.bool? 5 ["tlsEnabled"] = some c.tlsEnabled :=
    written.defaulted 5 rfl rfl (reads_bool c.tlsEnabled)
  simp [ofJson?, written.isRecord, id, name, organizationId, host, port, tlsEnabled]

theorem reads (c : CertificateAuthority) : Reads (record fields) c.toJson ofJson? c :=
  fun _ reworded => c.ofJson?_written ⟨by decide, by simp [rows], reworded⟩

theorem self (c : CertificateAuthority) : record fields c.toJson c.toJson :=
  record_self c.rows (by simp [fields, rows, same])

end CertificateAuthority

namespace Channel

def fields : List Field :=
  [⟨"id", [], same⟩,
    ⟨"name", [], same⟩,
    ⟨"organizationIds", ["organizations"], (list same)⟩,
    ⟨"ordererIds", ["orderers"], (list same)⟩]

def rows (c : Channel) : List (String × Option Json) :=
  [("id", some (.str c.id)),
    ("name", some (.str c.name)),
    ("organizationIds", some (.ofStrings c.organizationIds)),
    ("ordererIds", some (.ofStrings c.ordererIds))]

theorem ofJson?_written (c : Channel) {j : Json} (written : Written fields c.rows j) : ofJson? j = some c := by
  have id : j.required Json.str? 0 ["id"] = some c.id := written.required 0 rfl rfl (reads_str c.id)
  have name : j.required Json.str? 1 ["name"] = some c.name := written.required 1 rfl rfl (reads_str c.name)
  have organizationIds : j.defaulted [] strings? 2 ["organizationIds", "organizations"] = some c.organizationIds :=
    written.defaulted 2 rfl rfl (reads_list fun s _ => reads_str s)
  have ordererIds : j.defaulted [] strings? 3 ["ordererIds", "orderers"] = some c.ordererIds :=
    written.defaulted 3 rfl rfl (reads_list fun s _ => reads_str s)
  simp [ofJson?, written.isRecord, id, name, organizationIds, ordererIds]

theorem reads (c : Channel) : Reads (record fields) c.toJson ofJson? c :=
  fun _ reworded => c.ofJson?_written ⟨by decide, by simp [rows], reworded⟩

theorem self (c : Channel) : record fields c.toJson c.toJson := by
  have texts (ss : List String) : list same (.ofStrings ss) (.ofStrings ss) := list_self fun s _ => same_self (.str s)
  exact record_self c.rows (by simp [fields, rows, texts, same])

end Channel

namespace Edge

def fields : List Field :=
  [⟨"id", [], same⟩,
    ⟨"sourceNodeId", ["source"], same⟩,
    ⟨"targetNodeId", ["target"], same⟩]

def rows (e : Edge) : List (String × Option Json) :=
  [("id", some (.str e.id)),
    ("sourceNodeId", some (.str e.sourceNodeId)),
    ("targetNodeId", some (.str e.targetNodeId))]

theorem ofJson?_written (e : Edge) {j : Json} (written : Written fields e.rows j) : ofJson? j = some e := by
  have id : j.required Json.str? 0 ["id"] = some e.id := written.required 0 rfl rfl (reads_str e.id)
  have sourceNodeId : j.required Json.str? 1 ["sourceNodeId", "source"] = some e.sourceNodeId :=
    written.required 1 rfl rfl (reads_str e.sourceNodeId)
  have targetNodeId : j.required Json.str? 2 ["targetNodeId", "target"] = some e.targetNodeId :=
    written.required 2 rfl rfl (reads_str e.targetNodeId)
  simp [ofJson?, written.isRecord, id, sourceNodeId, targetNodeId]

theorem reads (e : Edge) : Reads (record fields) e.toJson ofJson? e :=
  fun _ reworded => e.ofJson?_written ⟨by decide, by simp [rows], reworded⟩

theorem self (e : Edge) : record fields e.toJson e.toJson :=
  record_self e.rows (by simp [fields, rows, same])

end Edge

namespace Chaincode

def fields : List Field :=
  [⟨"id", [], same⟩,
    ⟨"name", [], same⟩,
    ⟨"version", [], same⟩,
    ⟨"language", [], same⟩,
    ⟨"channelId", [], same⟩]

def rows (c : Chaincode) : List (String × Option Json) :=
  [("id", some (.str c.id)),
    ("name", some (.str c.name)),
    ("version", some (.str c.version)),
    ("language", some (.str c.language.name)),
    ("channelId", some (.str c.channelId))]

theorem read?_written (c : Chaincode) {language? : Json → Option Language}
    (reads : Reads same (.str c.language.name) language? c.language) {j : Json} (written : Written fields c.rows j) :
    read? language? j = some c := by
  have id : j.required Json.str? 0 ["id"] = some c.id := written.required 0 rfl rfl (reads_str c.id)
  have name : j.required Json.str? 1 ["name"] = some c.name := written.required 1 rfl rfl (reads_str c.name)
  have version : j.defaulted defaultVersion Json.str? 2 ["version"] = some c.version :=
    written.defaulted 2 rfl rfl (reads_str c.version)
  have language : j.defaulted .go language? 3 ["language"] = some c.language := written.defaulted 3 rfl rfl reads
  have channelId : j.defaulted "" Json.str? 4 ["channelId"] = some c.channelId :=
    written.defaulted 4 rfl rfl (reads_str c.channelId)
  simp [read?, written.isRecord, id, name, version, language, channelId]

theorem reads (c : Chaincode) : Reads (record fields) c.toJson ofJson? c :=
  fun _ reworded => c.read?_written c.language.reads ⟨by decide, by simp [rows], reworded⟩

theorem reads_kept (c : Chaincode) : Reads (record fields) c.toJson ofKeptJson? c :=
  fun _ reworded => c.read?_written c.language.reads_kept ⟨by decide, by simp [rows], reworded⟩

theorem self (c : Chaincode) : record fields c.toJson c.toJson := record_self c.rows (by simp [fields, rows, same])

end Chaincode

namespace Position

/-- Both coordinates are numbers. -/
def IsFinite (p : Position) : Prop := p.x.isFinite = true ∧ p.y.isFinite = true

def fields : List Field := [⟨"x", [], same⟩, ⟨"y", [], same⟩]

def rows (p : Position) : List (String × Option Json) := [("x", some (.ofFloat p.x)), ("y", some (.ofFloat p.y))]

theorem reads_float {x : Float} (finite : x.isFinite = true) : Reads same (.ofFloat x) Json.float? x :=
  reads_same (by simp [Json.ofFloat, finite, Json.float?])

theorem ofJson?_written {p : Position} (finite : p.IsFinite) {j : Json} (written : Written fields p.rows j) :
    ofJson? j = some p := by
  have x : j.required Json.float? 0 ["x"] = some p.x := written.required 0 rfl rfl (reads_float finite.1)
  have y : j.required Json.float? 1 ["y"] = some p.y := written.required 1 rfl rfl (reads_float finite.2)
  simp [ofJson?, written.isRecord, x, y]

theorem reads {p : Position} (finite : p.IsFinite) : Reads (record fields) p.toJson ofJson? p :=
  fun _ reworded => ofJson?_written finite ⟨by decide, by simp [rows], reworded⟩

theorem self (p : Position) : record fields p.toJson p.toJson := record_self p.rows (by simp [fields, rows, same])

end Position

namespace Node

def fields : List Field :=
  [⟨"id", [], same⟩,
    ⟨"type", [], same⟩,
    ⟨"label", [], same⟩,
    ⟨"description", [], same⟩,
    ⟨"position", [], record Position.fields⟩]

def rows (n : Node) : List (String × Option Json) :=
  [("id", some (.str n.id)),
    ("type", some (.str n.kind.name)),
    ("label", some (.str n.label)),
    ("description", n.description.map .str),
    ("position", some n.position.toJson)]

theorem ofJson?_written {n : Node} (finite : n.position.IsFinite) {j : Json} (written : Written fields n.rows j) :
    ofJson? j = some n := by
  have id : j.required Json.str? 0 ["id"] = some n.id := written.required 0 rfl rfl (reads_str n.id)
  have kind : j.required NodeKind.ofJson? 1 ["type"] = some n.kind := written.required 1 rfl rfl n.kind.reads
  have label : j.defaulted "" Json.str? 2 ["label"] = some n.label := written.defaulted 2 rfl rfl (reads_str n.label)
  have description : j.optional Json.str? 3 ["description"] = some n.description :=
    written.optional 3 rfl rfl (fun s _ => reads_str s) rfl
  have position : j.defaulted Position.origin Position.ofJson? 4 ["position"] = some n.position :=
    written.defaulted 4 rfl rfl (Position.reads finite)
  simp [ofJson?, written.isRecord, id, kind, label, description, position]

theorem reads {n : Node} (finite : n.position.IsFinite) : Reads (record fields) n.toJson ofJson? n :=
  fun _ reworded => ofJson?_written finite ⟨by decide, by simp [rows], reworded⟩

theorem self (n : Node) : record fields n.toJson n.toJson :=
  record_self n.rows (by simp [fields, rows, same, n.position.self])

end Node

namespace Entities

def fields : List Field :=
  [⟨"organizations", [], list (record Organization.fields)⟩,
    ⟨"peers", [], list (record Peer.fields)⟩,
    ⟨"orderers", [], list (record Orderer.fields)⟩,
    ⟨"cas", [], list (record CertificateAuthority.fields)⟩,
    ⟨"channels", [], list (record Channel.fields)⟩,
    ⟨"chaincodes", [], list (record Chaincode.fields)⟩]

def rows (e : Entities) : List (String × Option Json) := e.members.map fun m => (m.1, some m.2)

/-- The collections are read from any record that has them among its fields, from the `k`-th one on. -/
theorem read?_written (e : Entities) {chaincode? : Json → Option Chaincode}
    (chaincode : ∀ c : Chaincode, Reads (record Chaincode.fields) c.toJson chaincode? c) {all : List Field}
    {written : List (String × Option Json)} {j : Json} (whole : Written all written j) (k : Nat)
    (fieldsAt : ∀ i < 6, all[k + i]? = fields[i]?) (rowsAt : ∀ i < 6, written[k + i]? = e.rows[i]?) :
    read? chaincode? j = some e := by
  have organizations : j.defaulted [] (Json.list? Organization.ofJson?) 0 ["organizations"] = some e.organizations :=
    whole.defaulted (k + 0) (fieldsAt 0 (by decide)) (rowsAt 0 (by decide)) (reads_list fun o _ => o.reads)
  have peers : j.defaulted [] (Json.list? Peer.ofJson?) 1 ["peers"] = some e.peers :=
    whole.defaulted (k + 1) (fieldsAt 1 (by decide)) (rowsAt 1 (by decide)) (reads_list fun p _ => p.reads)
  have orderers : j.defaulted [] (Json.list? Orderer.ofJson?) 2 ["orderers"] = some e.orderers :=
    whole.defaulted (k + 2) (fieldsAt 2 (by decide)) (rowsAt 2 (by decide)) (reads_list fun o _ => o.reads)
  have cas : j.defaulted [] (Json.list? CertificateAuthority.ofJson?) 3 ["cas"] = some e.cas :=
    whole.defaulted (k + 3) (fieldsAt 3 (by decide)) (rowsAt 3 (by decide)) (reads_list fun c _ => c.reads)
  have channels : j.defaulted [] (Json.list? Channel.ofJson?) 4 ["channels"] = some e.channels :=
    whole.defaulted (k + 4) (fieldsAt 4 (by decide)) (rowsAt 4 (by decide)) (reads_list fun c _ => c.reads)
  have chaincodes : j.defaulted [] (Json.list? chaincode?) 5 ["chaincodes"] = some e.chaincodes :=
    whole.defaulted (k + 5) (fieldsAt 5 (by decide)) (rowsAt 5 (by decide)) (reads_list fun c _ => chaincode c)
  simp [read?, whole.isRecord, organizations, peers, orderers, cas, channels, chaincodes]

theorem reads (e : Entities) : Reads (record fields) e.toJson ofJson? e := by
  intro j reworded
  have written : Written fields e.rows j := ⟨by decide, by simp [rows, members], reworded⟩
  exact e.read?_written Chaincode.reads written 0 (fun i _ => by rw [Nat.zero_add]) (fun i _ => by rw [Nat.zero_add])

theorem paired (e : Entities) :
    List.Forall₂ (fun f row => row.1 = f.name ∧ ∀ v ∈ row.2, f.value v v) fields e.rows := by
  have organizations : list (record Organization.fields) (.arr (e.organizations.map Organization.toJson))
      (.arr (e.organizations.map Organization.toJson)) := list_self fun o _ => o.self
  have peers : list (record Peer.fields) (.arr (e.peers.map Peer.toJson)) (.arr (e.peers.map Peer.toJson)) :=
    list_self fun p _ => p.self
  have orderers : list (record Orderer.fields) (.arr (e.orderers.map Orderer.toJson))
      (.arr (e.orderers.map Orderer.toJson)) := list_self fun o _ => o.self
  have cas : list (record CertificateAuthority.fields) (.arr (e.cas.map CertificateAuthority.toJson))
      (.arr (e.cas.map CertificateAuthority.toJson)) := list_self fun c _ => c.self
  have channels : list (record Channel.fields) (.arr (e.channels.map Channel.toJson))
      (.arr (e.channels.map Channel.toJson)) := list_self fun c _ => c.self
  have chaincodes : list (record Chaincode.fields) (.arr (e.chaincodes.map Chaincode.toJson))
      (.arr (e.chaincodes.map Chaincode.toJson)) := list_self fun c _ => c.self
  simp [fields, rows, members, organizations, peers, orderers, cas, channels, chaincodes]

theorem self (e : Entities) : record fields e.toJson e.toJson := record_self e.rows e.paired

end Entities

namespace Network

/-- Every node of the canvas has a place. -/
def IsPlaced (n : Network) : Prop := ∀ node ∈ n.nodes, node.position.IsFinite

/-- The fields of a network: its collections stand among its own. -/
def fields : List Field :=
  [⟨"id", [], same⟩,
    ⟨"name", [], same⟩,
    ⟨"consensusType", [], word Consensus.synonyms⟩,
    ⟨"channelName", [], same⟩] ++ Entities.fields ++
  [⟨"nodes", [], list (record Node.fields)⟩,
    ⟨"edges", [], list (record Edge.fields)⟩,
    ⟨"createdAt", [], same⟩,
    ⟨"updatedAt", [], same⟩,
    ⟨"status", [], same⟩]

def rows (n : Network) : List (String × Option Json) :=
  [("id", some (.str n.id)),
    ("name", some (.str n.name)),
    ("consensusType", some (.str n.consensus.name)),
    ("channelName", some (.str n.channelName))] ++ n.entities.rows ++
  [("nodes", some (.arr (n.nodes.map Node.toJson))),
    ("edges", some (.arr (n.edges.map Edge.toJson))),
    ("createdAt", n.createdAt.map Calendar.Timestamp.toJson),
    ("updatedAt", n.updatedAt.map Calendar.Timestamp.toJson),
    ("status", n.status.map fun x => .str x.name)]

theorem ofJson?_written {n : Network} (placed : n.IsPlaced) {j : Json} (readable : isReadable j = true)
    (written : Written fields n.rows j) : ofJson? j = some n := by
  have id : j.defaulted "" Json.str? 0 ["id"] = some n.id := written.defaulted 0 rfl rfl (reads_str n.id)
  have name : j.defaulted defaultName Json.str? 0 ["name"] = some n.name :=
    written.defaulted 1 rfl rfl (reads_str n.name)
  have consensus : j.defaulted .etcdRaft Consensus.ofJson? 0 ["consensusType"] = some n.consensus :=
    written.defaulted 2 rfl rfl n.consensus.reads
  have channelName : j.defaulted defaultChannel Json.str? 0 ["channelName"] = some n.channelName :=
    written.defaulted 3 rfl rfl (reads_str n.channelName)
  have entities : Entities.ofKeptJson? j = some n.entities := by
    refine n.entities.read?_written Chaincode.reads_kept written 4 ?_ ?_
    · intro i below
      rw [fields, List.append_assoc, List.getElem?_append_right (by simp),
        List.getElem?_append_left (show _ < Entities.fields.length by simpa [Entities.fields] using below)]
      simp
    · intro i below
      rw [rows, List.append_assoc, List.getElem?_append_right (by simp),
        List.getElem?_append_left (by simpa [Entities.rows, Entities.members] using below)]
      simp
  have nodes : j.defaulted [] (Json.list? Node.ofJson?) 0 ["nodes"] = some n.nodes :=
    written.defaulted 10 rfl rfl (reads_list fun node stands => Node.reads (placed node stands))
  have edges : j.defaulted [] (Json.list? Edge.ofJson?) 0 ["edges"] = some n.edges :=
    written.defaulted 11 rfl rfl (reads_list fun e _ => e.reads)
  have createdAt : j.optional Calendar.Timestamp.ofJson? 0 ["createdAt"] = some n.createdAt :=
    written.optional 12 rfl rfl (fun t _ => t.reads) rfl
  have updatedAt : j.optional Calendar.Timestamp.ofJson? 0 ["updatedAt"] = some n.updatedAt :=
    written.optional 13 rfl rfl (fun t _ => t.reads) rfl
  have status : j.optional Status.ofJson? 0 ["status"] = some n.status :=
    written.optional 14 rfl rfl (fun x _ => x.reads) rfl
  simp [ofJson?, readable, id, name, consensus, channelName, entities, nodes, edges, createdAt, updatedAt, status]

/-- Other ways to write a network. What stands among its members besides its plain fields is kept for later
    reading, so it has to be readable. -/
def rewording : Rewording := fun j other => record fields j other ∧ isReadable other = true

theorem reads {n : Network} (placed : n.IsPlaced) : Reads rewording n.toJson ofJson? n :=
  fun _ reworded => ofJson?_written placed reworded.2
    ⟨by decide, by simp [rows, Entities.rows, Entities.members], reworded.1⟩

/-- The records of a network are readable at no great depth. -/
theorem isReadable_members (e : Entities) (depth : Nat) : ∀ m ∈ e.members, m.2.isReadable (depth + 4) = true := by
  have texts (ss : List String) (depth : Nat) : (Json.ofStrings ss).isReadable (depth + 1) = true :=
    Json.isReadable_arr ss (Json.isReadable_str depth)
  have anchors (as : List AnchorPeer) : (Json.arr (as.map AnchorPeer.toJson)).isReadable (depth + 2) = true :=
    Json.isReadable_arr as fun a => Json.isReadable_ofMembers a.rows (by simp [AnchorPeer.rows])
  have organization (o : Organization) : o.toJson.isReadable (depth + 3) = true :=
    Json.isReadable_ofMembers o.rows (by simp [Organization.rows, anchors])
  have peer (p : Peer) : p.toJson.isReadable (depth + 3) = true :=
    Json.isReadable_ofMembers p.rows (by simp [Peer.rows])
  have orderer (o : Orderer) : o.toJson.isReadable (depth + 3) = true :=
    Json.isReadable_ofMembers o.rows (by simp [Orderer.rows])
  have ca (c : CertificateAuthority) : c.toJson.isReadable (depth + 3) = true :=
    Json.isReadable_ofMembers c.rows (by simp [CertificateAuthority.rows])
  have channel (c : Channel) : c.toJson.isReadable (depth + 3) = true :=
    Json.isReadable_ofMembers c.rows (by simp [Channel.rows, texts])
  have chaincode (c : Chaincode) : c.toJson.isReadable (depth + 3) = true :=
    Json.isReadable_ofMembers c.rows (by simp [Chaincode.rows])
  simp [Entities.members, Json.isReadable_arr, organization, peer, orderer, ca, channel, chaincode]

theorem mem_rows {n : Network} {row : String × Option Json} (stands : row ∈ n.rows) :
    row.1 ∈ plainFields ∨ row ∈ n.entities.rows := by
  rw [rows, List.mem_append, List.mem_append] at stands
  rcases stands with (early | kept) | late
  · left
    revert row
    simp [plainFields]
  · exact .inr kept
  · left
    revert row
    simp [plainFields]

theorem isReadable_toJson (n : Network) : isReadable n.toJson = true := by
  show isReadable (.ofMembers n.rows) = true
  rw [Json.ofMembers, isReadable, List.all_eq_true]
  intro m member
  obtain ⟨row, stands, filled⟩ := List.mem_filterMap.mp member
  obtain ⟨j, value, rfl⟩ := Option.map_eq_some_iff.mp filled
  rw [Bool.or_eq_true]
  rcases mem_rows stands with plain | kept
  · exact .inl (List.contains_iff_mem.mpr plain)
  · obtain ⟨m, inner, rfl⟩ := List.mem_map.mp kept
    rw [← Option.some.inj value]
    exact .inr (isReadable_members n.entities 122 m inner)

/-- An encoding is one of the ways to write its network. -/
theorem self (n : Network) : rewording n.toJson n.toJson := by
  refine ⟨record_self n.rows ?_, n.isReadable_toJson⟩
  have nodes : list (record Node.fields) (.arr (n.nodes.map Node.toJson)) (.arr (n.nodes.map Node.toJson)) :=
    list_self fun node _ => node.self
  have edges : list (record Edge.fields) (.arr (n.edges.map Edge.toJson)) (.arr (n.edges.map Edge.toJson)) :=
    list_self fun e _ => e.self
  refine List.rel_append (List.rel_append ?_ n.entities.paired) ?_
  · simp [same, word]
  · simp [same, nodes, edges]

end Network

end FabricTopology
