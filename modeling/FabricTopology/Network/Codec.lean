import FabricTopology.Calendar
import FabricTopology.Json.Parser
import FabricTopology.Json.Record
import FabricTopology.Network.Basic

/-!
Networks and their records in JSON. Each record has a writer, which leaves out what is absent, and a
reader, which fills in the defaults and accepts the second names of some fields. A network holds its
six collections among its own fields; it alone is always an object, and what it holds besides its
own plain fields is kept for later reading: it has to be readable to the last corner, and an
alternative in it may have an empty object for content.
-/
namespace FabricTopology

def Calendar.Timestamp.toJson (t : Calendar.Timestamp) : Json := .str (String.ofList t.text)

def Calendar.Timestamp.ofJson? (j : Json) : Option Calendar.Timestamp := do
  Calendar.Timestamp.ofText? (← j.str?).toList

def Consensus.ofJson? (j : Json) : Option Consensus := do ofName? (← j.alternative?)

def Status.ofJson? (j : Json) : Option Status := do ofName? (← j.alternative?)

def Language.ofJson? (j : Json) : Option Language := do ofName? (← j.alternative?)

/-- A language in JSON that was kept for later reading. -/
def Language.ofKeptJson? (j : Json) : Option Language := do ofName? (← j.keptAlternative?)

def NodeKind.ofJson? (j : Json) : Option NodeKind := do ofName? (← j.alternative?)

namespace AnchorPeer

def toJson (a : AnchorPeer) : Json := .obj [("host", .str a.host), ("port", .int a.port.toNat)]

def ofJson? (j : Json) : Option AnchorPeer := do
  guard (j.isRecord 2)
  return {
    host := ← j.required Json.str? 0 ["host"]
    port := ← j.required Json.word16? 1 ["port"] }

end AnchorPeer

namespace Organization

def toJson (o : Organization) : Json :=
  .ofMembers [
    ("id", some (.str o.id)),
    ("name", some (.str o.name)),
    ("mspId", some (.str o.mspId)),
    ("domain", some (.str o.domain)),
    ("anchorPeers", o.anchorPeers.map fun as => .arr (as.map AnchorPeer.toJson))]

def ofJson? (j : Json) : Option Organization := do
  guard (j.isRecord 5)
  return {
    id := ← j.required Json.str? 0 ["id"]
    name := ← j.required Json.str? 1 ["name"]
    mspId := ← j.defaulted "" Json.str? 2 ["mspId"]
    domain := ← j.defaulted "" Json.str? 3 ["domain"]
    anchorPeers := ← j.optional (Json.list? AnchorPeer.ofJson?) 4 ["anchorPeers"] }

end Organization

namespace Peer

def toJson (p : Peer) : Json :=
  .obj [
    ("id", .str p.id),
    ("name", .str p.name),
    ("organizationId", .str p.organizationId),
    ("host", .str p.host),
    ("port", .int p.port.toNat),
    ("tlsEnabled", .bool p.tlsEnabled),
    ("couchDbEnabled", .bool p.couchDbEnabled)]

def ofJson? (j : Json) : Option Peer := do
  guard (j.isRecord 7)
  return {
    id := ← j.required Json.str? 0 ["id"]
    name := ← j.required Json.str? 1 ["name"]
    organizationId := ← j.defaulted "" Json.str? 2 ["organizationId"]
    host := ← j.defaulted "" Json.str? 3 ["host"]
    port := ← j.defaulted Naming.peerPort Json.word16? 4 ["port"]
    tlsEnabled := ← j.defaulted true Json.bool? 5 ["tlsEnabled"]
    couchDbEnabled := ← j.defaulted false Json.bool? 6 ["couchDbEnabled"] }

end Peer

namespace Orderer

def toJson (o : Orderer) : Json :=
  .ofMembers [
    ("id", some (.str o.id)),
    ("name", some (.str o.name)),
    ("organizationId", o.organizationId.map .str),
    ("host", some (.str o.host)),
    ("port", some (.int o.port.toNat)),
    ("tlsEnabled", some (.bool o.tlsEnabled))]

def ofJson? (j : Json) : Option Orderer := do
  guard (j.isRecord 6)
  return {
    id := ← j.required Json.str? 0 ["id"]
    name := ← j.required Json.str? 1 ["name"]
    organizationId := ← j.optional Json.str? 2 ["organizationId"]
    host := ← j.defaulted "" Json.str? 3 ["host"]
    port := ← j.defaulted Naming.ordererPort Json.word16? 4 ["port"]
    tlsEnabled := ← j.defaulted true Json.bool? 5 ["tlsEnabled"] }

end Orderer

namespace CertificateAuthority

def toJson (c : CertificateAuthority) : Json :=
  .obj [
    ("id", .str c.id),
    ("name", .str c.name),
    ("organizationId", .str c.organizationId),
    ("host", .str c.host),
    ("port", .int c.port.toNat),
    ("tlsEnabled", .bool c.tlsEnabled)]

def ofJson? (j : Json) : Option CertificateAuthority := do
  guard (j.isRecord 6)
  return {
    id := ← j.required Json.str? 0 ["id"]
    name := ← j.required Json.str? 1 ["name"]
    organizationId := ← j.defaulted "" Json.str? 2 ["organizationId"]
    host := ← j.defaulted "" Json.str? 3 ["host"]
    port := ← j.defaulted Naming.caPort Json.word16? 4 ["port"]
    tlsEnabled := ← j.defaulted true Json.bool? 5 ["tlsEnabled"] }

end CertificateAuthority

namespace Channel

def toJson (c : Channel) : Json :=
  .obj [
    ("id", .str c.id),
    ("name", .str c.name),
    ("organizationIds", .ofStrings c.organizationIds),
    ("ordererIds", .ofStrings c.ordererIds)]

/-- Texts that a JSON value stands for. -/
def strings? : Json → Option (List String) := Json.list? Json.str?

def ofJson? (j : Json) : Option Channel := do
  guard (j.isRecord 4)
  return {
    id := ← j.required Json.str? 0 ["id"]
    name := ← j.required Json.str? 1 ["name"]
    organizationIds := ← j.defaulted [] strings? 2 ["organizationIds", "organizations"]
    ordererIds := ← j.defaulted [] strings? 3 ["ordererIds", "orderers"] }

end Channel

namespace Chaincode

def toJson (c : Chaincode) : Json :=
  .obj [
    ("id", .str c.id),
    ("name", .str c.name),
    ("version", .str c.version),
    ("language", .str c.language.name),
    ("channelId", .str c.channelId)]

/-- The chaincode that a JSON value stands for, given how a language is read. -/
def read? (language? : Json → Option Language) (j : Json) : Option Chaincode := do
  guard (j.isRecord 5)
  return {
    id := ← j.required Json.str? 0 ["id"]
    name := ← j.required Json.str? 1 ["name"]
    version := ← j.defaulted defaultVersion Json.str? 2 ["version"]
    language := ← j.defaulted .go language? 3 ["language"]
    channelId := ← j.defaulted "" Json.str? 4 ["channelId"] }

def ofJson? : Json → Option Chaincode := read? Language.ofJson?

/-- The chaincode that a JSON value stands for that was kept for later reading. -/
def ofKeptJson? : Json → Option Chaincode := read? Language.ofKeptJson?

end Chaincode

namespace Position

def toJson (p : Position) : Json := .obj [("x", .ofFloat p.x), ("y", .ofFloat p.y)]

def ofJson? (j : Json) : Option Position := do
  guard (j.isRecord 2)
  return {
    x := ← j.required Json.float? 0 ["x"]
    y := ← j.required Json.float? 1 ["y"] }

end Position

namespace Node

def toJson (n : Node) : Json :=
  .ofMembers [
    ("id", some (.str n.id)),
    ("type", some (.str n.kind.name)),
    ("label", some (.str n.label)),
    ("description", n.description.map .str),
    ("position", some n.position.toJson)]

def ofJson? (j : Json) : Option Node := do
  guard (j.isRecord 5)
  return {
    id := ← j.required Json.str? 0 ["id"]
    kind := ← j.required NodeKind.ofJson? 1 ["type"]
    label := ← j.defaulted "" Json.str? 2 ["label"]
    description := ← j.optional Json.str? 3 ["description"]
    position := ← j.defaulted Position.origin Position.ofJson? 4 ["position"] }

end Node

namespace Edge

def toJson (e : Edge) : Json :=
  .obj [
    ("id", .str e.id),
    ("sourceNodeId", .str e.sourceNodeId),
    ("targetNodeId", .str e.targetNodeId)]

def ofJson? (j : Json) : Option Edge := do
  guard (j.isRecord 3)
  return {
    id := ← j.required Json.str? 0 ["id"]
    sourceNodeId := ← j.required Json.str? 1 ["sourceNodeId", "source"]
    targetNodeId := ← j.required Json.str? 2 ["targetNodeId", "target"] }

end Edge

namespace Entities

/-- The members that hold the records of a network. -/
def members (e : Entities) : List (String × Json) :=
  [("organizations", .arr (e.organizations.map Organization.toJson)),
    ("peers", .arr (e.peers.map Peer.toJson)),
    ("orderers", .arr (e.orderers.map Orderer.toJson)),
    ("cas", .arr (e.cas.map CertificateAuthority.toJson)),
    ("channels", .arr (e.channels.map Channel.toJson)),
    ("chaincodes", .arr (e.chaincodes.map Chaincode.toJson))]

def toJson (e : Entities) : Json := .obj e.members

/-- The records that a JSON value stands for, given how a chaincode is read. -/
def read? (chaincode? : Json → Option Chaincode) (j : Json) : Option Entities := do
  guard (j.isRecord 6)
  return {
    organizations := ← j.defaulted [] (Json.list? Organization.ofJson?) 0 ["organizations"]
    peers := ← j.defaulted [] (Json.list? Peer.ofJson?) 1 ["peers"]
    orderers := ← j.defaulted [] (Json.list? Orderer.ofJson?) 2 ["orderers"]
    cas := ← j.defaulted [] (Json.list? CertificateAuthority.ofJson?) 3 ["cas"]
    channels := ← j.defaulted [] (Json.list? Channel.ofJson?) 4 ["channels"]
    chaincodes := ← j.defaulted [] (Json.list? chaincode?) 5 ["chaincodes"] }

def ofJson? : Json → Option Entities := read? Chaincode.ofJson?

/-- The records among the members of a JSON value that were kept for later reading. -/
def ofKeptJson? : Json → Option Entities := read? Chaincode.ofKeptJson?

end Entities

namespace Network

def toJson (n : Network) : Json :=
  .ofMembers ([
    ("id", some (.str n.id)),
    ("name", some (.str n.name)),
    ("consensusType", some (.str n.consensus.name)),
    ("channelName", some (.str n.channelName))] ++
    n.entities.members.map (fun m => (m.1, some m.2)) ++ [
    ("nodes", some (.arr (n.nodes.map Node.toJson))),
    ("edges", some (.arr (n.edges.map Edge.toJson))),
    ("createdAt", n.createdAt.map Calendar.Timestamp.toJson),
    ("updatedAt", n.updatedAt.map Calendar.Timestamp.toJson),
    ("status", n.status.map fun x => .str x.name)])

/-- The fields that are read where they stand. -/
def plainFields : List String :=
  ["id", "name", "consensusType", "channelName", "nodes", "edges", "createdAt", "updatedAt",
    "status"]

/-- The most arrays and objects inside one another in a JSON text that is kept for later reading. -/
def nestingLimit : Nat := 127

/-- Whether all members but the plain fields are readable. -/
def isReadable : Json → Bool
  | .obj members =>
    members.all fun m => plainFields.contains m.1 || m.2.isReadable (nestingLimit - 1)
  | _ => false

def ofJson? (j : Json) : Option Network := do
  guard (isReadable j)
  return {
    id := ← j.defaulted "" Json.str? 0 ["id"]
    name := ← j.defaulted defaultName Json.str? 0 ["name"]
    consensus := ← j.defaulted .etcdRaft Consensus.ofJson? 0 ["consensusType"]
    channelName := ← j.defaulted defaultChannel Json.str? 0 ["channelName"]
    entities := ← Entities.ofKeptJson? j
    nodes := ← j.defaulted [] (Json.list? Node.ofJson?) 0 ["nodes"]
    edges := ← j.defaulted [] (Json.list? Edge.ofJson?) 0 ["edges"]
    createdAt := ← j.optional Calendar.Timestamp.ofJson? 0 ["createdAt"]
    updatedAt := ← j.optional Calendar.Timestamp.ofJson? 0 ["updatedAt"]
    status := ← j.optional Status.ofJson? 0 ["status"] }

def ofText? (text : String) : Option Network := do ofJson? (← Json.parse? text)

end Network

namespace NetworkPatch

def ofJson? (j : Json) : Option NetworkPatch := do
  guard (j.isRecord 12)
  return {
    name := ← j.optionalMember Json.str? 0 ["name"]
    consensus := ← j.optionalMember Consensus.ofJson? 1 ["consensusType"]
    channelName := ← j.optionalMember Json.str? 2 ["channelName"]
    organizations := ← j.optionalMember (Json.list? Organization.ofJson?) 3 ["organizations"]
    peers := ← j.optionalMember (Json.list? Peer.ofJson?) 4 ["peers"]
    orderers := ← j.optionalMember (Json.list? Orderer.ofJson?) 5 ["orderers"]
    cas := ← j.optionalMember (Json.list? CertificateAuthority.ofJson?) 6 ["cas"]
    channels := ← j.optionalMember (Json.list? Channel.ofJson?) 7 ["channels"]
    chaincodes := ← j.optionalMember (Json.list? Chaincode.ofJson?) 8 ["chaincodes"]
    nodes := ← j.optionalMember (Json.list? Node.ofJson?) 9 ["nodes"]
    edges := ← j.optionalMember (Json.list? Edge.ofJson?) 10 ["edges"]
    status := ← j.optionalMember Status.ofJson? 11 ["status"] }

end NetworkPatch

end FabricTopology
