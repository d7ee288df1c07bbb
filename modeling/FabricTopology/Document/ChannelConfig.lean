import FabricTopology.Topology
import FabricTopology.Yaml.Writer

/-!
The document that tells the ledger tools who the organizations are, what they may do and how the
orderers agree (`configtx.yaml`). `channelConfig` is the document as a tree with its six sections in
their order; the profiles at its end refer to the organizations defined at its start.
-/
namespace FabricTopology.Document
open FabricTopology.Yaml

/-- The releases the documents are made for. -/
def runtime : String := "Fabric v2.5/v3.0"

/-- A rule and the way it is read. -/
def policy (kind rule : String) : Tree := .ofFields [("Type", .str kind), ("Rule", .str rule)]

/-- A rule about signatures. -/
def signature (rule : String) : Tree := policy "Signature" rule

/-- A rule about the rules of others. -/
def implicitMeta (rule : String) : Tree := policy "ImplicitMeta" rule

/-- One capability. -/
def capability (name : String) : Tree := .ofFields [(name, .bool true)]

/-- A member of a membership provider in some role, quoted for a rule. -/
def member (mspId role : String) : String := "'" ++ mspId ++ "." ++ role ++ "'"

/-- A rule that any of the given members may satisfy. -/
def anyOf (members : List String) : String := "OR(" ++ String.intercalate "," members ++ ")"

/-- What the members of an organization may do. -/
def orgPolicies (mspId : String) : Tree :=
  .ofFields [
    ("Readers",
      signature (anyOf [member mspId "admin", member mspId "peer", member mspId "client"])),
    ("Writers", signature (anyOf [member mspId "admin", member mspId "client"])),
    ("Admins", signature (anyOf [member mspId "admin"])),
    ("Endorsement", signature (anyOf [member mspId "peer"]))]

/-- The definition of an organization. -/
def orgDefinition (o : OrgProfile) : Tree :=
  .ofFields [
    ("Name", .str o.mspId),
    ("ID", .str o.mspId),
    ("MSPDir", .str (Naming.peerOrgMspDir o.domain)),
    ("Policies", orgPolicies o.mspId),
    ("AnchorPeers", .seq (o.anchorPeers.map fun a =>
      .ofFields [("Host", .str a.host), ("Port", .int a.port.toNat)]))]

/-- What the orderers' members may do. -/
def ordererOrgPolicies : Tree :=
  .ofFields [
    ("Readers", signature (anyOf [member Naming.ordererMspId "member"])),
    ("Writers", signature (anyOf [member Naming.ordererMspId "member"])),
    ("Admins", signature (anyOf [member Naming.ordererMspId "admin"]))]

/-- The definition of the orderers' organization. -/
def ordererOrgDefinition (domain : String) (orderers : List OrdererProfile) : Tree :=
  .ofFields [
    ("Name", .str Naming.ordererMspId),
    ("ID", .str Naming.ordererMspId),
    ("MSPDir", .str (Naming.ordererOrgMspDir domain)),
    ("Policies", ordererOrgPolicies),
    ("OrdererEndpoints", .ofStrings (orderers.map fun o => Naming.ordererEndpoint o.index domain))]

/-- The definitions: the orderers' organization if there are orderers, then all others. -/
def definitions (domain : String) (organizations : List OrgProfile)
    (orderers : List OrdererProfile) : List Tree :=
  (if orderers.isEmpty then [] else [ordererOrgDefinition domain orderers]) ++
    organizations.map orgDefinition

/-- A reference to the definition of a membership provider. -/
def reference (mspId : String) : Tree := .ofFields [("Name", .str mspId), ("ID", .str mspId)]

/-- References to the definitions of organizations. -/
def orgReferences (organizations : List OrgProfile) : Tree :=
  .seq (organizations.map fun o => reference o.mspId)

/-- An orderer as a voice in the agreement. -/
def consenter (domain : String) (o : OrdererProfile) : Tree :=
  .ofFields [
    ("Host", .str (o.host domain)),
    ("Port", .int Naming.ordererPort.toNat),
    ("ClientTLSCert", .str (Naming.ordererTlsCert o.index domain)),
    ("ServerTLSCert", .str (Naming.ordererTlsCert o.index domain))]

/-- What a way to agree needs besides its name. -/
def agreement (domain : String) (orderers : List OrdererProfile) :
    Consensus → List (String × Tree)
  | .etcdRaft =>
    [("EtcdRaft", .ofFields [("Consenters", .seq (orderers.map (consenter domain)))])]
  | .bft =>
    [("SmartBFT", .ofFields [
      ("RequestBatchMaxCount", .int 100),
      ("RequestBatchMaxInterval", .str "50ms"),
      ("IncomingMessageBufferSize", .int 200),
      ("RequestPoolSize", .int 400),
      ("LeaderHeartbeatTimeout", .str "1s")])]
  | .solo => []

/-- The rules of a section that follow those of the organizations, and further ones. -/
def sectionPolicies (more : List (String × Tree)) : Tree :=
  .ofFields ([
    ("Readers", implicitMeta "ANY Readers"),
    ("Writers", implicitMeta "ANY Writers"),
    ("Admins", implicitMeta "MAJORITY Admins")] ++ more)

/-- How the orderers work. -/
def ordererSection (consensus : Consensus) (domain : String) (orderers : List OrdererProfile) :
    Tree :=
  .ofFields ([
    ("OrdererType", .str consensus.name),
    ("BatchTimeout", .str "2s"),
    ("BatchSize", .ofFields [
      ("MaxMessageCount", .int 500),
      ("AbsoluteMaxBytes", .str "10 MB"),
      ("PreferredMaxBytes", .str "2 MB")]),
    ("Organizations", .null),
    ("Policies", sectionPolicies [("BlockValidation", implicitMeta "ANY Writers")]),
    ("Capabilities", capability "V2_0")] ++ agreement domain orderers consensus)

/-- How the application works. -/
def applicationSection : Tree :=
  .ofFields [
    ("Organizations", .null),
    ("Policies", sectionPolicies [
      ("LifecycleEndorsement", implicitMeta "MAJORITY Endorsement"),
      ("Endorsement", implicitMeta "MAJORITY Endorsement")]),
    ("Capabilities", capability "V2_5")]

/-- How the channel works. -/
def channelSection : Tree :=
  .ofFields [("Policies", sectionPolicies []), ("Capabilities", capability "V3_0")]

/-- The profile from which the orderers start. -/
def genesisProfile (consensus : Consensus) (organizations : List OrgProfile)
    (orderers : List OrdererProfile) : Tree :=
  .ofFields [
    ("Orderer", .ofFields [
      ("OrdererType", .str consensus.name),
      ("Organizations",
        .seq (if orderers.isEmpty then [] else [reference Naming.ordererMspId]))]),
    ("Application", .ofFields [("Organizations", orgReferences organizations)]),
    ("Capabilities", capability "V3_0")]

/-- The profile from which the channel starts. -/
def channelProfile (organizations : List OrgProfile) : Tree :=
  .ofFields [
    ("Application", .ofFields [
      ("Organizations", orgReferences organizations),
      ("Capabilities", capability "V2_5")])]

/-- The document as a tree. -/
def channelConfig (networkName : String) (consensus : Consensus) (channelName : String)
    (organizations : List OrgProfile) (orderers : List OrdererProfile) : Tree :=
  let domain := Naming.ordererDomain networkName
  .ofFields [
    ("Organizations", .seq (definitions domain organizations orderers)),
    ("Capabilities", .ofFields [
      ("Channel", capability "V3_0"),
      ("Orderer", capability "V2_0"),
      ("Application", capability "V2_5")]),
    ("Application", applicationSection),
    ("Orderer", ordererSection consensus domain orderers),
    ("Channel", channelSection),
    ("Profiles", .ofFields [
      (channelName ++ "Genesis", genesisProfile consensus organizations orderers),
      (channelName ++ "Channel", channelProfile organizations)])]

def channelConfigHeader (networkName : String) (consensus : Consensus) (channelName : String) :
    Header :=
  { title := "Hyperledger Fabric configtx.yaml"
    network := networkName
    runtime := runtime
    consensus := some consensus.name
    channel := some channelName
    notes := []
    reference := "https://hyperledger-fabric.readthedocs.io/en/latest/" ++
      "create_channel/create_channel_config.html" }

def channelConfigText (networkName : String) (consensus : Consensus) (channelName : String)
    (organizations : List OrgProfile) (orderers : List OrdererProfile) : String :=
  document (channelConfigHeader networkName consensus channelName)
    (channelConfig networkName consensus channelName organizations orderers)

end FabricTopology.Document
