import FabricTopology.Json.Record
import FabricTopology.Topology

/-!
The commands an operator gives once a network is up, addressed at the hosts and paths that the
documents use. A command is a list of lines (`PeerContext.lines`), and its script joins them with
continuations.
-/
namespace FabricTopology

/-- The commands, in the order of a chaincode's life. -/
inductive PeerCommand where
  | createChannel
  | joinChannel
  | installChaincode
  | approveChaincode
  | commitChaincode
  | invokeChaincode
deriving DecidableEq

namespace PeerCommand

def all : List PeerCommand :=
  [createChannel, joinChannel, installChaincode, approveChaincode, commitChaincode, invokeChaincode]

def name : PeerCommand → String
  | createChannel => "create-channel"
  | joinChannel => "join-channel"
  | installChaincode => "install-chaincode"
  | approveChaincode => "approve-chaincode"
  | commitChaincode => "commit-chaincode"
  | invokeChaincode => "invoke-chaincode"

def title : PeerCommand → String
  | createChannel => "Create Channel"
  | joinChannel => "Join Channel"
  | installChaincode => "Install Chaincode"
  | approveChaincode => "Approve Chaincode"
  | commitChaincode => "Commit Chaincode"
  | invokeChaincode => "Invoke Chaincode"

def ofName? (s : String) : Option PeerCommand := all.find? fun c => c.name == s

theorem ofName?_name (c : PeerCommand) : ofName? c.name = some c := by cases c <;> decide

/-- The command of that name, or why there is none. -/
def parse (s : String) : Except Failure PeerCommand :=
  match ofName? s with
  | some c => .ok c
  | none => .error (.invalidInput ("unknown peer command '" ++ s ++ "'"))

end PeerCommand

/-- What the commands are addressed at. -/
structure PeerContext where
  channel : String
  ordererDomain : String
  ordererHost : String
  orgName : String
  orgDomain : String
  peerHost : String
  chaincode : String
  chaincodeVersion : String
deriving DecidableEq

/-- The root of the key material in the operator's container. -/
def PeerContext.cryptoRoot : String := "/opt/gopath/src/github.com/hyperledger/fabric/peer"

/-- The first orderer, organization and chaincode of a topology, each with a stand-in. -/
def Topology.peerContext (t : Topology) : PeerContext :=
  let ordererIndex := (t.orderers.head?.map (·.index)).getD 0
  let org := (t.organizations.head?.map fun o => (o.name, o.domain)).getD
    ("Org1", Naming.defaultDomain "Org1")
  let chaincode := (t.entities.chaincodes.head?.map fun c => (c.name, c.version)).getD
    ("mycc", Chaincode.defaultVersion)
  { channel := t.channelName
    ordererDomain := t.ordererDomain
    ordererHost := Naming.ordererHost ordererIndex t.ordererDomain
    orgName := org.1
    orgDomain := org.2
    peerHost := Naming.peerHost 0 org.2
    chaincode := chaincode.1
    chaincodeVersion := chaincode.2 }

namespace PeerContext

/-- The orderer and its port. -/
def ordererAddress (c : PeerContext) : String := Naming.address c.ordererHost Naming.ordererPort

/-- The peer and its port. -/
def peerAddress (c : PeerContext) : String := Naming.address c.peerHost Naming.peerPort

/-- The certificate that the orderer's connections are checked with. -/
def ordererCa (c : PeerContext) : String :=
  cryptoRoot ++ "/crypto/ordererOrganizations/" ++ c.ordererDomain ++ "/orderers/" ++
    c.ordererHost ++ "/msp/tlscacerts/tlsca." ++ c.ordererDomain ++ "-cert.pem"

/-- The certificate that the peer's connections are checked with. -/
def peerRootCert (c : PeerContext) : String :=
  cryptoRoot ++ "/crypto/peerOrganizations/" ++ c.orgDomain ++ "/peers/" ++ c.peerHost ++
    "/tls/ca.crt"

/-- What a command does. -/
def description (c : PeerContext) : PeerCommand → String
  | .createChannel => "Initialize channel \"" ++ c.channel ++ "\" on the network"
  | .joinChannel => "Join " ++ c.peerHost ++ " to channel \"" ++ c.channel ++ "\""
  | .installChaincode => "Install chaincode on " ++ c.peerHost
  | .approveChaincode => "Approve chaincode definition for " ++ c.orgName
  | .commitChaincode => "Commit chaincode definition to the channel"
  | .invokeChaincode => "Invoke a chaincode function"

/-- The option for encrypted connections to the orderer. -/
def tlsOption (c : PeerContext) : String := "--tls --cafile " ++ c.ordererCa

/-- The options that name the peer. -/
def peerOptions (c : PeerContext) : List String :=
  ["--peerAddresses " ++ c.peerAddress, "--tlsRootCertFiles " ++ c.peerRootCert]

/-- The options that name the definition of the chaincode. -/
def definitionOptions (c : PeerContext) : List String :=
  ["-o " ++ c.ordererAddress, "--channelID " ++ c.channel, "--name " ++ c.chaincode,
    "--version " ++ c.chaincodeVersion]

/-- The lines of a command. -/
def lines (c : PeerContext) : PeerCommand → List String
  | .createChannel =>
    ["peer channel create", "-o " ++ c.ordererAddress, "-c " ++ c.channel,
      "-f ./channel-artifacts/" ++ c.channel ++ ".tx", c.tlsOption]
  | .joinChannel => ["peer channel join", "-b " ++ c.channel ++ ".block"]
  | .installChaincode => ["peer lifecycle chaincode install", c.chaincode ++ ".tar.gz"]
  | .approveChaincode =>
    ["peer lifecycle chaincode approveformyorg"] ++ c.definitionOptions ++
      ["--package-id " ++ c.chaincode ++ "_" ++ c.chaincodeVersion ++ ":hash", "--sequence 1",
        c.tlsOption]
  | .commitChaincode =>
    ["peer lifecycle chaincode commit"] ++ c.definitionOptions ++ ["--sequence 1", c.tlsOption] ++
      c.peerOptions
  | .invokeChaincode =>
    ["peer chaincode invoke", "-o " ++ c.ordererAddress, "-C " ++ c.channel, "-n " ++ c.chaincode,
      "-c '\x7b\"function\":\"initLedger\",\"Args\":[]\x7d'", c.tlsOption] ++ c.peerOptions

/-- The script of a command: its lines, all but the last one continued. -/
def script (c : PeerContext) (command : PeerCommand) : String :=
  String.intercalate " \\\n  " (c.lines command)

end PeerContext

/-- A command as it is offered for a network. -/
structure CommandEntry where
  command : PeerCommand
  title : String
  description : String
  script : String
deriving DecidableEq

/-- Every command for a topology. -/
def Topology.peerCommands (t : Topology) : List CommandEntry :=
  PeerCommand.all.map fun c =>
    ⟨c, c.title, t.peerContext.description c, t.peerContext.script c⟩

/-- The script of one command for a topology. -/
def Topology.peerScript (t : Topology) (c : PeerCommand) : String := t.peerContext.script c

/-! ### In JSON -/

def PeerCommand.ofJson? (j : Json) : Option PeerCommand := do ofName? (← j.alternative?)

def PeerContext.toJson (c : PeerContext) : Json :=
  .obj [
    ("channel", .str c.channel),
    ("ordererDomain", .str c.ordererDomain),
    ("ordererFqdn", .str c.ordererHost),
    ("orgName", .str c.orgName),
    ("orgDomain", .str c.orgDomain),
    ("peerHost", .str c.peerHost),
    ("chaincode", .str c.chaincode),
    ("chaincodeVersion", .str c.chaincodeVersion)]

def CommandEntry.toJson (e : CommandEntry) : Json :=
  .obj [
    ("command", .str e.command.name),
    ("title", .str e.title),
    ("description", .str e.description),
    ("script", .str e.script)]

end FabricTopology
