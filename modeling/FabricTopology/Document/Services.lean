import FabricTopology.Document.ChannelConfig

/-!
The document from which containers are started (`docker-compose.yaml`): a service for each orderer
and a fixed number of peers for each organization, however many peers were drawn. A service goes by
its host name; of two services with one name the later one takes the place of the earlier one.
-/
namespace FabricTopology.Document
open FabricTopology.Yaml

/-- The network of the containers. -/
def containerNetwork : String := "fabric-network"

/-- Where an orderer finds its key material in its container. -/
def ordererHome : String := "/var/hyperledger/orderer"

/-- Where a peer finds its key material in its container. -/
def peerHome : String := "/etc/hyperledger/fabric"

/-- Where programs run in a container. -/
def workingDir : String := "/opt/gopath/src/github.com/hyperledger/fabric"

/-- A setting of the environment. -/
def setting (name value : String) : String := name ++ "=" ++ value

/-- A port of the host machine and the port of the container it leads to. -/
def portPair (host : UInt32) (container : UInt16) : String :=
  toString host.toNat ++ ":" ++ toString container.toNat

/-- The key material of a service, mounted in its container. -/
def mounts (cryptoDir home : String) : List String :=
  ["msp", "tls"].map fun part => "./" ++ cryptoDir ++ "/" ++ part ++ ":" ++ home ++ "/" ++ part

/-- A service and how it is started. -/
def service (name image : String) (environment : List String) (dir command : String)
    (ports volumes : List String) : Tree :=
  .ofFields [
    ("container_name", .str name),
    ("image", .str image),
    ("environment", .ofStrings environment),
    ("working_dir", .str dir),
    ("command", .str command),
    ("ports", .ofStrings ports),
    ("volumes", .ofStrings volumes),
    ("networks", .ofStrings [containerNetwork])]

/-- The settings of an orderer. -/
def ordererEnvironment : List String :=
  [setting "FABRIC_LOGGING_SPEC" "INFO",
    setting "ORDERER_GENERAL_LISTENADDRESS" "0.0.0.0",
    setting "ORDERER_GENERAL_LISTENPORT" (toString Naming.ordererPort.toNat),
    setting "ORDERER_GENERAL_LOCALMSPID" Naming.ordererMspId,
    setting "ORDERER_GENERAL_LOCALMSPDIR" (ordererHome ++ "/msp"),
    setting "ORDERER_GENERAL_TLS_ENABLED" "true",
    setting "ORDERER_GENERAL_TLS_PRIVATEKEY" (ordererHome ++ "/tls/server.key"),
    setting "ORDERER_GENERAL_TLS_CERTIFICATE" (ordererHome ++ "/tls/server.crt"),
    setting "ORDERER_GENERAL_TLS_ROOTCAS" ("[" ++ ordererHome ++ "/tls/ca.crt]")]

/-- The service of an orderer. -/
def ordererService (domain : String) (o : OrdererProfile) : Tree :=
  service (o.host domain) "hyperledger/fabric-orderer:2.5" ordererEnvironment workingDir "orderer"
    [portPair (Naming.ordererHostPort o.index) Naming.ordererPort]
    (mounts (Naming.ordererCryptoDir o.index domain) ordererHome)

/-- The settings of a peer. -/
def peerEnvironment (name mspId : String) : List String :=
  let address := Naming.address name Naming.peerPort
  [setting "FABRIC_LOGGING_SPEC" "INFO",
    setting "CORE_PEER_ID" name,
    setting "CORE_PEER_ADDRESS" address,
    setting "CORE_PEER_LOCALMSPID" mspId,
    setting "CORE_PEER_TLS_ENABLED" "true",
    setting "CORE_PEER_TLS_CERT_FILE" (peerHome ++ "/tls/server.crt"),
    setting "CORE_PEER_TLS_KEY_FILE" (peerHome ++ "/tls/server.key"),
    setting "CORE_PEER_TLS_ROOTCERT_FILE" (peerHome ++ "/tls/ca.crt"),
    setting "CORE_PEER_GOSSIP_BOOTSTRAP" address,
    setting "CORE_PEER_GOSSIP_EXTERNALENDPOINT" address]

/-- The service of a peer of the organization at a position. -/
def peerService (orgIndex : Nat) (o : OrgProfile) (index : Nat) : Tree :=
  let name := Naming.peerHost index o.domain
  service name "hyperledger/fabric-peer:2.5" (peerEnvironment name o.mspId) (workingDir ++ "/peer")
    "peer node start" [portPair (Naming.peerHostPort orgIndex index) Naming.peerPort]
    (mounts (Naming.peerCryptoDir index o.domain) peerHome)

/-- The services of the orderers by their names. -/
def ordererServices (domain : String) (orderers : List OrdererProfile) : List (String × Tree) :=
  orderers.map fun o => (o.host domain, ordererService domain o)

/-- The services of an organization's peers by their names. -/
def orgServices (orgIndex : Nat) (o : OrgProfile) : List (String × Tree) :=
  (List.range Naming.peersPerOrg).map fun k =>
    (Naming.peerHost k o.domain, peerService orgIndex o k)

/-- All services by their names. -/
def services (networkName : String) (organizations : List OrgProfile)
    (orderers : List OrdererProfile) : Table String Tree :=
  .ofRows (ordererServices (Naming.ordererDomain networkName) orderers ++
    (organizations.mapIdx orgServices).flatten)

/-- The document as a tree. -/
def containers (networkName : String) (organizations : List OrgProfile)
    (orderers : List OrdererProfile) : Tree :=
  .ofFields [
    ("version", .str "3.7"),
    ("networks", .ofFields [
      (containerNetwork, .ofFields [("name", .str containerNetwork)])]),
    ("services", .ofFields (services networkName organizations orderers))]

def containersHeader (networkName : String) : Header :=
  { title := "Docker Compose configuration for Hyperledger Fabric network"
    network := networkName
    runtime := runtime
    consensus := none
    channel := none
    notes := ["Usage: docker-compose up -d"]
    reference := "https://hyperledger-fabric.readthedocs.io/en/latest/test_network.html" }

def containersText (networkName : String) (organizations : List OrgProfile)
    (orderers : List OrdererProfile) : String :=
  document (containersHeader networkName) (containers networkName organizations orderers)

end FabricTopology.Document
