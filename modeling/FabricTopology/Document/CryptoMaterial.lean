import FabricTopology.Document.ChannelConfig

/-!
The document from which key material is made (`crypto-config.yaml`): one identity for each orderer,
and for each organization a fixed number of peers and one user.
-/
namespace FabricTopology.Document
open FabricTopology.Yaml

/-- Users of each organization. -/
def usersPerOrg : Nat := 1

/-- A number of identities. -/
def identities (count : Nat) : Tree := .ofFields [("Count", .int count)]

/-- The orderers' organization. -/
def ordererOrgMaterial (domain : String) (orderers : List OrdererProfile) : Tree :=
  .ofFields [
    ("Name", .str "Orderer"),
    ("Domain", .str domain),
    ("EnableNodeOUs", .bool true),
    ("Specs", .seq (orderers.map fun o => .ofFields [("Hostname", .str o.hostname)]))]

/-- Any other organization. -/
def orgMaterial (o : OrgProfile) : Tree :=
  .ofFields [
    ("Name", .str o.name),
    ("Domain", .str o.domain),
    ("EnableNodeOUs", .bool true),
    ("Template", identities Naming.peersPerOrg),
    ("Users", identities usersPerOrg)]

/-- The document as a tree. -/
def cryptoMaterial (networkName : String) (organizations : List OrgProfile)
    (orderers : List OrdererProfile) : Tree :=
  .ofFields [
    ("OrdererOrgs", .seq (if orderers.isEmpty then []
      else [ordererOrgMaterial (Naming.ordererDomain networkName) orderers])),
    ("PeerOrgs", .seq (organizations.map orgMaterial))]

def cryptoMaterialHeader (networkName : String) : Header :=
  { title := "Hyperledger Fabric crypto-config.yaml"
    network := networkName
    runtime := runtime
    consensus := none
    channel := none
    notes := ["Generated for use with cryptogen tool"]
    reference := "https://hyperledger-fabric.readthedocs.io/en/latest/commands/cryptogen.html" }

def cryptoMaterialText (networkName : String) (organizations : List OrgProfile)
    (orderers : List OrdererProfile) : String :=
  document (cryptoMaterialHeader networkName) (cryptoMaterial networkName organizations orderers)

end FabricTopology.Document
