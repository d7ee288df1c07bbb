import FabricTopology.Naming

/-!
The six kinds of records that describe a network: organizations, peers, orderers, certificate
authorities, channels and chaincodes. A record refers to another one by its id. An organization may
leave its membership provider and its domain empty; both then follow from its name, and
`withDefaults` writes them out.
-/
namespace FabricTopology

/-- A peer that other organizations may contact. -/
structure AnchorPeer where
  host : String
  port : UInt16
deriving DecidableEq

/-- A member of the network. -/
structure Organization where
  id : String
  name : String
  mspId : String
  domain : String
  anchorPeers : Option (List AnchorPeer)
deriving DecidableEq

/-- A node that keeps the ledger. -/
structure Peer where
  id : String
  name : String
  organizationId : String
  host : String
  port : UInt16
  tlsEnabled : Bool
  couchDbEnabled : Bool
deriving DecidableEq

/-- A node that orders transactions. -/
structure Orderer where
  id : String
  name : String
  organizationId : Option String
  host : String
  port : UInt16
  tlsEnabled : Bool
deriving DecidableEq

/-- A node that issues certificates. -/
structure CertificateAuthority where
  id : String
  name : String
  organizationId : String
  host : String
  port : UInt16
  tlsEnabled : Bool
deriving DecidableEq

/-- A ledger shared by some of the organizations. -/
structure Channel where
  id : String
  name : String
  organizationIds : List String
  ordererIds : List String
deriving DecidableEq

/-- What a chaincode is written in. -/
inductive Language where
  | go
  | node
  | java
deriving DecidableEq

/-- A program on the ledger of a channel. -/
structure Chaincode where
  id : String
  name : String
  version : String
  language : Language
  channelId : String
deriving DecidableEq

/-- The records of a network, kind by kind. -/
structure Entities where
  organizations : List Organization
  peers : List Peer
  orderers : List Orderer
  cas : List CertificateAuthority
  channels : List Channel
  chaincodes : List Chaincode
deriving DecidableEq

def Language.name : Language → String
  | go => "go"
  | node => "node"
  | java => "java"

def Language.ofName? (s : String) : Option Language :=
  [go, node, java].find? fun x => x.name == s

theorem Language.ofName?_name (x : Language) : ofName? x.name = some x := by cases x <;> decide

namespace Organization

/-- An organization that leaves everything but its name to the defaults. -/
def named (id name : String) : Organization := ⟨id, name, "", "", none⟩

/-- Its membership provider, by default made from its name. -/
def resolvedMspId (o : Organization) : String :=
  if o.mspId = "" then Naming.defaultMspId o.name else o.mspId

/-- Its domain, by default made from its name. -/
def resolvedDomain (o : Organization) : String :=
  if o.domain = "" then Naming.defaultDomain o.name else o.domain

/-- The organization with its defaults written out. -/
def withDefaults (o : Organization) : Organization :=
  { o with mspId := o.resolvedMspId, domain := o.resolvedDomain }

end Organization

/-- The version of a chaincode that names none. -/
def Chaincode.defaultVersion : String := "1.0"

/-- A peer at a host of its own name. -/
def Peer.named (id name organizationId : String) : Peer :=
  ⟨id, name, organizationId, name, Naming.peerPort, true, false⟩

/-- An orderer at a host of its own name. -/
def Orderer.named (id name : String) : Orderer :=
  ⟨id, name, none, name, Naming.ordererPort, true⟩

/-- A certificate authority at a host of its own name. -/
def CertificateAuthority.named (id name organizationId : String) : CertificateAuthority :=
  ⟨id, name, organizationId, name, Naming.caPort, true⟩

/-- A chaincode of the first version. -/
def Chaincode.named (id name channelId : String) : Chaincode :=
  ⟨id, name, defaultVersion, .go, channelId⟩

/-- No records at all. -/
def Entities.empty : Entities := ⟨[], [], [], [], [], []⟩

/-- Whether there are no records at all. -/
def Entities.isEmpty (e : Entities) : Bool :=
  e.organizations.isEmpty && e.peers.isEmpty && e.orderers.isEmpty && e.cas.isEmpty &&
    e.channels.isEmpty && e.chaincodes.isEmpty

end FabricTopology
