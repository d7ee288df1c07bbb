import FabricTopology.Calendar
import FabricTopology.Canvas
import FabricTopology.Network.Entities

/-!
A network as it is saved: a name, a way to agree, a channel, records kept by hand, a canvas, and
what the store adds. A `NetworkPatch` changes the parts it holds and keeps the others; it never
touches the id and the times.

A `Failure` is what can go wrong with a request, by cause, with a message for each cause. The last two causes are no
fault of the request but of what serves it.
-/
namespace FabricTopology

/-! ### Failures -/

/-- Why a request is refused. -/
inductive Failure where
  | networkNotFound (id : String)
  | deploymentNotFound (id : String)
  | templateNotFound (id : String)
  | invalidTransition (source target : String)
  | invalidInput (reason : String)
  | io (reason : String)
  | serialization (reason : String)
deriving DecidableEq

/-- The message for a cause. -/
def Failure.message : Failure → String
  | .networkNotFound id => "Network not found: " ++ id
  | .deploymentNotFound id => "Deployment not found: " ++ id
  | .templateNotFound id => "Template not found: " ++ id
  | .invalidTransition source target =>
    "Invalid deployment transition: " ++ source ++ " -> " ++ target
  | .invalidInput reason => "Invalid input: " ++ reason
  | .io reason => "IO error: " ++ reason
  | .serialization reason => "Serialization error: " ++ reason

/-! ### The state of a network or a deployment -/

/-- Where a network or a deployment stands in its life. -/
inductive Status where
  | active
  | deploying
  | stopped
  | error
deriving DecidableEq

namespace Status

def all : List Status := [active, deploying, stopped, error]

def name : Status → String
  | active => "active"
  | deploying => "deploying"
  | stopped => "stopped"
  | error => "error"

def ofName? (s : String) : Option Status := all.find? fun x => x.name == s

theorem ofName?_name (x : Status) : ofName? x.name = some x := by cases x <;> decide

end Status

/-! ### The families of ordering algorithms -/

/-- How the orderers of a network agree. -/
inductive Consensus where
  | etcdRaft
  | bft
  | solo
deriving DecidableEq

namespace Consensus

def name : Consensus → String
  | etcdRaft => "etcdraft"
  | bft => "bft"
  | solo => "solo"

/-- The family of that name; the first one has a short name too. -/
def ofName? (s : String) : Option Consensus :=
  if s = "etcdraft" ∨ s = "raft" then some etcdRaft
  else if s = "bft" then some bft
  else if s = "solo" then some solo
  else none

theorem ofName?_name (c : Consensus) : ofName? c.name = some c := by cases c <;> decide

/-- The family of that name, or why there is none. -/
def parse (s : String) : Except Failure Consensus :=
  match ofName? s with
  | some c => .ok c
  | none => .error (.invalidInput ("unknown consensus type '" ++ s ++ "'"))

end Consensus

/-! ### Networks -/

/-- A saved network. -/
structure Network where
  id : String
  name : String
  consensus : Consensus
  channelName : String
  entities : Entities
  nodes : List Node
  edges : List Edge
  createdAt : Option Calendar.Timestamp
  updatedAt : Option Calendar.Timestamp
  status : Option Status

namespace Network

/-- The name of a network that is given none. -/
def defaultName : String := "fabric-network"

/-- The channel of a network that is given none. -/
def defaultChannel : String := "mychannel"

/-- A network of which nothing but the name is known. -/
def named (name : String) : Network :=
  ⟨"", name, .etcdRaft, defaultChannel, .empty, [], [], none, none, none⟩

/-- The canvas of a network. -/
def canvas (n : Network) : Canvas := ⟨n.nodes, n.edges⟩

end Network

/-- New values for some parts of a network. -/
structure NetworkPatch where
  name : Option String
  consensus : Option Consensus
  channelName : Option String
  organizations : Option (List Organization)
  peers : Option (List Peer)
  orderers : Option (List Orderer)
  cas : Option (List CertificateAuthority)
  channels : Option (List Channel)
  chaincodes : Option (List Chaincode)
  nodes : Option (List Node)
  edges : Option (List Edge)
  status : Option Status

/-- The network with the parts that the patch holds. -/
def NetworkPatch.apply (p : NetworkPatch) (n : Network) : Network :=
  { n with
    name := p.name.getD n.name
    consensus := p.consensus.getD n.consensus
    channelName := p.channelName.getD n.channelName
    entities :=
      { organizations := p.organizations.getD n.entities.organizations
        peers := p.peers.getD n.entities.peers
        orderers := p.orderers.getD n.entities.orderers
        cas := p.cas.getD n.entities.cas
        channels := p.channels.getD n.entities.channels
        chaincodes := p.chaincodes.getD n.entities.chaincodes }
    nodes := p.nodes.getD n.nodes
    edges := p.edges.getD n.edges
    status := p.status <|> n.status }

end FabricTopology
