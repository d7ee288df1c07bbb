import FabricTopology.Deployment
import FabricTopology.Table

/-!
The store of saved networks and their deployments. Every step takes what it needs from outside, a
fresh id and the time, as arguments and gives the store after it. The records of a kind are looked
up by their ids and listed by the times they were created at. A deployment is created in two steps,
the look-up of its network and the insertion of a record for it.
-/
namespace FabricTopology

/-- Saved networks and deployments by their ids. -/
structure Store where
  networks : Table String Network
  deployments : Table String Deployment

namespace Store

/-- The store without records. -/
def empty : Store := ⟨[], []⟩

/-- Whether a record may stand before another one in a listing, by the times they were created at
    and their ids: the older one first, and of two from one moment the one with the lower id. A
    record without a time is older than those with one. -/
def precedes : Option Calendar.Timestamp × String → Option Calendar.Timestamp × String → Bool
  | (none, i), (none, j) => i ≤ j
  | (none, _), (some _, _) => true
  | (some _, _), (none, _) => false
  | (some t, i), (some u, j) => t < u ∨ ¬ u < t ∧ i ≤ j

/-- Records as they are listed, by the times they were created at and their ids. -/
def listed {α : Type} (createdAt : α → Option Calendar.Timestamp) (id : α → String)
    (records : List α) : List α :=
  records.mergeSort fun a b => precedes (createdAt a, id a) (createdAt b, id b)

/-- All networks, oldest first. -/
def listNetworks (s : Store) : List Network := listed (·.createdAt) (·.id) s.networks.values

/-- The network of an id. -/
def getNetwork (s : Store) (id : String) : Option Network := s.networks.get? id

/-- A new network under a fresh id; what the network says of its id and times does not count. -/
def createNetwork (s : Store) (id : String) (now : Calendar.Timestamp) (n : Network) :
    Network × Store :=
  let created := { n with id := id, createdAt := some now, updatedAt := some now }
  (created, { s with networks := s.networks.put id created })

/-- The network of an id after a patch. -/
def updateNetwork (s : Store) (now : Calendar.Timestamp) (id : String) (p : NetworkPatch) :
    Option Network × Store :=
  match s.getNetwork id with
  | none => (none, s)
  | some n =>
    let updated := { p.apply n with updatedAt := some now }
    (some updated, { s with networks := s.networks.put id updated })

/-- Whether there was a network of that id; there is none afterwards. -/
def deleteNetwork (s : Store) (id : String) : Bool × Store :=
  match s.getNetwork id with
  | none => (false, s)
  | some _ => (true, { s with networks := s.networks.erase id })

/-- All deployments, oldest first. -/
def listDeployments (s : Store) : List Deployment :=
  listed (fun d => some d.createdAt) (·.id) s.deployments.values

/-- The deployment of an id. -/
def getDeployment (s : Store) (id : String) : Option Deployment := s.deployments.get? id

/-- The network that is to be deployed, or why there is none. -/
def findNetwork (s : Store) (networkId : String) : Except Failure Network :=
  match s.getNetwork networkId with
  | some n => .ok n
  | none => .error (.networkNotFound networkId)

/-- A new deployment of a network under a fresh id. -/
def addDeployment (s : Store) (id : String) (now : Calendar.Timestamp) (n : Network) :
    Deployment × Store :=
  let d := Deployment.ofNetwork id n now
  (d, { s with deployments := s.deployments.put id d })

/-- A new deployment of the network of an id. -/
def createDeployment (s : Store) (id : String) (now : Calendar.Timestamp) (networkId : String) :
    Except Failure Deployment × Store :=
  match s.findNetwork networkId with
  | .error e => (.error e, s)
  | .ok n => let (d, after) := s.addDeployment id now n; (.ok d, after)

/-- The deployment of an id after a patch, which works on the record in its place. -/
def updateDeployment (s : Store) (now : Calendar.Timestamp) (id : String) (p : DeploymentPatch) :
    Except Failure Deployment × Store :=
  match s.getDeployment id with
  | none => (.error (.deploymentNotFound id), s)
  | some d => match (Deployment.apply p now).run d with
    | .ok _ d => (.ok d, { s with deployments := s.deployments.put id d })
    | .error e d => (.error e, { s with deployments := s.deployments.put id d })

/-- Whether there was a deployment of that id; there is none afterwards. -/
def deleteDeployment (s : Store) (id : String) : Bool × Store :=
  match s.getDeployment id with
  | none => (false, s)
  | some _ => (true, { s with deployments := s.deployments.erase id })

end Store

/-! ### A store to look around in -/

namespace Store

/-- A host in the example domain. -/
def exampleHost (name : String) : String := name ++ ".example.com"

/-- A peer at the host of its name in the example domain. -/
def samplePeer (id name organizationId : String) : Peer :=
  { Peer.named id name organizationId with host := exampleHost name }

/-- A certificate authority at the host of its name in the example domain. -/
def sampleCa (id name organizationId : String) : CertificateAuthority :=
  { CertificateAuthority.named id name organizationId with host := exampleHost name }

/-- The records of the sample network. -/
def sampleEntities : Entities :=
  { organizations :=
      [(Organization.named "org1" "Org1").withDefaults,
        (Organization.named "org2" "Org2").withDefaults]
    peers :=
      [samplePeer "peer0-org1" "peer0.org1" "org1", samplePeer "peer0-org2" "peer0.org2" "org2"]
    orderers := [{ Orderer.named "orderer0" "orderer0" with host := exampleHost "orderer" }]
    cas := [sampleCa "ca-org1" "ca.org1" "org1", sampleCa "ca-org2" "ca.org2" "org2"]
    channels := [⟨"ch1", "prodchannel", ["org1", "org2"], ["orderer0"]⟩]
    chaincodes := [Chaincode.named "cc1" "asset-transfer" "ch1"] }

/-- The sample network. -/
def sampleNetwork (now : Calendar.Timestamp) : Network :=
  { Network.named "Production Network" with
    id := "sample-1"
    channelName := "prodchannel"
    entities := sampleEntities
    createdAt := some now
    updatedAt := some now
    status := some .active }

/-- The sample deployment of a network. -/
def sampleDeployment (n : Network) (now : Calendar.Timestamp) : Deployment :=
  { Deployment.ofNetwork "deploy-1" n (now.daysBack 14) with
    status := .active
    progress := none
    uptime := some "14d 6h 23m"
    lastActive := some now }

/-- The store with the sample records; the clock is read for the network and again for its
    deployment. -/
def sampleAt (opened deployed : Calendar.Timestamp) : Store :=
  { networks := [("sample-1", sampleNetwork opened)]
    deployments := [("deploy-1", sampleDeployment (sampleNetwork opened) deployed)] }

/-- The store with the sample records, all from one moment. -/
def sample (now : Calendar.Timestamp) : Store := sampleAt now now

end Store

end FabricTopology
