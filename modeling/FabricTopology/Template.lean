import FabricTopology.Json.Value
import FabricTopology.Network.Basic

/-!
Networks to start from. A template fixes how many organizations, peers and orderers there are;
`instantiate?` makes the records and draws the same network on a canvas. Peers are dealt out to the
organizations in equal shares, rounded up, until all are dealt. Ids follow from positions. Ports are
counted in 16 bits, and a template with a port that does not fit has no network.
-/
namespace FabricTopology

/-- A network to start from. -/
structure Template where
  id : String
  name : String
  description : String
  orgCount : Nat
  peerCount : Nat
  ordererCount : Nat
  featured : Bool
deriving DecidableEq

namespace Template

def all : List Template := [
  ⟨"1", "Two-Org Basic Network",
    "Simple network with two organizations, ideal for development and testing", 2, 4, 1, true⟩,
  ⟨"2", "Three-Org Production",
    "Production-ready network with three organizations and Raft consensus", 3, 6, 3, true⟩,
  ⟨"3", "Multi-Channel Enterprise",
    "Enterprise setup with multiple channels for different business processes", 4, 8, 5, false⟩,
  ⟨"4", "Dev Single Org",
    "Minimal single organization setup for rapid prototyping", 1, 2, 1, false⟩,
  ⟨"5", "High Availability Cluster",
    "Fault-tolerant configuration with redundant orderers and peers", 3, 9, 5, false⟩,
  ⟨"6", "Supply Chain Network",
    "Pre-configured for supply chain use cases with multiple stakeholders", 5, 10, 3, true⟩]

/-- The share of each organization in the peers, rounded up. -/
def peersPerOrg (t : Template) : Nat :=
  if t.orgCount = 0 then 0 else (t.peerCount + t.orgCount - 1) / t.orgCount

def orgId (i : Nat) : String := "org-" ++ toString i

def orgName (i : Nat) : String := "Org" ++ toString (i + 1)

def peerId (k : Nat) : String := "peer-" ++ toString k

def ordererId (i : Nat) : String := "orderer-" ++ toString i

def ordererName (i : Nat) : String := "orderer" ++ toString (i + 1)

/-- The name of an organization's peer at a position among its peers. -/
def peerName (i j : Nat) : String := "peer" ++ toString j ++ "." ++ Naming.lowered (orgName i)

/-- A number in 16 bits, if it fits. -/
def checked (n : Nat) : Option UInt16 := if n < 65536 then some (UInt16.ofNat n) else none

/-- Ports a thousand apart. The position is cut to 16 bits, and then product and sum have to fit. -/
def portAt? (first : UInt16) (k : Nat) : Option UInt16 := do
  let distance ← checked ((UInt16.ofNat k).toNat * 1000)
  checked (first.toNat + distance.toNat)

/-- The organizations, peers of organizations and orderers of a template are drawn in rows and
    columns at these distances. -/
def across (start step : Float) (i : Nat) : Float := start + Float.ofNat i * step

/-- A peer's place among all peers: its organization, its number there and its number overall. -/
structure Seat where
  org : Nat
  position : Nat
  number : Nat
deriving DecidableEq

/-- The peers of an organization. -/
def seatsOf (t : Template) (i : Nat) : List Seat :=
  ((List.range t.peersPerOrg).map fun j => ⟨i, j, i * t.peersPerOrg + j⟩).filter fun s =>
    s.number < t.peerCount

/-- The peers of all organizations. -/
def seats (t : Template) : List Seat := (List.range t.orgCount).flatMap t.seatsOf

def orgAt (i : Nat) : Organization := (Organization.named (orgId i) (orgName i)).withDefaults

def peerAt? (s : Seat) : Option Peer := do
  let port ← portAt? Naming.peerPort s.number
  return { Peer.named (peerId s.number) (peerName s.org s.position) (orgId s.org) with port }

def ordererAt? (i : Nat) : Option Orderer := do
  let port ← portAt? Naming.ordererPort i
  return { Orderer.named (ordererId i) (ordererName i) with port }

def orgNode (i : Nat) : Node :=
  { id := orgId i
    kind := .organization
    label := orgName i
    description := some ("Organization " ++ toString (i + 1))
    position := ⟨across 100 300 i, 100⟩ }

def peerNode (s : Seat) : Node :=
  { id := peerId s.number
    kind := .peer
    label := peerName s.org s.position
    description := some ("Peer node for " ++ orgName s.org)
    position := ⟨across 100 300 s.org, across 250 120 s.position⟩ }

def ordererNode (i : Nat) : Node :=
  { id := ordererId i
    kind := .orderer
    label := ordererName i
    description := some ("Orderer node " ++ toString (i + 1))
    position := ⟨across 600 200 (i / 3), across 100 150 (i % 3)⟩ }

/-- The edge between a peer and its organization. -/
def peerEdge (s : Seat) : Edge :=
  { id := "edge-" ++ peerId s.number ++ "-" ++ orgId s.org
    sourceNodeId := peerId s.number
    targetNodeId := orgId s.org }

/-- The canvas of a template, organization by organization. -/
def canvas (t : Template) : Canvas where
  nodes := (List.range t.orgCount).flatMap (fun i => orgNode i :: (t.seatsOf i).map peerNode) ++
    (List.range t.ordererCount).map ordererNode
  edges := t.seats.map peerEdge

/-- The network of a template, if all its ports fit. -/
def instantiate? (t : Template) : Option Network := do
  let peers ← t.seats.mapM peerAt?
  let orderers ← (List.range t.ordererCount).mapM ordererAt?
  return { Network.named (Naming.slug t.name) with
    entities :=
      { Entities.empty with organizations := (List.range t.orgCount).map orgAt, peers, orderers }
    nodes := t.canvas.nodes
    edges := t.canvas.edges }

/-! ### The built-in templates -/

/-- They are small enough. -/
theorem isSome_of_mem_all {t : Template} (listed : t ∈ all) : t.instantiate?.isSome := by
  have each : ∀ t ∈ all, t.instantiate?.isSome := by decide
  exact each t listed

/-- The template of that id, or why there is none. -/
def find (id : String) : Except Failure { t : Template // t ∈ all } :=
  match all.attach.find? fun t => t.val.id == id with
  | some t => .ok t
  | none => .error (.templateNotFound id)

/-- The network of a built-in template. -/
def network (t : { t : Template // t ∈ all }) : Network :=
  t.val.instantiate?.get (isSome_of_mem_all t.property)

def toJson (t : Template) : Json :=
  .obj [
    ("id", .str t.id),
    ("name", .str t.name),
    ("description", .str t.description),
    ("orgCount", .int t.orgCount),
    ("peerCount", .int t.peerCount),
    ("ordererCount", .int t.ordererCount),
    ("featured", .bool t.featured)]

end Template

end FabricTopology
