/-!
A network drawn on a canvas: nodes of six kinds and edges between their ids. An edge has two ends
and no direction. The kinds that an edge may join are `NodeKind.canConnect`.

An edge counts only if both of its ends are ids of nodes; the others dangle. `neighbors` lists the nodes of one kind
that an edge joins to a given id, in the order of the canvas, however many edges there are and whichever way they were
drawn.
-/
namespace FabricTopology

/-- What a node stands for. -/
inductive NodeKind where
  | organization
  | peer
  | orderer
  | certificateAuthority
  | channel
  | chaincode
deriving DecidableEq

namespace NodeKind

def all : List NodeKind := [organization, peer, orderer, certificateAuthority, channel, chaincode]

def name : NodeKind → String
  | organization => "organization"
  | peer => "peer"
  | orderer => "orderer"
  | certificateAuthority => "ca"
  | channel => "channel"
  | chaincode => "chaincode"

def ofName? (s : String) : Option NodeKind := all.find? fun k => k.name == s

theorem ofName?_name (k : NodeKind) : ofName? k.name = some k := by cases k <;> decide

/-- What a node of the first kind accepts at the other end of an edge. -/
def accepts : NodeKind → NodeKind → Bool
  | organization, _ => true
  | peer, k => k == organization
  | certificateAuthority, k => k == organization
  | orderer, k => k == channel || k == organization
  | channel, k => k == organization || k == orderer || k == chaincode
  | chaincode, k => k == channel

/-- Whether an edge may join nodes of the two kinds: each accepts the other. -/
def canConnect (a b : NodeKind) : Bool := accepts a b && accepts b a

theorem canConnect_comm (a b : NodeKind) : canConnect a b = canConnect b a :=
  Bool.and_comm (accepts a b) (accepts b a)

end NodeKind

/-- A place on the canvas. -/
structure Position where
  x : Float
  y : Float

/-- The upper left corner. -/
def Position.origin : Position := ⟨0, 0⟩

/-- A node of the canvas. -/
structure Node where
  id : String
  kind : NodeKind
  label : String
  description : Option String
  position : Position

/-- An edge between the nodes of two ids. -/
structure Edge where
  id : String
  sourceNodeId : String
  targetNodeId : String
deriving DecidableEq

/-- The end opposite to a node, if the node is one of the ends. -/
def Edge.otherEnd? (e : Edge) (id : String) : Option String :=
  if e.sourceNodeId = id then some e.targetNodeId
  else if e.targetNodeId = id then some e.sourceNodeId
  else none

/-- Nodes and the edges between them. -/
structure Canvas where
  nodes : List Node
  edges : List Edge

namespace Canvas

/-- The first node of that id. -/
def node? (c : Canvas) (id : String) : Option Node := c.nodes.find? fun n => n.id == id

/-- The nodes of a kind. -/
def nodesOf (c : Canvas) (kind : NodeKind) : List Node := c.nodes.filter fun n => n.kind == kind

/-- Whether some node has that id. -/
def hasNode (c : Canvas) (id : String) : Bool := c.nodes.any fun n => n.id == id

/-- Whether an end of the edge is missing. -/
def isDangling (c : Canvas) (e : Edge) : Bool :=
  !c.hasNode e.sourceNodeId || !c.hasNode e.targetNodeId

/-- The edges with a missing end. -/
def danglingEdges (c : Canvas) : List Edge := c.edges.filter c.isDangling

/-- The edges with both ends. -/
def links (c : Canvas) : List Edge := c.edges.filter fun e => !c.isDangling e

/-- The nodes of a kind that one of the given edges joins to an id other than their own. -/
def joinedBy (c : Canvas) (edges : List Edge) (id : String) (kind : NodeKind) : List Node :=
  let ends := edges.filterMap fun e => e.otherEnd? id
  (c.nodesOf kind).filter fun n => n.id != id && ends.contains n.id

/-- The nodes of a kind next to an id. -/
def neighbors (c : Canvas) (id : String) (kind : NodeKind) : List Node :=
  c.joinedBy c.links id kind

end Canvas

end FabricTopology
