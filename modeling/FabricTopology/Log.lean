import FabricTopology.Compilation

/-!
What is told of the work while it goes on: events, each with the part of the program that it comes from and with how
much it matters. Which of them are shown is a matter of the level that is asked for. They are shown where everything
else is printed; how the line of an event looks, with the time and perhaps in colours, is left open here.
-/
namespace FabricTopology.Log

/-- How much an event matters. -/
inductive Level where
  | error
  | warn
  | info
  | debug
  | trace
deriving DecidableEq

namespace Level

def all : List Level := [error, warn, info, debug, trace]

def name : Level → String
  | error => "error"
  | warn => "warn"
  | info => "info"
  | debug => "debug"
  | trace => "trace"

/-- The level of that name; any other name asks for the usual one. -/
def ofName (s : String) : Level := (all.find? fun l => l.name == s).getD info

/-- Events that matter less are shown at fewer levels. -/
def rank : Level → Nat
  | error => 0
  | warn => 1
  | info => 2
  | debug => 3
  | trace => 4

/-- Whether events of a level are shown when some level is asked for. -/
def shows (asked l : Level) : Bool := l.rank ≤ asked.rank

end Level

/-- The parts of the program that tell of their work. -/
inductive Part where
  | extraction
  | channelConfig
  | cryptoMaterial
  | services
  | files
  | program
deriving DecidableEq

/-- Something that happened, with what belongs to it by name. -/
structure Event where
  level : Level
  part : Part
  fields : List (String × String)
  message : String
deriving DecidableEq

/-- An edge of the canvas that is of no use. -/
def skipped (e : Edge) : Event :=
  ⟨.warn, .extraction, [("edge", e.id)], "Skipping edge with a missing endpoint"⟩

/-- The records of a source are known; a canvas is looked at for edges of no use. -/
def ofSource : Source → List Event
  | .canvas c => c.danglingEdges.map skipped
  | .records _ => []

/-- The topology of a network is known. -/
def extracted (t : Topology) : Event :=
  ⟨.debug, .extraction,
    [("network", t.networkName), ("organizations", toString t.counts.organizations),
      ("peers", toString t.counts.peers), ("orderers", toString t.counts.orderers)],
    "Extracted topology"⟩

/-- What is told while the topology of a network is worked out. -/
def ofExtraction (n : Network) : List Event := ofSource n.source ++ [extracted (Topology.ofNetwork n)]

/-- An artifact of a topology is about to be made. -/
def building (t : Topology) : Artifact → Event
  | .configtx =>
    ⟨.debug, .channelConfig,
      [("network", t.networkName), ("consensus", t.consensus.name),
        ("organizations", toString t.organizations.length), ("orderers", toString t.orderers.length)],
      "Building channel document"⟩
  | .cryptoConfig =>
    ⟨.debug, .cryptoMaterial,
      [("network", t.networkName), ("organizations", toString t.organizations.length),
        ("orderers", toString t.orderers.length)],
      "Building cert-material document"⟩
  | .dockerCompose =>
    ⟨.debug, .services,
      [("network", t.networkName),
        ("services", toString (t.orderers.length + t.organizations.length * Naming.peersPerOrg))],
      "Building orchestration document"⟩

/-- What is told while a network is compiled. -/
def ofCompilation (n : Network) : List Event :=
  ofExtraction n ++ Artifact.all.map (building (Topology.ofNetwork n))

/-- A file is written. -/
def written (path : String) : Event := ⟨.debug, .files, [("path", path)], "Wrote artifact"⟩

/-- All files are written. -/
def allWritten (directory : String) (files : Nat) : Event :=
  ⟨.info, .files, [("dir", directory), ("files", toString files)], "Artifacts written"⟩

/-- There is an issue with the network. -/
def found (i : Issue) : Event := ⟨.warn, .program, [("rule", i.rule)], i.title⟩

/-- The network is no good and was compiled all the same. -/
def compiledWithErrors : Event :=
  ⟨.warn, .program, [], "Topology has validation errors; documents were still generated"⟩

end FabricTopology.Log
