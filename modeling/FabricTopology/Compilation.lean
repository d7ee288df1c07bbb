import FabricTopology.Document.CryptoMaterial
import FabricTopology.Document.Services
import FabricTopology.Validation

/-!
All three documents of a network at once, with the report on its records and the lint of its canvas.
-/
namespace FabricTopology

/-- The documents that are made of a network. -/
inductive Artifact where
  | configtx
  | cryptoConfig
  | dockerCompose
deriving DecidableEq

namespace Artifact

/-- Every artifact, in the order they are written. -/
def all : List Artifact := [configtx, cryptoConfig, dockerCompose]

def name : Artifact → String
  | configtx => "configtx"
  | cryptoConfig => "crypto-config"
  | dockerCompose => "docker-compose"

def fileName (a : Artifact) : String := a.name ++ ".yaml"

/-- The artifact of that name, or why there is none. -/
def parse (s : String) : Except Failure Artifact :=
  match all.find? fun a => a.name == s with
  | some a => .ok a
  | none => .error (.invalidInput ("unknown artifact '" ++ s ++ "'"))

/-- The text of an artifact. -/
def text (t : Topology) : Artifact → String
  | configtx => Document.channelConfigText t.networkName t.consensus t.channelName t.organizations
      t.orderers
  | cryptoConfig => Document.cryptoMaterialText t.networkName t.organizations t.orderers
  | dockerCompose => Document.containersText t.networkName t.organizations t.orderers

end Artifact

/-- The texts of all artifacts. -/
structure Artifacts where
  configtx : String
  cryptoConfig : String
  dockerCompose : String
deriving DecidableEq

/-- The text of one of them. -/
def Artifacts.get (texts : Artifacts) : Artifact → String
  | .configtx => texts.configtx
  | .cryptoConfig => texts.cryptoConfig
  | .dockerCompose => texts.dockerCompose

/-- The texts of all artifacts of a topology. -/
def Topology.artifacts (t : Topology) : Artifacts :=
  ⟨Artifact.configtx.text t, Artifact.cryptoConfig.text t, Artifact.dockerCompose.text t⟩

/-- The texts of all artifacts of a network. -/
def Network.artifacts (n : Network) : Artifacts := (Topology.ofNetwork n).artifacts

/-- Everything there is to say about a network. -/
structure Compilation where
  artifacts : Artifacts
  report : Report
  canvasIssues : List Issue

/-- Everything there is to say about a network. -/
def Network.compile (n : Network) : Compilation :=
  let t := Topology.ofNetwork n
  ⟨t.artifacts, t.entities.validate, n.canvas.lint⟩

/-! ### In JSON -/

def Artifacts.toJson (texts : Artifacts) : Json :=
  .obj [
    ("configtx", .str texts.configtx),
    ("cryptoConfig", .str texts.cryptoConfig),
    ("dockerCompose", .str texts.dockerCompose)]

/-- The member that holds the lint of a canvas. -/
def canvasIssuesMember (issues : List Issue) : String × Json :=
  ("graphIssues", .arr (issues.map Issue.toJson))

def Compilation.toJson (c : Compilation) : Json :=
  .obj [
    ("artifacts", c.artifacts.toJson),
    ("report", c.report.toJson),
    canvasIssuesMember c.canvasIssues]

end FabricTopology
