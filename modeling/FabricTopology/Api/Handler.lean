import FabricTopology.Api.Route
import FabricTopology.Compilation
import FabricTopology.Deployment
import FabricTopology.PeerCommand
import FabricTopology.Store
import FabricTopology.Template

/-!
The answer to every request, and the store after it. `handle` is given a fresh id and the time; a
request that creates a record uses both. A body is read before anything is looked up.
-/
namespace FabricTopology.Api

/-- The request to deploy a network. -/
structure DeploymentOrder where
  networkId : String
deriving DecidableEq

def DeploymentOrder.ofJson? (j : Json) : Option DeploymentOrder := do
  guard (j.isRecord 1)
  return { networkId := ← j.required Json.str? 0 ["networkId"] }

/-- The answer to a request that fails. -/
def failed (e : Failure) : Response :=
  match e with
  | .networkNotFound _ | .deploymentNotFound _ | .templateNotFound _ => .missing e.message
  | .invalidTransition _ _ | .invalidInput _ => .refused e.message
  | .io _ | .serialization _ => .broken e.message

/-- The answer about a network that does not exist. -/
def networkMissing : Response := .missing "Network not found"

/-- The answer about a deployment that does not exist. -/
def deploymentMissing : Response := .missing "Deployment not found"

/-- An answer about the network of an id. -/
def aboutNetwork (s : Store) (id : String) (answer : Network → Content) : Response :=
  match s.getNetwork id with
  | some n => .ok (answer n)
  | none => networkMissing

/-- The artifact of a network as a file; its name is looked at first. -/
def exportArtifact (s : Store) (id artifact : String) : Response :=
  match Artifact.parse artifact with
  | .ok a => aboutNetwork s id fun n => .file a.fileName (a.text (Topology.ofNetwork n))
  | .error e => .missing e.message

/-- The script of a command for a network; the name of the command is looked at first. -/
def showCommand (s : Store) (id command : String) : Response :=
  match PeerCommand.parse command with
  | .ok c => aboutNetwork s id fun n => .plain ((Topology.ofNetwork n).peerScript c)
  | .error e => failed e

/-- The report on a network together with the lint of its canvas. -/
def validation (n : Network) : Json :=
  .obj ((validateNetwork (some n)).members ++ [canvasIssuesMember n.canvas.lint])

/-- The commands for a network. -/
def commands (n : Network) : Json :=
  .arr ((Topology.ofNetwork n).peerCommands.map CommandEntry.toJson)

/-- An answer about all records of a kind. -/
def listing {α : Type} (toJson : α → Json) (records : List α) : Response :=
  .ok (.json (.arr (records.map toJson)))

/-- The deployment of an id. -/
def showDeployment (s : Store) (id : String) : Response :=
  match s.getDeployment id with
  | some d => .ok (.json d.toJson)
  | none => deploymentMissing

/-- What is done with the value that the body of a request stands for. -/
def withBody {α : Type} (s : Store) (body : Option String) (read? : Json → Option α)
    (act : α → Response × Store) : Response × Store :=
  match body.bind fun text => (Json.parse? text).bind read? with
  | some a => act a
  | none => (.unreadable, s)

/-- A new record of a network. -/
def create (s : Store) (id : String) (now : Calendar.Timestamp) (n : Network) : Response × Store :=
  let (n, s) := s.createNetwork id now n
  (.created n.toJson, s)

/-- A patch to the network of an id. -/
def update (s : Store) (now : Calendar.Timestamp) (id : String) (p : NetworkPatch) :
    Response × Store :=
  match s.updateNetwork now id p with
  | (some n, s) => (.ok (.json n.toJson), s)
  | (none, s) => (networkMissing, s)

/-- A new deployment as ordered. -/
def deploy (s : Store) (id : String) (now : Calendar.Timestamp) (o : DeploymentOrder) :
    Response × Store :=
  match s.createDeployment id now o.networkId with
  | (.ok d, s) => (.created d.toJson, s)
  | (.error e, s) => (failed e, s)

/-- A patch to the deployment of an id. -/
def redeploy (s : Store) (now : Calendar.Timestamp) (id : String) (p : DeploymentPatch) :
    Response × Store :=
  match s.updateDeployment now id p with
  | (.ok d, s) => (.ok (.json d.toJson), s)
  | (.error e, s) => (failed e, s)

/-- The network of an id is no longer there. -/
def remove (s : Store) (id : String) : Response × Store :=
  match s.deleteNetwork id with
  | (true, s) => (.done, s)
  | (false, s) => (networkMissing, s)

/-- The deployment of an id is no longer there. -/
def retire (s : Store) (id : String) : Response × Store :=
  match s.deleteDeployment id with
  | (true, s) => (.done, s)
  | (false, s) => (deploymentMissing, s)

/-- A new network made of a template. -/
def instantiate (s : Store) (id : String) (now : Calendar.Timestamp) (template : String) :
    Response × Store :=
  match Template.find template with
  | .ok t => create s id now (Template.network t)
  | .error e => (failed e, s)

/-- The answer to a request by its route, with the store after it. -/
def answer (s : Store) (id : String) (now : Calendar.Timestamp) (body : Option String) :
    Route → Response × Store
  | .listNetworks => (listing Network.toJson s.listNetworks, s)
  | .createNetwork => withBody s body Network.ofJson? (create s id now)
  | .showNetwork target => (aboutNetwork s target fun n => .json n.toJson, s)
  | .updateNetwork target => withBody s body NetworkPatch.ofJson? (update s now target)
  | .deleteNetwork target => remove s target
  | .exportArtifact target artifact => (exportArtifact s target artifact, s)
  | .validateNetwork target => (aboutNetwork s target fun n => .json (validation n), s)
  | .listCommands target => (aboutNetwork s target fun n => .json (commands n), s)
  | .showCommand target command => (showCommand s target command, s)
  | .compile => withBody s body Network.ofJson? fun n => (.ok (.json n.compile.toJson), s)
  | .listTemplates => (listing Template.toJson Template.all, s)
  | .instantiateTemplate template => instantiate s id now template
  | .listDeployments => (listing Deployment.toJson s.listDeployments, s)
  | .createDeployment => withBody s body DeploymentOrder.ofJson? (deploy s id now)
  | .showDeployment target => (showDeployment s target, s)
  | .updateDeployment target => withBody s body DeploymentPatch.ofJson? (redeploy s now target)
  | .deleteDeployment target => retire s target

/-- The answer to a request, with the store after it. -/
def handle (s : Store) (id : String) (now : Calendar.Timestamp) (r : Request) :
    Response × Store :=
  match Route.ofRequest? r with
  | some route => answer s id now r.body route
  | none => (.unknown, s)

end FabricTopology.Api
