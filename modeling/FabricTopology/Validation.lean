import FabricTopology.Canvas
import FabricTopology.Json.Record
import FabricTopology.Topology

/-!
What is wrong with a network. Six rules are applied to its records in a fixed order, each to the end, and each record
that breaks a rule gets an issue of its own. The first two rules ask for an organization and an orderer and fail with an
error; the others only warn.

The lint of a canvas tells what is wrong with it in itself: nodes whose id was drawn before, then edges with a missing
end, then those between kinds that may not be joined. Each node and each edge is reported at most once.
-/
namespace FabricTopology

/-! ### The report -/

/-- How a rule came out. -/
inductive RuleStatus where
  | passed
  | warning
  | error
deriving DecidableEq

/-- How bad an issue is. -/
inductive Severity where
  | warning
  | error
deriving DecidableEq

/-- The outcome of one rule. -/
structure RuleResult where
  id : String
  name : String
  status : RuleStatus
  issueCount : Nat
deriving DecidableEq

/-- Something that is wrong with a network. -/
structure Issue where
  rule : String
  severity : Severity
  title : String
  description : String
  nodeId : Option String
  fixable : Bool
deriving DecidableEq

/-- The outcomes of the rules and all issues. -/
structure Report where
  tests : List RuleResult
  issues : List Issue
deriving DecidableEq

/-- The rules. -/
inductive Rule where
  | orgCount
  | ordererCount
  | peerOrg
  | channelOrgs
  | chaincodeChannel
  | caOrg
deriving DecidableEq

/-- The name of an outcome in a report. -/
def RuleStatus.name : RuleStatus → String
  | passed => "passed"
  | warning => "warning"
  | error => "error"

/-- The name of an outcome in a listing. -/
def RuleStatus.title : RuleStatus → String
  | passed => "Passed"
  | warning => "Warning"
  | error => "Error"

def Severity.name : Severity → String
  | warning => "warning"
  | error => "error"

namespace Rule

/-- Every rule, in the order of the report. -/
def all : List Rule := [orgCount, ordererCount, peerOrg, channelOrgs, chaincodeChannel, caOrg]

def id : Rule → String
  | orgCount => "org-count"
  | ordererCount => "orderer-count"
  | peerOrg => "peer-org"
  | channelOrgs => "channel-orgs"
  | chaincodeChannel => "chaincode-channel"
  | caOrg => "ca-org"

def title : Rule → String
  | orgCount => "Organization Count"
  | ordererCount => "Orderer Presence"
  | peerOrg => "Peer-Organization Mapping"
  | channelOrgs => "Channel Organizations"
  | chaincodeChannel => "Chaincode Deployment"
  | caOrg => "CA Configuration"

/-- The status of a rule that is broken. -/
def failing : Rule → RuleStatus
  | orgCount => .error
  | ordererCount => .error
  | _ => .warning

/-- An issue about the whole network. -/
def failure (r : Rule) (title description : String) : Issue :=
  ⟨r.id, .error, title, description, none, false⟩

/-- An issue about one record. -/
def complaint (r : Rule) (title description nodeId : String) : Issue :=
  ⟨r.id, .warning, title, description, some nodeId, true⟩

/-- What the records break of a rule. -/
def issues (e : Entities) : Rule → List Issue
  | orgCount =>
    if e.organizations.isEmpty then
      [orgCount.failure "No organizations defined" "Network must have at least one organization"]
    else []
  | ordererCount =>
    if e.orderers.isEmpty then
      [ordererCount.failure "No orderers defined" "Network must have at least one orderer node"]
    else []
  | peerOrg =>
    (e.peers.filter fun p => Text.isAllBlank p.organizationId).map fun p =>
      peerOrg.complaint ("Peer " ++ p.name ++ " has no organization")
        "Each peer should be connected to an organization" p.id
  | channelOrgs =>
    (e.channels.filter fun c => c.organizationIds.length < 2).map fun c =>
      channelOrgs.complaint ("Channel " ++ c.name ++ " has fewer than 2 organizations")
        "Channels should have at least two organizations for proper decentralization" c.id
  | chaincodeChannel =>
    (e.chaincodes.filter fun c => Text.isAllBlank c.channelId).map fun c =>
      chaincodeChannel.complaint ("Chaincode " ++ c.name ++ " has no channel")
        "Chaincodes must be associated with a channel" c.id
  | caOrg =>
    (e.organizations.filter fun o => !e.cas.any fun c => c.organizationId == o.id).map fun o =>
      caOrg.complaint ("Organization " ++ o.name ++ " has no Certificate Authority")
        "Each organization should have a Certificate Authority for identity management" o.id

/-- The outcome of a rule with the given issues. -/
def result (r : Rule) (issues : List Issue) : RuleResult :=
  ⟨r.id, r.title, if issues.isEmpty then .passed else r.failing, issues.length⟩

end Rule

/-- The report on the records of a network. -/
def Entities.validate (e : Entities) : Report :=
  ⟨Rule.all.map fun r => r.result (r.issues e), Rule.all.flatMap (Rule.issues e)⟩

/-- The report on a network; no network at all counts as one without records. -/
def validateNetwork : Option Network → Report
  | some n => (Topology.ofNetwork n).entities.validate
  | none => Entities.empty.validate

namespace Report

/-- Whether a rule came out with an error. -/
def hasErrors (r : Report) : Bool := r.tests.any fun t => t.status == .error

/-- How many issues only warn. -/
def warningCount (r : Report) : Nat := r.issues.countP fun i => i.severity == .warning

/-- The issues of a rule. -/
def issuesFor (r : Report) (rule : String) : List Issue := r.issues.filter fun i => i.rule == rule

end Report

/-! ### Reports in JSON -/

def RuleStatus.ofName? (s : String) : Option RuleStatus :=
  [passed, warning, error].find? fun x => x.name == s

theorem RuleStatus.ofName?_name (x : RuleStatus) : ofName? x.name = some x := by
  cases x <;> decide

def Severity.ofName? (s : String) : Option Severity := [warning, error].find? fun x => x.name == s

theorem Severity.ofName?_name (x : Severity) : ofName? x.name = some x := by cases x <;> decide

def RuleStatus.ofJson? (j : Json) : Option RuleStatus := do ofName? (← j.alternative?)

def Severity.ofJson? (j : Json) : Option Severity := do ofName? (← j.alternative?)

namespace RuleResult

def toJson (r : RuleResult) : Json :=
  .obj [
    ("id", .str r.id),
    ("name", .str r.name),
    ("status", .str r.status.name),
    ("issueCount", .int r.issueCount)]

def ofJson? (j : Json) : Option RuleResult := do
  guard (j.isRecord 4)
  return {
    id := ← j.required Json.str? 0 ["id"]
    name := ← j.required Json.str? 1 ["name"]
    status := ← j.required RuleStatus.ofJson? 2 ["status"]
    issueCount := ← j.required Json.nat? 3 ["issueCount"] }

end RuleResult

namespace Issue

def toJson (i : Issue) : Json :=
  .ofMembers [
    ("rule", some (.str i.rule)),
    ("type", some (.str i.severity.name)),
    ("title", some (.str i.title)),
    ("description", some (.str i.description)),
    ("nodeId", i.nodeId.map .str),
    ("fixable", some (.bool i.fixable))]

def ofJson? (j : Json) : Option Issue := do
  guard (j.isRecord 6)
  return {
    rule := ← j.required Json.str? 0 ["rule"]
    severity := ← j.required Severity.ofJson? 1 ["type"]
    title := ← j.required Json.str? 2 ["title"]
    description := ← j.required Json.str? 3 ["description"]
    nodeId := ← j.optional Json.str? 4 ["nodeId"]
    fixable := ← j.defaulted false Json.bool? 5 ["fixable"] }

end Issue

namespace Report

/-- The members that hold a report. -/
def members (r : Report) : List (String × Json) :=
  [("tests", .arr (r.tests.map RuleResult.toJson)), ("issues", .arr (r.issues.map Issue.toJson))]

def toJson (r : Report) : Json := .obj r.members

def ofJson? (j : Json) : Option Report := do
  guard (j.isRecord 2)
  return {
    tests := ← j.required (Json.list? RuleResult.ofJson?) 0 ["tests"]
    issues := ← j.required (Json.list? Issue.ofJson?) 1 ["issues"] }

end Report

/-! ### The lint of a canvas -/

namespace Canvas

/-- The nodes whose id is among `seen` or stands further ahead. -/
def repeated (seen : List String) : List Node → List Node
  | [] => []
  | n :: rest =>
    if seen.contains n.id then n :: repeated seen rest else repeated (n.id :: seen) rest

/-- The issue of a node whose id was drawn before. -/
def duplicateIssue (n : Node) : Issue :=
  { rule := "graph-duplicate-node"
    severity := .error
    title := "Duplicate node id " ++ n.id
    description := "Node ids must be unique within a topology"
    nodeId := some n.id
    fixable := false }

/-- The issue of an edge with a missing end. -/
def danglingIssue (e : Edge) : Issue :=
  { rule := "graph-dangling-edge"
    severity := .warning
    title := "Edge " ++ e.id ++ " references a missing node"
    description := "Edge connects " ++ e.sourceNodeId ++ " and " ++ e.targetNodeId ++
      ", but at least one of them does not exist"
    nodeId := none
    fixable := true }

/-- The issue of an edge between nodes that may not be joined. -/
def connectionIssue (e : Edge) (source target : Node) : Issue :=
  { rule := "graph-connection"
    severity := .warning
    title := "A " ++ source.kind.name ++ " cannot connect to a " ++ target.kind.name
    description := "Edge " ++ e.id ++ " between " ++ source.label ++ " and " ++ target.label ++
      " is ignored during compilation"
    nodeId := some source.id
    fixable := true }

/-- The issue of an edge whose ends exist but may not be joined. -/
def connectionIssue? (c : Canvas) (e : Edge) : Option Issue := do
  let source ← c.node? e.sourceNodeId
  let target ← c.node? e.targetNodeId
  if source.kind.canConnect target.kind then none else some (connectionIssue e source target)

/-- Everything that is wrong with a canvas. -/
def lint (c : Canvas) : List Issue :=
  (repeated [] c.nodes).map duplicateIssue ++ c.danglingEdges.map danglingIssue ++
    c.links.filterMap c.connectionIssue?

end Canvas

end FabricTopology
