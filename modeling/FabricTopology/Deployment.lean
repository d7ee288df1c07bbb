import FabricTopology.Network.Codec
import FabricTopology.Topology

/-!
Deployments of saved networks and their life: a deployment starts deploying at zero, becomes active
at a hundred, is stopped and started again, or fails and is tried again from zero. `advance` reports
progress, `transition` moves along `canTransition`, and `apply` does both for a patch. Each works on
the record in place, and one that fails leaves it as it is by then. A patch is tried on a copy.
-/
namespace FabricTopology

/-- A rollout of a network. -/
structure Deployment where
  id : String
  networkId : String
  networkName : String
  status : Status
  totalNodes : Nat
  peerCount : Nat
  ordererCount : Nat
  caCount : Nat
  uptime : Option String
  progress : Option UInt8
  createdAt : Calendar.Timestamp
  lastActive : Option Calendar.Timestamp
deriving DecidableEq

/-- New values for some parts of a deployment. -/
structure DeploymentPatch where
  status : Option Status
  progress : Option UInt8
  uptime : Option String
deriving DecidableEq

namespace Deployment

/-- The progress of a deployment that is complete. -/
def complete : UInt8 := 100

/-- A new rollout of a network. -/
def ofNetwork (id : String) (n : Network) (now : Calendar.Timestamp) : Deployment :=
  let counts := (Topology.ofNetwork n).counts
  { id
    networkId := n.id
    networkName := n.name
    status := .deploying
    totalNodes := counts.peers + counts.orderers + counts.cas
    peerCount := counts.peers
    ordererCount := counts.orderers
    caCount := counts.cas
    uptime := none
    progress := some 0
    createdAt := now
    lastActive := none }

/-- Progress that is out of range at the given one. -/
def outOfRange (current progress : UInt8) : Failure :=
  .invalidInput ("progress must stay within " ++ toString current.toNat ++ "..=" ++
    toString complete.toNat ++ ", got " ++ toString progress.toNat)

/-- Work on a record in place. It ends well or says why not, and leaves the record as it is by
    then. -/
abbrev Edit := EStateM Failure Deployment Unit

/-- Progress is reported. Only a deployment that is deploying makes progress, never backwards and
    never beyond completion, which makes it active. -/
def advance (progress : UInt8) (now : Calendar.Timestamp) : Edit := do
  let d ← get
  let current := d.progress.getD 0
  if d.status ≠ .deploying then
    throw (.invalidTransition d.status.name ("deploying(" ++ toString progress.toNat ++ ")"))
  else if progress < current ∨ complete < progress then throw (outOfRange current progress)
  else
    modify ({ · with progress := some progress })
    modify ({ · with lastActive := some now })
    if progress = complete then modify ({ · with status := .active })

/-- Whether a deployment may go from one status to another, or stay; deploying it may not stay. -/
def canTransition : Status → Status → Bool
  | .deploying, s => s == .active || s == .error
  | .active, s => s == .stopped || s == .active
  | .stopped, s => s == .active || s == .stopped
  | .error, s => s == .deploying || s == .error

/-- The status changes. It is no progress to be tried again, and all of it to become active. -/
def transition (target : Status) (now : Calendar.Timestamp) : Edit := do
  let d ← get
  if canTransition d.status target then
    match d.status, target with
    | .error, .deploying => modify ({ · with progress := some 0 })
    | .deploying, .active => modify ({ · with progress := some complete })
    | _, _ => pure ()
    modify ({ · with status := target })
    modify ({ · with lastActive := some now })
  else throw (.invalidTransition d.status.name target.name)

/-- The progress of a patch, if it holds any. -/
def applyProgress (progress : Option UInt8) (now : Calendar.Timestamp) : Edit :=
  match progress with
  | some p => advance p now
  | none => pure ()

/-- The status of a patch, if it holds another one. -/
def applyStatus (status : Option Status) (now : Calendar.Timestamp) : Edit :=
  match status with
  | some s => do
    let d ← get
    if s ≠ d.status then transition s now
  | none => pure ()

/-- The uptime of a patch, if it holds any. -/
def applyUptime (uptime : Option String) : Edit :=
  match uptime with
  | some u => modify ({ · with uptime := some u })
  | none => pure ()

/-- A patch step by step: its progress first, then its status, then its uptime. -/
def applySteps (p : DeploymentPatch) (now : Calendar.Timestamp) : Edit := do
  applyProgress p.progress now
  applyStatus p.status now
  applyUptime p.uptime

/-- A patch. Its steps are tried on a copy, and the copy replaces the record when all went well. -/
def apply (p : DeploymentPatch) (now : Calendar.Timestamp) : Edit := do
  let copy ← get
  match (applySteps p now).run copy with
  | .ok _ next => set next
  | .error e _ => throw e

end Deployment

/-! ### In JSON

A deployment leaves out what it does not know. -/

namespace Deployment

def toJson (d : Deployment) : Json :=
  .ofMembers [
    ("id", some (.str d.id)),
    ("networkId", some (.str d.networkId)),
    ("networkName", some (.str d.networkName)),
    ("status", some (.str d.status.name)),
    ("totalNodes", some (.int d.totalNodes)),
    ("peerCount", some (.int d.peerCount)),
    ("ordererCount", some (.int d.ordererCount)),
    ("caCount", some (.int d.caCount)),
    ("uptime", d.uptime.map .str),
    ("progress", d.progress.map fun p => .int p.toNat),
    ("createdAt", some d.createdAt.toJson),
    ("lastActive", d.lastActive.map Calendar.Timestamp.toJson)]

def ofJson? (j : Json) : Option Deployment := do
  guard (j.isRecord 12)
  return {
    id := ← j.required Json.str? 0 ["id"]
    networkId := ← j.required Json.str? 1 ["networkId"]
    networkName := ← j.required Json.str? 2 ["networkName"]
    status := ← j.required Status.ofJson? 3 ["status"]
    totalNodes := ← j.required Json.nat? 4 ["totalNodes"]
    peerCount := ← j.required Json.nat? 5 ["peerCount"]
    ordererCount := ← j.required Json.nat? 6 ["ordererCount"]
    caCount := ← j.required Json.nat? 7 ["caCount"]
    uptime := ← j.optional Json.str? 8 ["uptime"]
    progress := ← j.optional Json.word8? 9 ["progress"]
    createdAt := ← j.required Calendar.Timestamp.ofJson? 10 ["createdAt"]
    lastActive := ← j.optional Calendar.Timestamp.ofJson? 11 ["lastActive"] }

end Deployment

def DeploymentPatch.ofJson? (j : Json) : Option DeploymentPatch := do
  guard (j.isRecord 3)
  return {
    status := ← j.optionalMember Status.ofJson? 0 ["status"]
    progress := ← j.optionalMember Json.word8? 1 ["progress"]
    uptime := ← j.optionalMember Json.str? 2 ["uptime"] }

end FabricTopology
