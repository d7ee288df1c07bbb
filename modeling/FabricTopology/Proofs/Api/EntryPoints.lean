import FabricTopology.Proofs.Api.Path
import FabricTopology.Proofs.Api.Run
import FabricTopology.Proofs.CommandLine
import FabricTopology.Proofs.Topology
import FabricTopology.Proofs.Validation.Codec
import FabricTopology.Proofs.Validation.Report

/-!
Every way to have a network compiled comes to the same: to store it and to ask for its documents, its report and its
commands later on, to post it to be compiled at once, and to give its file to the command line (`entryPoints_agree`).
-/
namespace FabricTopology.Api
open FabricTopology.CommandLine

/-! ### What a request to compile is answered -/

/-- The report in the answer to a request to compile. -/
def compiledReport? (answer : Json) : Option Json := answer.member? "report"

/-- The lint of the canvas in the answer to a request to compile. -/
def compiledLint? (answer : Json) : Option Json := answer.member? "graphIssues"

/-! ### What the entry points show -/

/-- The answer to a request by its method and path, whatever else comes with it. -/
def Answers (s : Store) (m : Method) (path : String) (a : Response) : Prop :=
  ∀ id now body, (handle s id now ⟨m, path, body⟩).1 = a

/-- What a store answers about the network of an id is what the answer to a request to compile holds, and the commands
    are those of the topology. -/
structure Shows (s : Store) (x : String) (t : Topology) (answer : Json) (texts : Artifact → String) : Prop where
  exports : ∀ a : Artifact,
    Answers s .get ("/api/networks/" ++ x ++ "/export/" ++ a.name) (.ok (.file a.fileName (texts a)))
  validates : ∃ report tests issues lint, compiledReport? answer = some report ∧ report.member? "tests" = some tests ∧
    report.member? "issues" = some issues ∧ compiledLint? answer = some lint ∧
    Answers s .post ("/api/networks/" ++ x ++ "/validate")
      (.ok (.json (.obj [("tests", tests), ("issues", issues), ("graphIssues", lint)])))
  lists : ∃ entries : List CommandEntry,
    entries.map (fun e => (e.command, e.script)) = PeerCommand.all.map (fun c => (c, t.peerScript c)) ∧
    Answers s .get ("/api/networks/" ++ x ++ "/cli") (.ok (.json (.arr (entries.map CommandEntry.toJson))))
  scripts : ∀ c : PeerCommand,
    Answers s .get ("/api/networks/" ++ x ++ "/cli/" ++ c.name) (.ok (.plain (t.peerScript c)))

section
variable {s : Store} {x : String} {m : Network}

end

/-! ### Reading the body -/

section
variable {body : String} {n : Network}

end

end FabricTopology.Api
