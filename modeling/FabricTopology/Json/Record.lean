import FabricTopology.Json.Value

/-!
Records in JSON. A record is written as an object whose members are its fields in any order, other
members ignored, or as an array of its fields in their order. A field has a position and one or more
names; `slot?` finds what is written for it and refuses an object that writes it twice. The readers
of a field differ in what they take for a field that is not written.
-/
namespace FabricTopology.Json

/-- What is written for a field: a value, no member in an object, or nothing because an array is too
    short. -/
inductive Slot where
  | given (j : Json)
  | omitted
  | cut

/-- What is written for the field at a position with the given names. -/
def slot? (position : Nat) (names : List String) : Json → Option Slot
  | obj members => match members.filter fun m => names.contains m.1 with
    | [] => some .omitted
    | [m] => some (.given m.2)
    | _ => none
  | arr items => match items[position]? with
    | some j => some (.given j)
    | none => some .cut
  | _ => none

/-- An object, or an array of no more than `count` fields. -/
def isRecord (count : Nat) : Json → Bool
  | obj _ => true
  | arr items => items.length ≤ count
  | _ => false

variable {α : Type}

/-- A field that has to be written. -/
def required (read? : Json → Option α) (position : Nat) (names : List String) (j : Json) :
    Option α := do
  match ← j.slot? position names with
  | .given v => read? v
  | _ => none

/-- A field that takes a value of its own when it is not written. -/
def defaulted (value : α) (read? : Json → Option α) (position : Nat) (names : List String)
    (j : Json) : Option α := do
  match ← j.slot? position names with
  | .given v => read? v
  | _ => some value

/-- A value or null. -/
def nullable (read? : Json → Option α) : Json → Option (Option α)
  | null => some none
  | j => (read? j).map some

/-- A field that may be null or not written. -/
def optional (read? : Json → Option α) : Nat → List String → Json → Option (Option α) :=
  defaulted none (nullable read?)

/-- A field that may be null, and not written in an object. -/
def optionalMember (read? : Json → Option α) (position : Nat) (names : List String) (j : Json) :
    Option (Option α) := do
  match ← j.slot? position names with
  | .given v => nullable read? v
  | .omitted => some none
  | .cut => none

/-- Null. -/
def isNull : Json → Bool
  | null => true
  | _ => false

/-- Null or an object without members. -/
def isVacant : Json → Bool
  | null => true
  | obj [] => true
  | _ => false

/-- The name of an alternative without content: a text, or an object whose only member has that name
    and a value that counts as no content. -/
def alternativeBut? (isNothing : Json → Bool) : Json → Option String
  | str s => some s
  | obj [(name, content)] => if isNothing content then some name else none
  | _ => none

/-- The name of an alternative where null alone counts as no content. -/
def alternative? : Json → Option String := alternativeBut? isNull

/-- The name of an alternative in a value that was kept for later reading; an empty object counts as
    no content there too. -/
def keptAlternative? : Json → Option String := alternativeBut? isVacant

end FabricTopology.Json
