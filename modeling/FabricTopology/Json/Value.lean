/-!
JSON values. An object keeps its members in the order they were written, repeated names included.
`void` stands for a value that is written correctly but denotes nothing: a number too large for a
double, or a text with half a surrogate pair. It may stand where nobody looks and nowhere else.
-/
namespace FabricTopology

/-- A JSON value. A number is an integer when it is written as one of at most 64 bits. -/
inductive Json where
  | null
  | bool (b : Bool)
  | int (n : Int)
  | float (x : Float)
  | str (s : String)
  | arr (items : List Json)
  | obj (members : List (String × Json))
  | void

namespace Json

mutual

/-- No `void` in it, and at most so many arrays and objects inside one another. -/
def isReadable : Nat → Json → Bool
  | _, void => false
  | 0, arr _ => false
  | 0, obj _ => false
  | depth + 1, arr items => areReadable depth items
  | depth + 1, obj members => membersReadable depth members
  | _, _ => true

/-- `isReadable` of every item. -/
def areReadable (depth : Nat) : List Json → Bool
  | [] => true
  | j :: rest => isReadable depth j && areReadable depth rest

/-- `isReadable` of every member. -/
def membersReadable (depth : Nat) : List (String × Json) → Bool
  | [] => true
  | (_, j) :: rest => isReadable depth j && membersReadable depth rest

end

/-- A double as a number, or null when it is not finite. -/
def ofFloat (x : Float) : Json := if x.isFinite then float x else null

/-- Texts as an array. -/
def ofStrings (ss : List String) : Json := arr (ss.map str)

/-- An object with the members whose value is present. -/
def ofMembers (members : List (String × Option Json)) : Json :=
  obj (members.filterMap fun m => m.2.map fun j => (m.1, j))

/-- The value of a member, the first of its name. -/
def member? (j : Json) (name : String) : Option Json :=
  match j with
  | obj members => (members.find? (·.1 == name)).map (·.2)
  | _ => none

/-- A text. -/
def str? : Json → Option String
  | str s => some s
  | _ => none

/-- A truth value. -/
def bool? : Json → Option Bool
  | bool b => some b
  | _ => none

/-- An integer that is not negative. -/
def nat? : Json → Option Nat
  | int n => if 0 ≤ n then some n.toNat else none
  | _ => none

/-- An integer of at most 16 bits. -/
def word16? (j : Json) : Option UInt16 := do
  let n ← j.nat?
  if n < UInt16.size then some (UInt16.ofNat n) else none

/-- An integer of at most 8 bits. -/
def word8? (j : Json) : Option UInt8 := do
  let n ← j.nat?
  if n < UInt8.size then some (UInt8.ofNat n) else none

/-- A number, integer or not. -/
def float? : Json → Option Float
  | float x => some x
  | int n => some (Float.ofInt n)
  | _ => none

/-- An array whose items are all of one type. -/
def list? {α : Type} (item? : Json → Option α) : Json → Option (List α)
  | arr items => items.mapM item?
  | _ => none

end Json

end FabricTopology
