import FabricTopology.Decimal
import FabricTopology.Json.Value
import FabricTopology.Text.Numeral

/-!
JSON values to JSON text, in one line (`compact`) or with every item and member on a line of its
own, two spaces further in than its array or object (`pretty`). Empty arrays and objects stay on
their line, and only quotes, backslashes and control characters are escaped.
-/
namespace FabricTopology.Json
open FabricTopology.Decimal

/-- A character inside a quoted text. -/
def escape (c : Char) : List Char :=
  if c = '"' then ['\\', '"']
  else if c = '\\' then ['\\', '\\']
  else if c = '\x08' then ['\\', 'b']
  else if c = '\x0c' then ['\\', 'f']
  else if c = '\n' then ['\\', 'n']
  else if c = '\r' then ['\\', 'r']
  else if c = '\t' then ['\\', 't']
  else if c.toNat < 0x20 then '\\' :: 'u' :: Text.hexText 4 c.toNat
  else [c]

/-- A quoted text. -/
def quote (s : String) : List Char := '"' :: s.toList.flatMap escape ++ ['"']

/-- A value that is neither an array nor an object. -/
def atomText : Json → List Char
  | bool b => (if b then "true" else "false").toList
  | int n => integerText n
  | float x => if x.isFinite then finiteText x else "null".toList
  | str s => quote s
  | _ => "null".toList

/-- The break before an item that stands `depth` levels in. -/
def newLine (depth : Nat) : List Char := '\n' :: List.replicate (2 * depth) ' '

/-- The parts between an opening and a closing bracket: `gap` before each, `last` before the closing
    one. -/
def enclose (start close : Char) (gap last : List Char) (parts : List (List Char)) : List Char :=
  match parts with
  | [] => [start, close]
  | p :: ps => start :: (gap ++ p ++ ps.flatMap fun q => ',' :: (gap ++ q)) ++ last ++ [close]

mutual

/-- A value in one line. -/
def compactText : Json → List Char
  | arr items => enclose '[' ']' [] [] (compactItems items)
  | obj members => enclose '\x7b' '\x7d' [] [] (compactMembers members)
  | j => atomText j

/-- Every item in one line. -/
def compactItems : List Json → List (List Char)
  | [] => []
  | j :: rest => compactText j :: compactItems rest

/-- Every member in one line. -/
def compactMembers : List (String × Json) → List (List Char)
  | [] => []
  | (name, j) :: rest => (quote name ++ ':' :: compactText j) :: compactMembers rest

end

mutual

/-- A value over several lines, its own brackets `depth` levels in. -/
def prettyText (depth : Nat) : Json → List Char
  | arr items =>
    enclose '[' ']' (newLine (depth + 1)) (newLine depth) (prettyItems (depth + 1) items)
  | obj members =>
    enclose '\x7b' '\x7d' (newLine (depth + 1)) (newLine depth) (prettyMembers (depth + 1) members)
  | j => atomText j

/-- Every item over several lines. -/
def prettyItems (depth : Nat) : List Json → List (List Char)
  | [] => []
  | j :: rest => prettyText depth j :: prettyItems depth rest

/-- Every member over several lines. -/
def prettyMembers (depth : Nat) : List (String × Json) → List (List Char)
  | [] => []
  | (name, j) :: rest =>
    (quote name ++ ':' :: ' ' :: prettyText depth j) :: prettyMembers depth rest

end

/-- The text of a value in one line. -/
def compact (j : Json) : String := String.ofList (compactText j)

/-- The text of a value over several lines. -/
def pretty (j : Json) : String := String.ofList (prettyText 0 j)

end FabricTopology.Json
