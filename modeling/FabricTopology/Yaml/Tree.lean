import FabricTopology.Table

/-!
YAML documents as trees. Mappings keep their entries in order and have any trees as keys; two keys
that are the `same` are one. A tag does not take part in the text of a tree, but tells keys apart.
-/
namespace FabricTopology.Yaml

/-- A node of a document. -/
inductive Tree where
  | null
  | bool (b : Bool)
  | int (n : Int)
  | float (x : Float)
  | str (s : String)
  | seq (items : List Tree)
  | map (entries : List (Tree × Tree))
  | tagged (tag : String) (value : Tree)

namespace Tree

/-- A tag without the mark in front of it, unless it is nothing but that mark. -/
def bareTag (tag : String) : List Char :=
  match tag.toList with
  | '!' :: c :: rest => c :: rest
  | cs => cs

/-- Equality of doubles that takes not-a-number for equal to itself. -/
def sameFloat (x y : Float) : Bool := (x.isNaN && y.isNaN) || x == y

mutual

/-- Equality of trees: entries in any order, numbers by value, integers apart from doubles. -/
def same : Tree → Tree → Bool
  | null, null => true
  | bool a, bool b => a == b
  | int m, int n => m == n
  | float x, float y => sameFloat x y
  | str s, str t => s == t
  | seq as, seq bs => sameItems as bs
  | map as, map bs => as.length == bs.length && sameEntries as bs
  | tagged s a, tagged t b => bareTag s == bareTag t && same a b
  | _, _ => false

/-- Item by item. -/
def sameItems : List Tree → List Tree → Bool
  | [], [] => true
  | a :: as, b :: bs => same a b && sameItems as bs
  | _, _ => false

/-- Every entry on the left stands on the right. -/
def sameEntries : List (Tree × Tree) → List (Tree × Tree) → Bool
  | [], _ => true
  | (k, v) :: as, bs => bs.any (fun e => same k e.1 && same v e.2) && sameEntries as bs

end

instance : BEq Tree := ⟨same⟩

/-- The mapping of entries put one after the other. -/
def ofEntries (entries : List (Tree × Tree)) : Tree := map (Table.ofRows entries)

/-- A mapping with texts as keys, in the order given. -/
def ofFields (fields : List (String × Tree)) : Tree := map (fields.map fun f => (str f.1, f.2))

/-- A sequence of texts. -/
def ofStrings (ss : List String) : Tree := seq (ss.map str)

end Tree

end FabricTopology.Yaml
