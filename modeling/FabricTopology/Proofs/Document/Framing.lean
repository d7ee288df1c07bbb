import FabricTopology.Compilation
import FabricTopology.Proofs.Yaml.Lines
import FabricTopology.Proofs.Yaml.Unambiguous
import Mathlib.Data.List.Forall2

/-!
How a document is framed: remarks, an empty line and the lines of its tree, and nothing else. The texts in
the header and in the tree are kept within the lines that the writer gives them, so whatever the names of a
network hold, none of them begins a line of a document (`framed_texts`).

The first line of an entry is that of its key, and everything else that belongs to the entry stands at least two columns
further in, so a reader who looks for lines that begin in the first column finds the keys of the outermost mapping, in
their order and nothing else (`sections_in_order`). For the documents of a network these are the same for all networks.
-/
namespace FabricTopology

namespace Yaml
open Layout

/-- A line that is a comment. -/
structure Remark (line : Line) : Prop where
  unbroken : Unbroken line
  mark : line.head? = some '#'

theorem unbroken_comment (s : String) : Unbroken (comment s) := by
  intro c member
  obtain ⟨d, _, rfl⟩ := List.mem_map.mp member
  by_cases breaks : breaksLine d
  · rw [if_pos breaks]
    decide
  · rw [if_neg breaks]
    simpa using breaks

theorem remark_comment {label : String} (unbroken : Unbroken label.toList) (s : String) :
    Remark ("# ".toList ++ label.toList ++ comment s) := by
  have mark : Unbroken "# ".toList := by decide
  exact ⟨(mark.append unbroken).append (unbroken_comment s), rfl⟩

/-- Every line of a header is a remark. -/
theorem remark_of_mem_lines (h : Header) : ∀ line ∈ h.lines, Remark line := by
  have title : Unbroken "".toList := by decide
  have network : Unbroken "Network: ".toList := by decide
  have runtime : Unbroken "Generated for ".toList := by decide
  have consensus : Unbroken "Consensus: ".toList := by decide
  have channel : Unbroken "Channel: ".toList := by decide
  have reference : Unbroken "Reference: ".toList := by decide
  unfold Header.lines
  simp only [List.forall_mem_append, List.forall_mem_cons, List.forall_mem_map, Option.toList_map, List.not_mem_nil,
    false_imp_iff, implies_true, and_true]
  refine ⟨⟨⟨⟨⟨?_, ?_, ?_⟩, ?_⟩, ?_⟩, ?_⟩, ?_, ?_⟩
  · exact remark_comment title _
  · exact remark_comment network _
  · exact remark_comment runtime _
  · exact fun s _ => remark_comment consensus s
  · exact fun s _ => remark_comment channel s
  · exact fun s _ => remark_comment title s
  · exact ⟨by decide, rfl⟩
  · exact remark_comment reference _

theorem length_lines (h : Header) :
    h.lines.length = 5 + h.consensus.toList.length + h.channel.toList.length + h.notes.length := by
  simp only [Header.lines, List.length_append, List.length_cons, List.length_nil, List.length_map, Option.toList_map]
  omega

/-! ### Framed texts -/

/-- Cut at its line feeds, the text is made of remarks, an empty line and the lines of the tree. No line of
    the tree is a remark, and no line holds a character that some reader takes for its end. -/
structure Framed (cs : List Char) (remarks : List Line) (body : Tree) : Prop where
  parts : cs = unlines remarks ++ '\n' :: text body
  lines : Text.segments '\n' cs = remarks ++ [] :: block body ++ [[]]
  whole : ∀ line ∈ Text.segments '\n' cs, Unbroken line
  marked : ∀ line ∈ remarks, line.head? = some '#'
  unmarked : ∀ line ∈ block body, opening line ≠ some '#'

theorem toList_document (h : Header) (body : Tree) :
    (document h body).toList = unlines (h.lines ++ [] :: block body) := by
  rw [document, String.toList_ofList, text_eq_unlines, ← List.singleton_append, ← List.append_assoc, unlines_append]
  rfl

theorem framed_document (h : Header) (body : Tree) : Framed (document h body).toList h.lines body := by
  have unbroken : ∀ line ∈ h.lines ++ [] :: block body, Unbroken line := by
    rw [List.forall_mem_append, List.forall_mem_cons]
    exact ⟨fun line member => (remark_of_mem_lines h line member).unbroken, by decide, unbroken_block body⟩
  have cut := segments_unlines unbroken
  rw [← toList_document] at cut
  refine ⟨?_, cut, ?_, ?_, ?_⟩
  · rw [toList_document, unlines_append, unlines_cons, text_eq_unlines, List.nil_append]
  · rw [cut, List.forall_mem_append]
    exact ⟨unbroken, by decide⟩
  · exact fun line member => (remark_of_mem_lines h line member).mark
  · exact fun line member => (sound_block body line member).noComment

end Yaml

/-! ### The documents of a network -/

namespace Artifact
open Document

/-- The header of an artifact. -/
def header (t : Topology) : Artifact → Yaml.Header
  | configtx => channelConfigHeader t.networkName t.consensus t.channelName
  | cryptoConfig => cryptoMaterialHeader t.networkName
  | dockerCompose => containersHeader t.networkName

/-- The tree of an artifact. -/
def tree (t : Topology) : Artifact → Yaml.Tree
  | configtx => channelConfig t.networkName t.consensus t.channelName t.organizations t.orderers
  | cryptoConfig => cryptoMaterial t.networkName t.organizations t.orderers
  | dockerCompose => containers t.networkName t.organizations t.orderers

/-- How many remarks an artifact begins with. -/
def remarks : Artifact → Nat
  | configtx => 7
  | cryptoConfig | dockerCompose => 6

theorem get_artifacts (t : Topology) (a : Artifact) : t.artifacts.get a = Yaml.document (a.header t) (a.tree t) := by
  cases a <;> rfl

theorem length_header (t : Topology) (a : Artifact) : (a.header t).lines.length = a.remarks := by
  cases a <;> rfl

end Artifact

/-- Every document is framed, with one remark for each thing that its header says, and so is every artifact of
    a network, with a number of remarks that the network has no say in. -/
theorem framed_texts :
    (∀ (h : Yaml.Header) (body : Yaml.Tree),
      Yaml.Framed (Yaml.document h body).toList h.lines body ∧
      h.lines.length = 5 + h.consensus.toList.length + h.channel.toList.length + h.notes.length) ∧
    ∀ (n : Network) (a : Artifact),
      let t := Topology.ofNetwork n
      Yaml.Framed (n.artifacts.get a).toList (a.header t).lines (a.tree t) ∧ (a.header t).lines.length = a.remarks := by
  refine ⟨fun h body => ⟨Yaml.framed_document h body, Yaml.length_lines h⟩, fun n a => ?_⟩
  intro t
  have framed := Yaml.framed_document (a.header t) (a.tree t)
  rw [← Artifact.get_artifacts] at framed
  exact ⟨framed, Artifact.length_header t a⟩

/-! ### The sections of a document -/

namespace Yaml
open Layout

/-- The lines in the first column begin with these keys, one each and in this order, and all others begin two columns
    further in or more. -/
structure Sectioned (keys lines : List Line) : Prop where
  heads : List.Forall₂ (fun key line => key ++ [':'] <+: line) keys (lines.filter fun line => ¬ Deep line)
  nested : ∀ line ∈ lines, Deep line → [' ', ' '] <+: line

/-- The lines below the first empty one. -/
def bodyLines (cs : List Char) : List Line := ((linesOf cs).dropWhile fun line => !line.isEmpty).tail

theorem sectioned_entries (column : Nat) (es : List (Tree × Tree)) :
    Sectioned (es.map fun e => keyText e.1) (entries column es) := by
  induction es with
  | nil => exact ⟨.nil, by simp [entries]⟩
  | cons e rest ih =>
    obtain ⟨after, nested, lines, _⟩ := entry_eq_cons column (keyText e.1) e.2
    have head := not_deep_keyLine e.1 after
    have inner : (nested.map (indented 2)).filter (fun line => ¬ Deep line) = [] := by
      simpa using deep_indented nested
    rw [entries, lines]
    constructor
    · rw [List.filter_append, List.filter_cons_of_pos (by simpa using head), inner, List.map_cons]
      exact .cons (List.prefix_append _ _) ih.heads
    · rw [List.forall_mem_append, List.forall_mem_cons, List.forall_mem_map]
      exact ⟨⟨fun deep => absurd deep head, fun line _ _ => List.prefix_append _ _⟩, ih.nested⟩

theorem bodyLines_document (h : Header) (body : Tree) : bodyLines (document h body).toList = block body := by
  have framed := framed_document h body
  rw [bodyLines, linesOf, framed.lines, List.dropLast_concat, List.dropWhile_append_of_pos]
  · rfl
  · intro line member
    have mark := framed.marked line member
    cases line with
    | nil => cases mark
    | cons c rest => rfl

end Yaml

namespace Artifact

/-- The sections of an artifact. -/
def sections : Artifact → List String
  | configtx => ["Organizations", "Capabilities", "Application", "Orderer", "Channel", "Profiles"]
  | cryptoConfig => ["OrdererOrgs", "PeerOrgs"]
  | dockerCompose => ["version", "networks", "services"]

theorem keyText_sections (a : Artifact) : ∀ name ∈ a.sections, Yaml.keyText (.str name) = name.toList := by
  cases a <;> decide

theorem tree_eq (t : Topology) (a : Artifact) : ∃ e es, a.tree t = .map (e :: es) ∧
    (e :: es).map (fun e => Yaml.keyText e.1) = a.sections.map String.toList := by
  have plain := List.map_congr_left (keyText_sections a)
  rw [← plain]
  cases a <;> exact ⟨_, _, rfl, rfl⟩

end Artifact

/-- The lines of a mapping that begin in the first column are those of its keys, in their order, and so are the lines
    of every artifact below its header: those of its sections, whatever the network. -/
theorem sections_in_order :
    (∀ (e : Yaml.Tree × Yaml.Tree) (es : List (Yaml.Tree × Yaml.Tree)),
      Yaml.Sectioned ((e :: es).map fun e => Yaml.keyText e.1)
        (Yaml.Layout.linesOf (Yaml.render (.map (e :: es))).toList)) ∧
    ∀ (n : Network) (a : Artifact),
      Yaml.Sectioned (a.sections.map String.toList) (Yaml.bodyLines (n.artifacts.get a).toList) := by
  refine ⟨fun e es => ?_, fun n a => ?_⟩
  · rw [Yaml.render, String.toList_ofList, Yaml.Layout.linesOf_text]
    exact Yaml.sectioned_entries 0 (e :: es)
  · obtain ⟨e, es, tree, keys⟩ := a.tree_eq (Topology.ofNetwork n)
    rw [Network.artifacts, a.get_artifacts, Yaml.bodyLines_document, tree, ← keys]
    exact Yaml.sectioned_entries 0 (e :: es)

end FabricTopology
