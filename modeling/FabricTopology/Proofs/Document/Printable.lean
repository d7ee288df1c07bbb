import FabricTopology.Proofs.Document.Framing
import FabricTopology.Proofs.Yaml.Shown

/-!
Whether a document is made of characters that YAML allows. Every character that could end a line is escaped, and with
those all others that YAML does not print, save U+FFFE and U+FFFF: these stay as they are, so a document is printable
exactly if no text that it shows holds one of the two (`printable_iff`).
-/
namespace FabricTopology

namespace Yaml
open Layout

/-- The characters that YAML allows in a document, without the byte order mark. -/
def Printable (c : Char) : Prop :=
  c.toNat = 0x9 ∨ c.toNat = 0xA ∨ c.toNat = 0xD ∨ (0x20 ≤ c.toNat ∧ c.toNat ≤ 0x7E) ∨ c.toNat = 0x85 ∨
    (0xA0 ≤ c.toNat ∧ c.toNat ≤ 0xD7FF) ∨ (0xE000 ≤ c.toNat ∧ c.toNat ≤ 0xFFFD ∧ c.toNat ≠ 0xFEFF) ∨
    (0x10000 ≤ c.toNat ∧ c.toNat ≤ 0x10FFFF)

instance (c : Char) : Decidable (Printable c) := inferInstanceAs (Decidable (_ ∨ _))

/-- The two characters at the end of the basic plane. -/
def Noncharacter (c : Char) : Prop := c = '\uFFFE' ∨ c = '\uFFFF'

instance (c : Char) : Decidable (Noncharacter c) := inferInstanceAs (Decidable (_ ∨ _))

theorem noncharacter_iff {c : Char} : Noncharacter c ↔ c.toNat = 0xFFFE ∨ c.toNat = 0xFFFF := by
  rw [Noncharacter, ← Char.toNat_inj, ← Char.toNat_inj]
  rfl

theorem Noncharacter.foreign {c : Char} (last : Noncharacter c) : Foreign c := by
  rcases last with rfl | rfl <;> exact ⟨by decide, by decide⟩

theorem Noncharacter.not_printable {c : Char} (last : Noncharacter c) : ¬ Printable c := by
  rcases last with rfl | rfl <;> decide

/-- A character that needs no escape is printable or one of the two. -/
theorem printable_or_noncharacter {c : Char} (whole : breaksLine c = false) : Printable c ∨ Noncharacter c := by
  have valid : c.toNat < 0xD800 ∨ 0xDFFF < c.toNat ∧ c.toNat < 0x110000 := c.valid
  simp only [breaksLine, Bool.or_eq_false_iff, Bool.and_eq_false_imp, decide_eq_true_eq, decide_eq_false_iff_not,
    beq_eq_false_iff_ne] at whole
  rw [noncharacter_iff, Printable]
  omega

/-! ### Headers -/

/-- The texts that a header shows. -/
def Header.texts (h : Header) : List String :=
  [h.title, h.network, h.runtime] ++ h.consensus.toList ++ h.channel.toList ++ h.notes ++ [h.reference]

section
variable {c : Char} (foreign : Foreign c)
include foreign

theorem Foreign.mem_comment (s : String) : c ∈ comment s ↔ c ∈ s.toList := by
  have space : c ≠ ' ' := foreign.ne (by decide)
  rw [comment, List.mem_map]
  constructor
  · rintro ⟨d, member, same⟩
    split at same
    · exact absurd same.symm space
    · exact same ▸ member
  · intro member
    exact ⟨c, member, by rw [foreign.whole, if_neg Bool.false_ne_true]⟩

/-- A line of a header shows the text that it is about. -/
theorem Foreign.mem_said (label s : String) (ascii : label.toList.all (fun d => decide (d.toNat ≤ 0x7E)) = true) :
    c ∈ "# ".toList ++ label.toList ++ comment s ↔ c ∈ s.toList := by
  have mark : c ∉ "# ".toList := by simp [foreign.ne (d := '#') (by decide), foreign.ne (d := ' ') (by decide)]
  have free : c ∉ label.toList := fun member =>
    foreign.ne (by simpa using List.all_eq_true.mp ascii c member) rfl
  rw [List.mem_append, List.mem_append, foreign.mem_comment]
  simp only [mark, free, or_self, false_or]

theorem Foreign.occurs_said (label : String) (ss : List String)
    (ascii : label.toList.all (fun d => decide (d.toNat ≤ 0x7E)) = true) :
    Occurs c (ss.map fun s => "# ".toList ++ label.toList ++ comment s) ↔ Among c ss := by
  simp only [Occurs, Among, List.mem_map, exists_exists_and_eq_and, foreign.mem_said label _ ascii]

theorem Foreign.occurs_lines (h : Header) : Occurs c h.lines ↔ Among c h.texts := by
  have mark : c ∉ "#".toList := by simp [foreign.ne (d := '#') (by decide)]
  simp only [Header.lines, Header.texts, Option.toList_map, occurs_append, occurs_cons, among_append, among_cons,
    foreign.mem_said "" _ rfl, foreign.mem_said "Network: " _ rfl, foreign.mem_said "Generated for " _ rfl,
    foreign.mem_said "Reference: " _ rfl, foreign.occurs_said "Consensus: " _ rfl, foreign.occurs_said "Channel: " _ rfl,
    foreign.occurs_said "" _ rfl, mark, occurs_nil, among_nil, false_or]

/-- A character beyond ASCII that needs no escape is in a document exactly if it is in a text of its header or in a
    text that its tree shows. -/
theorem Foreign.mem_document (h : Header) (body : Tree) :
    c ∈ (document h body).toList ↔ Among c (h.texts ++ body.shown) := by
  rw [toList_document, foreign.mem_unlines, occurs_append, occurs_cons, foreign.occurs_lines, foreign.occurs_block,
    among_append, or_iff_right List.not_mem_nil]

end

/-! ### Documents -/

/-- No text holds one of the two characters that YAML does not print and the writer does not escape. -/
def Clean (texts : List String) : Prop := ∀ s ∈ texts, ∀ c ∈ s.toList, ¬ Noncharacter c

/-- The characters of a document are printable, save the two. -/
theorem printable_or_of_mem {h : Header} {body : Tree} {c : Char} (member : c ∈ (document h body).toList) :
    Printable c ∨ Noncharacter c := by
  have framed := framed_document h body
  rw [toList_document, unlines, List.mem_flatMap] at member
  obtain ⟨line, stands, inside⟩ := member
  rcases List.mem_append.mp inside with content | ending
  · have cut : line ∈ Text.segments '\n' (document h body).toList := by
      rw [framed.lines]
      exact List.mem_append_left _ stands
    exact printable_or_noncharacter (framed.whole line cut c content)
  · rw [List.mem_singleton.mp ending]
    exact .inl (by decide)

theorem printable_document_iff (h : Header) (body : Tree) :
    (∀ c ∈ (document h body).toList, Printable c) ↔ Clean (h.texts ++ body.shown) := by
  constructor
  · intro printable s text c inside last
    exact last.not_printable (printable c ((last.foreign.mem_document h body).mpr ⟨s, text, inside⟩))
  · intro clean c member
    rcases printable_or_of_mem member with printable | last
    · exact printable
    · obtain ⟨s, text, inside⟩ := (last.foreign.mem_document h body).mp member
      exact absurd last (clean s text c inside)

end Yaml

/-- Every character of a document is printable or one of U+FFFE and U+FFFF, and all of them are printable exactly if no
    text of the header and no text that the tree shows holds one of the two; so it is with the artifacts of a network. -/
theorem printable_iff (h : Yaml.Header) (body : Yaml.Tree) (n : Network) (a : Artifact) :
    (∀ c ∈ (Yaml.document h body).toList, Yaml.Printable c ∨ Yaml.Noncharacter c) ∧
    ((∀ c ∈ (Yaml.document h body).toList, Yaml.Printable c) ↔ Yaml.Clean (h.texts ++ body.shown)) ∧
    ((∀ c ∈ (n.artifacts.get a).toList, Yaml.Printable c) ↔
      Yaml.Clean ((a.header (Topology.ofNetwork n)).texts ++ (a.tree (Topology.ofNetwork n)).shown)) := by
  refine ⟨fun c => Yaml.printable_or_of_mem, Yaml.printable_document_iff h body, ?_⟩
  rw [← Yaml.printable_document_iff, ← Artifact.get_artifacts]
  rfl

/-- The header of every artifact names the network. -/
theorem Artifact.name_mem_texts (n : Network) (a : Artifact) : n.name ∈ (a.header (Topology.ofNetwork n)).texts := by
  cases a <;> exact .tail _ (.head _)

/-- A network's name may hold one of the two, and then it stands in the artifacts as it is. -/
theorem unprintable_name :
    '\uFFFE' ∈ ((Network.named "\uFFFE").artifacts.get .configtx).toList ∧ ¬ Yaml.Printable '\uFFFE' := by
  have last : Yaml.Noncharacter '\uFFFE' := .inl rfl
  refine ⟨?_, last.not_printable⟩
  rw [Network.artifacts, Artifact.get_artifacts, last.foreign.mem_document]
  exact ⟨"\uFFFE", List.mem_append_left _ (Artifact.name_mem_texts (Network.named "\uFFFE") .configtx), by decide⟩

end FabricTopology
