import FabricTopology.PeerCommand
import FabricTopology.Proofs.Naming

/-!
The lines of a script. Those that the generator writes are fixed for each command, and all but the last one are
continued. The texts that it puts into them are not looked at: the script is one command over its lines exactly if none
of these texts holds a line feed (`continued_scripts`).
-/
namespace FabricTopology

/-- How many lines the script of a command is to have. -/
def PeerCommand.lineCount : PeerCommand → Nat
  | createChannel => 5
  | joinChannel => 2
  | installChaincode => 2
  | approveChaincode => 8
  | commitChaincode => 9
  | invokeChaincode => 8

/-- The texts of a topology that the script of a command is made of. -/
def Topology.commandTexts (t : Topology) : PeerCommand → List String
  | .createChannel => [t.ordererDomain, t.channelName]
  | .joinChannel => [t.channelName]
  | .installChaincode => [t.peerContext.chaincode]
  | .approveChaincode =>
    [t.ordererDomain, t.channelName, t.peerContext.chaincode, t.peerContext.chaincodeVersion]
  | .commitChaincode =>
    [t.ordererDomain, t.channelName, t.peerContext.chaincode, t.peerContext.chaincodeVersion, t.peerContext.orgDomain]
  | .invokeChaincode => [t.ordererDomain, t.channelName, t.peerContext.chaincode, t.peerContext.orgDomain]

/-- One command over some lines: a backslash continues every line but the last one. -/
structure Continued (count : Nat) (script : List Char) : Prop where
  length : (Text.segments '\n' script).length = count
  continued : ∀ line ∈ (Text.segments '\n' script).dropLast, line.getLast? = some '\\'
  ended : ∀ line ∈ (Text.segments '\n' script).getLast?, line.getLast? ≠ some '\\'

/-! ### Lines that are joined -/

theorem continued_line {line : List Char} (whole : '\n' ∉ line) (ended : line.getLast? ≠ some '\\') :
    Continued 1 line := by
  have alone := Text.segments_of_notMem whole
  refine ⟨by rw [alone]; rfl, by simp [alone], ?_⟩
  rw [alone]
  rintro _ ⟨⟩
  exact ended

theorem Continued.cons {line rest : List Char} {count : Nat} (whole : '\n' ∉ line)
    (continued : line.getLast? = some '\\') (more : Continued count rest) :
    Continued (count + 1) (line ++ '\n' :: rest) := by
  have cut := Text.segments_append_cons whole rest
  have some := Text.segments_ne_nil '\n' rest
  refine ⟨?_, ?_, ?_⟩
  · rw [cut, List.length_cons, more.length]
  · rw [cut, List.dropLast_cons_of_ne_nil some, List.forall_mem_cons]
    exact ⟨continued, more.continued⟩
  · rw [cut, List.getLast?_cons_of_ne_nil some]
    exact more.ended

/-- What stands between the lines of a command. -/
def continuation : List Char := " \\\n  ".toList

theorem count_continuation : continuation.count '\n' = 1 := by decide

/-- Unbroken lines are continued over as many lines. The indentation is that which the line before leaves. -/
theorem continued_joined {indent : List Char} {lines : List (List Char)} (blank : '\n' ∉ indent) (some : lines ≠ [])
    (whole : ∀ line ∈ lines, '\n' ∉ line)
    (ended : ∀ line ∈ lines.getLast?, ∃ c, line.getLast? = Option.some c ∧ c ≠ '\\') :
    Continued lines.length (indent ++ continuation.intercalate lines) := by
  induction lines generalizing indent with
  | nil => exact absurd rfl some
  | cons line lines ih =>
    rw [List.forall_mem_cons] at whole
    have start : '\n' ∉ indent ++ line := by simp [blank, whole.1]
    cases lines with
    | nil =>
      rw [List.intercalate_singleton]
      obtain ⟨c, last, other⟩ := ended line rfl
      refine continued_line start ?_
      rw [List.getLast?_append, last, Option.some_or, ne_eq, Option.some_inj]
      exact other
    | cons next lines =>
      have cut : indent ++ continuation.intercalate (line :: next :: lines) =
          (indent ++ line ++ [' ', '\\']) ++ '\n' :: ([' ', ' '] ++ continuation.intercalate (next :: lines)) := by
        simp [List.intercalate_cons_cons, continuation]
      rw [cut]
      exact .cons (by simpa using start) (by simp)
        (ih (by decide) (List.cons_ne_nil next lines) whole.2 ended)

/-- The line feeds of a script are those between its lines and those in them. -/
theorem count_joined (line : List Char) (lines : List (List Char)) :
    (continuation.intercalate (line :: lines)).count '\n' = (line :: lines).flatten.count '\n' + lines.length := by
  induction lines generalizing line with
  | nil => simp
  | cons next lines ih =>
    rw [List.intercalate_cons_cons, List.append_assoc, List.count_append, List.count_append, ih, count_continuation,
      List.flatten_cons (l := line), List.count_append, List.length_cons]
    omega

/-- Lines that are continued over as many lines are unbroken. -/
theorem Continued.whole {lines : List (List Char)} (some : lines ≠ [])
    (continued : Continued lines.length (continuation.intercalate lines)) : ∀ line ∈ lines, '\n' ∉ line := by
  obtain ⟨line, rest, rfl⟩ := List.exists_cons_of_ne_nil some
  have count := continued.length
  rw [Text.length_segments, count_joined, List.length_cons] at count
  have none : '\n' ∉ (line :: rest).flatten := List.count_eq_zero.mp (by omega)
  exact fun part listed member => none (List.mem_flatten.mpr ⟨part, listed, member⟩)

/-! ### Texts without line feeds -/

/-- No line feed breaks the text. -/
def OneLine (s : String) : Prop := '\n' ∉ s.toList

instance (s : String) : Decidable (OneLine s) := inferInstanceAs (Decidable ('\n' ∉ s.toList))

theorem oneLine_ofList {cs : List Char} (whole : '\n' ∉ cs) : OneLine (String.ofList cs) := by
  rwa [OneLine, String.toList_ofList]

/-- The literals in a line are cleared by this one, with `oneLine_ofList` to show what it asks for: to decide it on the
    list of characters is far faster than on the text. -/
theorem oneLine_plain {s : String} (plain : OneLine s) : OneLine s ↔ True := iff_true_intro plain

theorem oneLine_append {s t : String} : OneLine (s ++ t) ↔ OneLine s ∧ OneLine t := by
  rw [OneLine, String.toList_append, List.mem_append, not_or]
  rfl

theorem oneLine_number (n : Nat) : OneLine (toString n) := by
  intro member
  have digit : '\n'.isDigit = true := Decimal.isDigit_of_mem_digits (n := n) (by simpa [Decimal.digits] using member)
  exact absurd digit (by decide)

theorem oneLine_address {host : String} {port : UInt16} : OneLine (Naming.address host port) ↔ OneLine host := by
  have colon : OneLine ":" := by decide
  simp only [Naming.address, oneLine_append, colon, oneLine_number, and_true]

theorem oneLine_ordererHost {index : Nat} {domain : String} :
    OneLine (Naming.ordererHost index domain) ↔ OneLine domain := by
  have hostname : OneLine (Naming.ordererHostname index) := by
    rw [Naming.ordererHostname]
    split
    · decide
    · exact oneLine_append.mpr ⟨by decide, oneLine_number index⟩
  have dot : OneLine "." := by decide
  simp only [Naming.ordererHost, oneLine_append, hostname, dot, true_and]

theorem oneLine_peerHost {index : Nat} {domain : String} :
    OneLine (Naming.peerHost index domain) ↔ OneLine domain := by
  have peer : OneLine "peer" := by decide
  have dot : OneLine "." := by decide
  simp only [Naming.peerHost, oneLine_append, peer, oneLine_number, dot, true_and]

/-! ### The lines of a command -/

namespace PeerContext
variable (c : PeerContext)

theorem length_lines (command : PeerCommand) : (c.lines command).length = command.lineCount := by
  cases command <;> rfl

theorem toList_script (command : PeerCommand) :
    (c.script command).toList = continuation.intercalate ((c.lines command).map String.toList) :=
  String.toList_intercalate

end PeerContext

/-- The text ends with something else than a backslash. -/
def EndsLine (s : String) : Prop := ∃ d, s.toList.getLast? = some d ∧ d ≠ '\\'

theorem EndsLine.append {t : String} (s : String) (ends : EndsLine t) : EndsLine (s ++ t) := by
  obtain ⟨d, last, other⟩ := ends
  refine ⟨d, ?_, other⟩
  rw [String.toList_append, List.getLast?_append, last, Option.some_or]

/-- Each command ends with the name of a file. -/
theorem PeerContext.endsLine_lines (c : PeerContext) (command : PeerCommand) :
    ∀ line ∈ (c.lines command).getLast?, EndsLine line := by
  have block : EndsLine ".block" := ⟨'k', by decide⟩
  have package : EndsLine ".tar.gz" := ⟨'z', by decide⟩
  have ordererCa : EndsLine c.tlsOption := .append _ (.append _ ⟨'m', by decide⟩)
  have peerCa : EndsLine ("--tlsRootCertFiles " ++ c.peerRootCert) := .append _ (.append _ ⟨'t', by decide⟩)
  cases command with
  | createChannel => rintro _ ⟨⟩; exact ordererCa
  | joinChannel => rintro _ ⟨⟩; exact block.append _
  | installChaincode => rintro _ ⟨⟩; exact package.append _
  | approveChaincode => rintro _ ⟨⟩; exact ordererCa
  | commitChaincode => rintro _ ⟨⟩; exact peerCa
  | invokeChaincode => rintro _ ⟨⟩; exact peerCa

/-- The script of a command is continued over its lines exactly if none of these has a line feed. -/
theorem PeerContext.continued_script_iff (c : PeerContext) (command : PeerCommand) :
    Continued command.lineCount (c.script command).toList ↔ ∀ line ∈ c.lines command, OneLine line := by
  have count : ((c.lines command).map String.toList).length = command.lineCount := by
    rw [List.length_map, c.length_lines]
  have some : (c.lines command).map String.toList ≠ [] := by
    cases command <;> exact List.cons_ne_nil _ _
  have unbroken : (∀ line ∈ c.lines command, OneLine line) ↔
      ∀ line ∈ (c.lines command).map String.toList, '\n' ∉ line := by
    rw [List.forall_mem_map]
    rfl
  rw [toList_script, ← count, unbroken]
  refine ⟨fun continued => continued.whole some, fun whole => ?_⟩
  refine continued_joined (List.not_mem_nil (a := '\n')) some whole ?_
  rw [List.getLast?_map]
  rintro _ last
  obtain ⟨line, ends, rfl⟩ := Option.map_eq_some_iff.mp last
  exact c.endsLine_lines command line ends

/-! ### The scripts of a topology -/

namespace Topology
variable (t : Topology)

theorem oneLine_ordererAddress : OneLine t.peerContext.ordererAddress ↔ OneLine t.ordererDomain :=
  oneLine_address.trans oneLine_ordererHost

theorem oneLine_peerAddress : OneLine t.peerContext.peerAddress ↔ OneLine t.peerContext.orgDomain :=
  oneLine_address.trans oneLine_peerHost

theorem oneLine_tlsOption : OneLine t.peerContext.tlsOption ↔ OneLine t.ordererDomain := by
  have host : OneLine t.peerContext.ordererHost ↔ OneLine t.ordererDomain := oneLine_ordererHost
  have domain : t.peerContext.ordererDomain = t.ordererDomain := rfl
  simp (disch := (refine oneLine_ofList ?_; decide)) only [PeerContext.tlsOption, PeerContext.ordererCa,
    PeerContext.cryptoRoot, oneLine_append, oneLine_plain, host, domain, true_and, and_true, and_self]

theorem oneLine_peerRootCert : OneLine t.peerContext.peerRootCert ↔ OneLine t.peerContext.orgDomain := by
  have host : OneLine t.peerContext.peerHost ↔ OneLine t.peerContext.orgDomain := oneLine_peerHost
  simp (disch := (refine oneLine_ofList ?_; decide)) only [PeerContext.peerRootCert, PeerContext.cryptoRoot,
    oneLine_append, oneLine_plain, host, true_and, and_true, and_self]

/-- The lines of a command are unbroken exactly if the texts in them are. -/
theorem oneLine_lines_iff (command : PeerCommand) :
    (∀ line ∈ t.peerContext.lines command, OneLine line) ↔ ∀ s ∈ t.commandTexts command, OneLine s := by
  have channel : t.peerContext.channel = t.channelName := rfl
  cases command <;>
    simp (disch := (refine oneLine_ofList ?_; decide)) only [PeerContext.lines, PeerContext.definitionOptions,
      PeerContext.peerOptions, commandTexts, List.cons_append, List.nil_append, List.forall_mem_cons, oneLine_append,
      oneLine_plain, oneLine_ordererAddress, oneLine_peerAddress, oneLine_tlsOption, oneLine_peerRootCert, channel,
      true_and, and_true] <;>
    grind

/-- The name of a network brings no line feed into the domain of its orderers, since only its words come into it. -/
theorem oneLine_ordererDomain (name : String) : OneLine (Naming.ordererDomain name) := by
  intro member
  exact absurd (Naming.solid_ordererDomain name '\n' member) (by decide)

/-- The script of a command is one command over the lines that it is to have exactly if none of the texts in it has a
    line feed. The domain of the orderers has none where it is made from the name of a network. -/
theorem continued_scripts (t : Topology) (command : PeerCommand) :
    (Continued command.lineCount (t.peerScript command).toList ↔ ∀ s ∈ t.commandTexts command, '\n' ∉ s.toList) ∧
    ∀ name, t.ordererDomain = Naming.ordererDomain name → '\n' ∉ t.ordererDomain.toList := by
  refine ⟨(t.peerContext.continued_script_iff command).trans (t.oneLine_lines_iff command), fun name made => ?_⟩
  rw [made]
  exact oneLine_ordererDomain name

/-- A network whose channel's name goes over two lines. -/
def brokenChannel : Network := { Network.named "net" with channelName := "a\nb" }

/-- The second line of the channel's name is a line of its own, and the one before it is not continued. -/
theorem broken_script : ¬ Continued PeerCommand.joinChannel.lineCount
    ((ofNetwork brokenChannel).peerScript .joinChannel).toList := by
  rw [peerScript, PeerContext.continued_script_iff, oneLine_lines_iff]
  decide

end Topology

end FabricTopology
