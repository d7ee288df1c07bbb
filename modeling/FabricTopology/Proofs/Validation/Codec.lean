import FabricTopology.Proofs.Json.Rewording
import FabricTopology.Proofs.Json.Text
import FabricTopology.Proofs.Network.Size
import FabricTopology.Validation

/-!
A report is read back from what is written for it, in whatever other way it is written. That on records that can be
counted in 64 bits is legible (`legible_validate`), so it is read back from whatever text is printed of it.
-/
namespace FabricTopology
open Json.Rewording

theorem RuleStatus.reads (x : RuleStatus) : Reads same (.str x.name) RuleStatus.ofJson? x :=
  reads_same (by simp [RuleStatus.ofJson?, Json.alternative?, Json.alternativeBut?, RuleStatus.ofName?_name])

theorem Severity.reads (x : Severity) : Reads same (.str x.name) Severity.ofJson? x :=
  reads_same (by simp [Severity.ofJson?, Json.alternative?, Json.alternativeBut?, Severity.ofName?_name])

namespace RuleResult

def fields : List Field :=
  [⟨"id", [], same⟩,
    ⟨"name", [], same⟩,
    ⟨"status", [], same⟩,
    ⟨"issueCount", [], same⟩]

def rows (r : RuleResult) : List (String × Option Json) :=
  [("id", some (.str r.id)),
    ("name", some (.str r.name)),
    ("status", some (.str r.status.name)),
    ("issueCount", some (.int r.issueCount))]

theorem ofJson?_written (r : RuleResult) {j : Json} (written : Written fields r.rows j) : ofJson? j = some r := by
  have id : j.required Json.str? 0 ["id"] = some r.id := written.required 0 rfl rfl (reads_str r.id)
  have name : j.required Json.str? 1 ["name"] = some r.name := written.required 1 rfl rfl (reads_str r.name)
  have status : j.required RuleStatus.ofJson? 2 ["status"] = some r.status :=
    written.required 2 rfl rfl r.status.reads
  have issueCount : j.required Json.nat? 3 ["issueCount"] = some r.issueCount :=
    written.required 3 rfl rfl (reads_nat r.issueCount)
  simp [ofJson?, written.isRecord, id, name, status, issueCount]

theorem reads (r : RuleResult) : Reads (record fields) r.toJson ofJson? r :=
  fun _ reworded => r.ofJson?_written ⟨by decide, by simp [rows], reworded⟩

theorem self (r : RuleResult) : record fields r.toJson r.toJson :=
  record_self r.rows (by simp [fields, rows, same])

end RuleResult

namespace Issue

def fields : List Field :=
  [⟨"rule", [], same⟩,
    ⟨"type", [], same⟩,
    ⟨"title", [], same⟩,
    ⟨"description", [], same⟩,
    ⟨"nodeId", [], same⟩,
    ⟨"fixable", [], same⟩]

def rows (i : Issue) : List (String × Option Json) :=
  [("rule", some (.str i.rule)),
    ("type", some (.str i.severity.name)),
    ("title", some (.str i.title)),
    ("description", some (.str i.description)),
    ("nodeId", i.nodeId.map .str),
    ("fixable", some (.bool i.fixable))]

theorem ofJson?_written (i : Issue) {j : Json} (written : Written fields i.rows j) : ofJson? j = some i := by
  have rule : j.required Json.str? 0 ["rule"] = some i.rule := written.required 0 rfl rfl (reads_str i.rule)
  have severity : j.required Severity.ofJson? 1 ["type"] = some i.severity :=
    written.required 1 rfl rfl i.severity.reads
  have title : j.required Json.str? 2 ["title"] = some i.title := written.required 2 rfl rfl (reads_str i.title)
  have description : j.required Json.str? 3 ["description"] = some i.description :=
    written.required 3 rfl rfl (reads_str i.description)
  have nodeId : j.optional Json.str? 4 ["nodeId"] = some i.nodeId :=
    written.optional 4 rfl rfl (fun s _ => reads_str s) rfl
  have fixable : j.defaulted false Json.bool? 5 ["fixable"] = some i.fixable :=
    written.defaulted 5 rfl rfl (reads_bool i.fixable)
  simp [ofJson?, written.isRecord, rule, severity, title, description, nodeId, fixable]

theorem reads (i : Issue) : Reads (record fields) i.toJson ofJson? i :=
  fun _ reworded => i.ofJson?_written ⟨by decide, by simp [rows], reworded⟩

theorem self (i : Issue) : record fields i.toJson i.toJson :=
  record_self i.rows (by simp [fields, rows, same])

end Issue

namespace Report

def fields : List Field :=
  [⟨"tests", [], list (record RuleResult.fields)⟩,
    ⟨"issues", [], list (record Issue.fields)⟩]

def rows (r : Report) : List (String × Option Json) :=
  [("tests", some (.arr (r.tests.map RuleResult.toJson))),
    ("issues", some (.arr (r.issues.map Issue.toJson)))]

theorem ofJson?_written (r : Report) {j : Json} (written : Written fields r.rows j) : ofJson? j = some r := by
  have tests : j.required (Json.list? RuleResult.ofJson?) 0 ["tests"] = some r.tests :=
    written.required 0 rfl rfl (reads_list fun t _ => t.reads)
  have issues : j.required (Json.list? Issue.ofJson?) 1 ["issues"] = some r.issues :=
    written.required 1 rfl rfl (reads_list fun i _ => i.reads)
  simp [ofJson?, written.isRecord, tests, issues]

theorem reads (r : Report) : Reads (record fields) r.toJson ofJson? r :=
  fun _ reworded => r.ofJson?_written ⟨by decide, by simp [rows], reworded⟩

theorem self (r : Report) : record fields r.toJson r.toJson := by
  have tests : list (record RuleResult.fields) (.arr (r.tests.map RuleResult.toJson))
      (.arr (r.tests.map RuleResult.toJson)) := list_self fun t _ => t.self
  have issues : list (record Issue.fields) (.arr (r.issues.map Issue.toJson)) (.arr (r.issues.map Issue.toJson)) :=
    list_self fun i _ => i.self
  exact record_self r.rows (by simp [fields, rows, tests, issues])

end Report

/-! ### Reports as texts -/

open Json

theorem RuleResult.legible {r : RuleResult} (few : r.issueCount ≤ word64Max) : Legible r.toJson := by
  have counted : IsWord r.issueCount := ⟨by omega, by exact_mod_cast few⟩
  refine .obj ?_
  simp only [List.forall_mem_cons]
  exact ⟨.str _, .str _, .str _, .int counted, by simp⟩

theorem Issue.legible (i : Issue) : Legible i.toJson := by
  refine legible_ofMembers _ ?_
  simp only [List.forall_mem_cons, Option.mem_def, Option.some.injEq, forall_eq', Option.map_eq_some_iff]
  refine ⟨.str _, .str _, .str _, .str _, ?_, .bool _, by simp⟩
  rintro j ⟨id, _, rfl⟩
  exact .str id

theorem Report.legible {r : Report} (few : ∀ t ∈ r.tests, t.issueCount ≤ word64Max) : Legible r.toJson := by
  have tests := legible_arr fun t member => RuleResult.legible (few t member)
  have issues := legible_arr fun i (_ : i ∈ r.issues) => i.legible
  refine .obj ?_
  simp only [Report.members, List.forall_mem_cons]
  exact ⟨tests, issues, by simp⟩

end FabricTopology
