import FabricTopology.Proofs.Text.Words
import FabricTopology.Validation
import Mathlib.Data.List.Basic
import Mathlib.Tactic.ByContra

/-!
What a report tells of records. The issues that it files under a rule are those that the records have by this rule
and no others (`issuesFor_validate`), so the outcomes of the rules and the list of issues tell the same: each record
that breaks a rule is blamed once for it, in the order of the records, and nothing else is (`exact_validate`). A report
looks at nothing but ids, names and keys (`validate_bare`).
-/
namespace FabricTopology

/-- An issue about one record: it warns and can be fixed. -/
def Issue.IsComplaint (i : Issue) : Prop := i.severity = .warning ∧ i.fixable = true ∧ i.nodeId ≠ none

/-- An issue about the whole network: it is an error and cannot be fixed. -/
def Issue.IsFailure (i : Issue) : Prop := i.severity = .error ∧ i.fixable = false ∧ i.nodeId = none

/-- What the issues of a rule blame, in order. -/
def Report.blamed (r : Report) (rule : String) : List (Option String) := (r.issuesFor rule).map (·.nodeId)

/-- A report that tells what is wrong with records, and nothing else. -/
structure Report.Exact (r : Report) (e : Entities) : Prop where
  rules : r.tests.map (·.id) =
    ["org-count", "orderer-count", "peer-org", "channel-orgs", "chaincode-channel", "ca-org"]
  counts : ∀ t ∈ r.tests, t.issueCount = (r.issuesFor t.id).length
  statuses : ∀ t ∈ r.tests, t.status = .passed ↔ t.issueCount = 0
  peers : r.blamed "peer-org" =
    (e.peers.filter fun p => Text.trim p.organizationId.toList = []).map fun p => some p.id
  channels : r.blamed "channel-orgs" =
    (e.channels.filter fun c => c.organizationIds.length < 2).map fun c => some c.id
  chaincodes : r.blamed "chaincode-channel" =
    (e.chaincodes.filter fun c => Text.trim c.channelId.toList = []).map fun c => some c.id
  organizations : r.blamed "ca-org" =
    (e.organizations.filter fun o => ∀ ca ∈ e.cas, ca.organizationId ≠ o.id).map fun o => some o.id
  kinds : ∀ i ∈ r.issues, i.IsComplaint ∨ i.IsFailure
  grouped : r.issues = r.tests.flatMap fun t => r.issuesFor t.id
  errors : r.hasErrors = true ↔ e.organizations = [] ∨ e.orderers = []
  warnings : r.warningCount = ((r.tests.drop 2).map (·.issueCount)).foldr (· + ·) 0

/-! ### One rule -/

namespace Rule

theorem id_inj {r s : Rule} (same : r.id = s.id) : r = s := by
  revert same
  cases r <;> cases s <;> decide

/-- An issue of a rule names the rule, and it complains about a record exactly if the rule only warns. -/
theorem of_mem_issues {r : Rule} {e : Entities} {i : Issue} (member : i ∈ r.issues e) :
    i.rule = r.id ∧ (r.failing = .warning ∧ i.IsComplaint ∨ r.failing = .error ∧ i.IsFailure) := by
  have failed {r : Rule} (title text : String) (error : r.failing = .error) :
      (r.failure title text).rule = r.id ∧ (r.failing = .warning ∧ (r.failure title text).IsComplaint ∨
        r.failing = .error ∧ (r.failure title text).IsFailure) :=
    ⟨rfl, .inr ⟨error, rfl, rfl, rfl⟩⟩
  have complained {r : Rule} (title text id : String) (warning : r.failing = .warning) :
      (r.complaint title text id).rule = r.id ∧ (r.failing = .warning ∧ (r.complaint title text id).IsComplaint ∨
        r.failing = .error ∧ (r.complaint title text id).IsFailure) :=
    ⟨rfl, .inl ⟨warning, rfl, rfl, Option.some_ne_none id⟩⟩
  cases r with
  | orgCount | ordererCount =>
    simp only [issues, List.mem_ite_nil_right, List.mem_singleton] at member
    obtain ⟨_, rfl⟩ := member
    exact failed _ _ rfl
  | peerOrg | channelOrgs | chaincodeChannel | caOrg =>
    obtain ⟨_, _, rfl⟩ := List.mem_map.mp member
    exact complained _ _ _ rfl

/-- Of the issues of a rule those that name a rule are all of them or none. -/
theorem filter_issues (e : Entities) (r s : Rule) :
    ((s.issues e).filter fun i => i.rule == r.id) = if s = r then r.issues e else [] := by
  by_cases same : s = r
  · subst same
    rw [if_pos rfl, List.filter_eq_self]
    intro i member
    simp [(of_mem_issues member).1]
  · rw [if_neg same, List.filter_eq_nil_iff]
    intro i member
    rw [(of_mem_issues member).1, beq_iff_eq]
    exact fun named => same (id_inj named)

/-- All issues of a rule warn, or none. -/
theorem countP_issues (e : Entities) (r : Rule) :
    (r.issues e).countP (fun i => i.severity == .warning) =
      if r.failing = .warning then (r.result (r.issues e)).issueCount else 0 := by
  by_cases warns : r.failing = .warning
  · rw [if_pos warns]
    refine List.countP_eq_length.mpr fun i member => ?_
    rcases (of_mem_issues member).2 with ⟨_, complaint⟩ | ⟨fails, _⟩
    · simp [complaint.1]
    · rw [warns] at fails
      cases fails
  · rw [if_neg warns]
    refine List.countP_eq_zero.mpr fun i member => ?_
    rcases (of_mem_issues member).2 with ⟨complains, _⟩ | ⟨_, failure⟩
    · exact absurd complains warns
    · simp [failure.1]

theorem status_result_eq_passed_iff {r : Rule} {issues : List Issue} :
    (r.result issues).status = .passed ↔ issues = [] := by
  cases issues <;> cases r <;> simp [result, failing]

theorem status_result_eq_error_iff {r : Rule} {issues : List Issue} :
    (r.result issues).status = .error ↔ issues ≠ [] ∧ r.failing = .error := by
  cases issues <;> simp [result]

end Rule

/-! ### The whole report -/

namespace Entities

/-- The issues of a report under a rule are those of the rule. -/
theorem issuesFor_validate (e : Entities) (r : Rule) : e.validate.issuesFor r.id = r.issues e := by
  simp only [Report.issuesFor, validate, List.filter_flatMap, Rule.filter_issues]
  cases r <;> simp [Rule.all]

/-- What a rule that looks at records one by one blames: the records that break it. -/
theorem blamed_of_issues {α : Type} (e : Entities) (r : Rule) {records : List α} {breaks keeps : α → Bool}
    {issue : α → Issue} {id : α → String} (issues : r.issues e = (records.filter breaks).map issue)
    (blames : ∀ a, (issue a).nodeId = some (id a)) (same : ∀ a ∈ records, breaks a = keeps a) :
    e.validate.blamed r.id = (records.filter keeps).map fun a => some (id a) := by
  rw [Report.blamed, issuesFor_validate, issues, List.map_map, List.filter_congr same]
  exact List.map_congr_left fun a _ => blames a

theorem mem_tests_validate {e : Entities} {t : RuleResult} (member : t ∈ e.validate.tests) :
    ∃ r : Rule, t = r.result (r.issues e) := by
  obtain ⟨r, _, rfl⟩ := List.mem_map.mp member
  exact ⟨r, rfl⟩

/-- A report has errors when there is no organization or no orderer. -/
theorem hasErrors_validate_iff (e : Entities) :
    e.validate.hasErrors = true ↔ e.organizations = [] ∨ e.orderers = [] := by
  simp only [Report.hasErrors, validate, List.any_map, List.any_eq_true, Function.comp, beq_iff_eq,
    Rule.status_result_eq_error_iff]
  constructor
  · rintro ⟨r, _, broken, failing⟩
    cases r with
    | orgCount =>
      left
      by_contra present
      exact broken (by simp [Rule.issues, present])
    | ordererCount =>
      right
      by_contra present
      exact broken (by simp [Rule.issues, present])
    | _ => cases failing
  · rintro (absent | absent)
    · exact ⟨.orgCount, by decide, by simp [Rule.issues, absent], rfl⟩
    · exact ⟨.ordererCount, by decide, by simp [Rule.issues, absent], rfl⟩

theorem warningCount_validate (e : Entities) :
    e.validate.warningCount = ((e.validate.tests.drop 2).map (·.issueCount)).foldr (· + ·) 0 := by
  simp only [Report.warningCount, validate, List.countP_flatMap, Function.comp_def, Rule.countP_issues]
  simp [Rule.all, Rule.failing]

end Entities

/-- The report on any records tells what is wrong with them and nothing else, and its two views agree. -/
theorem exact_validate (e : Entities) : e.validate.Exact e where
  rules := rfl
  counts := by
    intro t member
    obtain ⟨r, rfl⟩ := Entities.mem_tests_validate member
    exact (congrArg List.length (e.issuesFor_validate r)).symm
  statuses := by
    intro t member
    obtain ⟨r, rfl⟩ := Entities.mem_tests_validate member
    rw [Rule.status_result_eq_passed_iff]
    exact List.length_eq_zero_iff.symm
  peers := e.blamed_of_issues .peerOrg rfl (fun _ => rfl) fun p _ => by
    rw [Bool.eq_iff_iff, Text.isAllBlank_iff, decide_eq_true_iff]
  channels := e.blamed_of_issues .channelOrgs rfl (fun _ => rfl) fun _ _ => rfl
  chaincodes := e.blamed_of_issues .chaincodeChannel rfl (fun _ => rfl) fun c _ => by
    rw [Bool.eq_iff_iff, Text.isAllBlank_iff, decide_eq_true_iff]
  organizations := e.blamed_of_issues .caOrg rfl (fun _ => rfl) fun o _ => by
    rw [Bool.eq_iff_iff, decide_eq_true_iff]
    simp
  kinds := by
    intro i member
    obtain ⟨r, _, raised⟩ := List.mem_flatMap.mp member
    exact (Rule.of_mem_issues raised).2.imp And.right And.right
  grouped :=
    calc e.validate.issues
      _ = Rule.all.flatMap fun r => e.validate.issuesFor r.id :=
        List.flatMap_congr fun r _ => (e.issuesFor_validate r).symm
      _ = e.validate.tests.flatMap fun t => e.validate.issuesFor t.id := (List.flatMap_map _ _ _).symm
  errors := e.hasErrors_validate_iff
  warnings := e.warningCount_validate

/-! ### What a report looks at -/

/-- The records with nothing but their ids, names and keys. -/
def Entities.bare (e : Entities) : Entities :=
  { organizations := e.organizations.map fun o => .named o.id o.name
    peers := e.peers.map fun p => .named p.id p.name p.organizationId
    orderers := e.orderers.map fun o => .named o.id o.name
    cas := e.cas.map fun a => .named a.id a.name a.organizationId
    channels := e.channels.map fun c => { c with ordererIds := [] }
    chaincodes := e.chaincodes.map fun c => .named c.id c.name c.channelId }

theorem Rule.issues_bare (e : Entities) (r : Rule) : r.issues e.bare = r.issues e := by
  cases r <;>
    simp [issues, Entities.bare, List.filter_map, Function.comp_def, Organization.named, Peer.named,
      CertificateAuthority.named, Chaincode.named]

/-- A report tells nothing but of ids, names and keys. -/
theorem Entities.validate_bare (e : Entities) : e.bare.validate = e.validate := by
  simp only [validate, Rule.issues_bare, funext (Rule.issues_bare e)]

end FabricTopology
