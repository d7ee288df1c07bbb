import FabricTopology.Proofs.Deployment.Lifecycle
import FabricTopology.Proofs.Table
import FabricTopology.Store

/-!
A patch of a deployment is all or nothing. It comes to the same as its fields one after the other, each as a patch of
its own; and where one of these is rejected, and the ones before it have left their traces in the record, the patch is
rejected for the same reason and the record is as before (`apply_atomic`). Which patches are accepted is told by the
status that their progress leads to (`Admits`). In a store, an update does what the updates with the single fields do if
each of them is accepted, and else it does nothing at all.
-/
namespace FabricTopology

/-- The fields of a patch as patches of their own, in the order in which they count. -/
def DeploymentPatch.parts (p : DeploymentPatch) : List DeploymentPatch :=
  [{ status := none, progress := p.progress, uptime := none },
    { status := p.status, progress := none, uptime := none },
    { status := none, progress := none, uptime := p.uptime }]

namespace Deployment

/-- Patches at one time, one after the other, until one of them is rejected. -/
def applyEach (ps : List DeploymentPatch) (now : Calendar.Timestamp) : Edit := ps.forM fun p => apply p now

/-- The status that a deployment comes to by progress, if any is made. -/
def statusAt (d : Deployment) (progress : Option UInt8) : Status :=
  if progress = some complete then .active else d.status

/-- A patch that fits a deployment: its progress goes on from that of a deployment under way, and its status is the
    one that this leads to or lies one arrow further. -/
structure Admits (d : Deployment) (p : DeploymentPatch) : Prop where
  progress : ∀ q, p.progress = some q → d.status = .deploying ∧ d.progress.getD 0 ≤ q ∧ q ≤ 100
  status : ∀ s, p.status = some s → s = d.statusAt p.progress ∨ (d.statusAt p.progress).Move s

/-- A patch does what its fields do one after the other, if each of them is accepted. Else it fails as the first of them
    does that is rejected, and whatever this has left of the record, the patch leaves it as it was. -/
structure Atomic (d : Deployment) (now : Calendar.Timestamp) (p : DeploymentPatch) : Prop where
  inTurn : (∃ d', (applyEach p.parts now).run d = .ok () d' ∧ (apply p now).run d = .ok () d') ∨
    ∃ e left, (applyEach p.parts now).run d = .error e left ∧ (apply p now).run d = .error e d
  accepted : (∃ d', (apply p now).run d = .ok () d') ↔ d.Admits p

variable {d d' : Deployment} {p : DeploymentPatch} {now : Calendar.Timestamp}

/-! ### The fields of a patch -/

theorem applyProgress_leaves {progress : Option UInt8} {e : Failure}
    (rejected : (applyProgress progress now).run d = .error e d') : d' = d := by
  cases progress with
  | none => cases rejected
  | some q => exact eq_of_error (c := .advance q) rejected

theorem run_applyStatus_some (d : Deployment) (s : Status) (now : Calendar.Timestamp) :
    (applyStatus (some s) now).run d = if s = d.status then .ok () d else (transition s now).run d := by
  rw [applyStatus, EStateM.run_bind, EStateM.run_get]
  by_cases same : s = d.status
  · rw [if_pos same]
    simp only [same, ne_eq, not_true_eq_false, if_false]
    rfl
  · rw [if_neg same]
    simp only [same, ne_eq, not_false_eq_true, if_true]

theorem applyStatus_leaves {status : Option Status} {e : Failure}
    (rejected : (applyStatus status now).run d = .error e d') : d' = d := by
  cases status with
  | none => cases rejected
  | some s =>
    rw [run_applyStatus_some] at rejected
    split at rejected
    · cases rejected
    · exact eq_of_error (c := .transition s) rejected

theorem run_apply_progress (d : Deployment) (progress : Option UInt8) (now : Calendar.Timestamp) :
    (apply { status := none, progress, uptime := none } now).run d = (applyProgress progress now).run d := by
  rw [run_apply, applySteps, EStateM.run_bind]
  cases progressed : (applyProgress progress now).run d with
  | ok _ advanced => rfl
  | error e left =>
    rw [applyProgress_leaves progressed]

theorem run_apply_status (d : Deployment) (status : Option Status) (now : Calendar.Timestamp) :
    (apply { status, progress := none, uptime := none } now).run d = (applyStatus status now).run d := by
  rw [run_apply, applySteps, EStateM.run_bind, show (applyProgress none now).run d = .ok () d from rfl]
  simp only [EStateM.run_bind]
  cases changed : (applyStatus status now).run d with
  | ok _ moved => rfl
  | error e left =>
    rw [applyStatus_leaves changed]

theorem run_apply_uptime (d : Deployment) (uptime : Option String) (now : Calendar.Timestamp) :
    (apply { status := none, progress := none, uptime } now).run d = (applyUptime uptime).run d := by
  cases uptime <;> rfl

theorem run_applyEach_nil (d : Deployment) (now : Calendar.Timestamp) : (applyEach [] now).run d = .ok () d := rfl

theorem run_applyEach_cons (d : Deployment) (p : DeploymentPatch) (ps : List DeploymentPatch)
    (now : Calendar.Timestamp) : (applyEach (p :: ps) now).run d =
    match (apply p now).run d with
    | .ok _ d' => (applyEach ps now).run d'
    | .error e left => .error e left := by
  show (apply p now >>= fun _ => applyEach ps now).run d = _
  rw [EStateM.run_bind]
  cases (apply p now).run d <;> rfl

/-- The fields of a patch one after the other are its steps, and where they end early they leave the same. -/
theorem run_applyEach_parts (d : Deployment) (p : DeploymentPatch) (now : Calendar.Timestamp) :
    (applyEach p.parts now).run d = (applySteps p now).run d := by
  simp only [DeploymentPatch.parts, run_applyEach_cons, run_applyEach_nil, run_apply_progress, run_apply_status,
    run_apply_uptime, run_applyUptime, applySteps, EStateM.run_bind]
  cases (applyProgress p.progress now).run d with
  | error e left => rfl
  | ok _ advanced => cases changed : (applyStatus p.status now).run advanced <;> simp only [changed]

theorem apply_inTurn (d : Deployment) (p : DeploymentPatch) (now : Calendar.Timestamp) :
    (∃ d', (applyEach p.parts now).run d = .ok () d' ∧ (apply p now).run d = .ok () d') ∨
      ∃ e left, (applyEach p.parts now).run d = .error e left ∧ (apply p now).run d = .error e d := by
  rw [run_applyEach_parts, run_apply]
  cases (applySteps p now).run d with
  | ok _ d' => exact .inl ⟨d', rfl, rfl⟩
  | error e left => exact .inr ⟨e, left, rfl, rfl⟩

/-- Taken in place, the steps of a patch leave half of it in the record where they end early. -/
example (now : Calendar.Timestamp) : ∃ e left, (applySteps ⟨some .stopped, some 50, none⟩ now).run
    (.ofNetwork "d1" (.named "net") now) = .error e left ∧ left.progress = some 50 := ⟨_, _, rfl, rfl⟩

/-! ### Which patches are accepted -/

/-- Progress is accepted if it goes on from that of a deployment under way, and it leads to a status. -/
theorem applyProgress_iff {progress : Option UInt8} {s : Status} :
    (∃ advanced, (applyProgress progress now).run d = .ok () advanced ∧ advanced.status = s) ↔
      (∀ q, progress = some q → d.status = .deploying ∧ d.progress.getD 0 ≤ q ∧ q ≤ 100) ∧ s = d.statusAt progress := by
  cases progress with
  | none =>
    simp [applyProgress, statusAt, eq_comm]
  | some q =>
    simp only [applyProgress, advance_eq_ok_iff, statusAt, Option.some.injEq, forall_eq']
    constructor
    · rintro ⟨_, ⟨deploying, onward, inRange, rfl⟩, rfl⟩
      exact ⟨⟨deploying, onward, inRange⟩, by rw [deploying]⟩
    · rintro ⟨⟨deploying, onward, inRange⟩, rfl⟩
      exact ⟨_, ⟨deploying, onward, inRange, rfl⟩, by rw [deploying]⟩

/-- A status is accepted if it is the present one or lies one arrow further. -/
theorem applyStatus_iff {status : Option Status} :
    (∃ moved, (applyStatus status now).run d = .ok () moved) ↔
      ∀ s, status = some s → s = d.status ∨ d.status.Move s := by
  cases status with
  | none => simp [applyStatus]
  | some s =>
    simp only [run_applyStatus_some, Option.some.injEq, forall_eq']
    by_cases same : s = d.status
    · simp [same]
    · have away : d.status ≠ s := Ne.symm same
      simp [same, transition_eq_ok_iff, canTransition_iff, away]

theorem apply_iff_admits : (∃ d', (apply p now).run d = .ok () d') ↔ d.Admits p := by
  constructor
  · rintro ⟨d', accepted⟩
    obtain ⟨advanced, moved, progressed, changed, _⟩ := apply_eq_ok_iff.mp accepted
    obtain ⟨onward, reached⟩ := applyProgress_iff.mp ⟨advanced, progressed, rfl⟩
    exact ⟨onward, fun s asked => reached ▸ applyStatus_iff.mp ⟨moved, changed⟩ s asked⟩
  · intro admitted
    obtain ⟨advanced, progressed, reached⟩ := applyProgress_iff.mpr ⟨admitted.progress, rfl⟩
    obtain ⟨moved, changed⟩ := applyStatus_iff.mpr fun s asked => reached ▸ admitted.status s asked
    exact ⟨_, apply_eq_ok_iff.mpr ⟨advanced, moved, progressed, changed, rfl⟩⟩

theorem atomic_apply (d : Deployment) (p : DeploymentPatch) (now : Calendar.Timestamp) : d.Atomic now p :=
  ⟨d.apply_inTurn p now, apply_iff_admits⟩

end Deployment

/-! ### Updates in a store -/

namespace Store
variable {s : Store} {d d' : Deployment} {id : String} {now : Calendar.Timestamp} {p : DeploymentPatch}

/-- The store after updates of one deployment at one time, one after the other, or why one of them is refused. -/
def updateEach (s : Store) (now : Calendar.Timestamp) (id : String) (ps : List DeploymentPatch) : Except Failure Store :=
  ps.foldlM (fun s p => (s.updateDeployment now id p).1.map fun _ => (s.updateDeployment now id p).2) s

/-- An update does what the updates with the single fields do, if each of them is accepted, and else nothing. -/
structure Atomic (s : Store) (now : Calendar.Timestamp) (id : String) (p : DeploymentPatch) : Prop where
  all : ∀ after, s.updateEach now id p.parts = .ok after → ∃ d, s.updateDeployment now id p = (.ok d, after)
  nothing : ∀ e, s.updateEach now id p.parts = .error e → s.updateDeployment now id p = (.error e, s)

/-- The store in which the id has the record of a deployment. -/
def withDeployment (s : Store) (id : String) (d : Deployment) : Store :=
  { s with deployments := s.deployments.put id d }

theorem withDeployment_of_stands (stands : s.getDeployment id = some d) : s.withDeployment id d = s := by
  rw [withDeployment, Table.put_of_get? stands]

theorem updateDeployment_of_missing (missing : s.getDeployment id = none) (now : Calendar.Timestamp)
    (p : DeploymentPatch) : s.updateDeployment now id p = (.error (.deploymentNotFound id), s) := by
  rw [updateDeployment, missing]

theorem updateDeployment_of_ok (stands : s.getDeployment id = some d)
    (accepted : (Deployment.apply p now).run d = .ok () d') :
    s.updateDeployment now id p = (.ok d', s.withDeployment id d') := by
  simp only [updateDeployment, stands, accepted, withDeployment]

/-- A patch that is rejected has left the record as it was, and with it the store. -/
theorem updateDeployment_of_error {e : Failure} (stands : s.getDeployment id = some d)
    (rejected : (Deployment.apply p now).run d = .error e d') : s.updateDeployment now id p = (.error e, s) := by
  obtain rfl : d' = d := Deployment.eq_of_error (c := .apply p) rejected
  simp only [updateDeployment, stands, rejected]
  rw [← withDeployment, withDeployment_of_stands stands]

/-- Updates of a deployment one after the other write the record after all patches. -/
theorem updateEach_eq (stands : s.getDeployment id = some d) (now : Calendar.Timestamp) (ps : List DeploymentPatch) :
    s.updateEach now id ps = match (Deployment.applyEach ps now).run d with
      | .ok _ d' => .ok (s.withDeployment id d')
      | .error e _ => .error e := by
  induction ps generalizing s d with
  | nil =>
    rw [Deployment.run_applyEach_nil]
    simp only [withDeployment_of_stands stands]
    rfl
  | cons p ps ih =>
    rw [updateEach, List.foldlM_cons, Deployment.run_applyEach_cons]
    cases result : (Deployment.apply p now).run d with
    | error e left =>
      rw [updateDeployment_of_error stands result]
      rfl
    | ok _ d' =>
      rw [updateDeployment_of_ok stands result]
      have later := ih (s := s.withDeployment id d') (d := d') (Table.get?_put_self s.deployments id d')
      have twice : (s.withDeployment id d').withDeployment id = s.withDeployment id :=
        funext fun last => by simp only [withDeployment, Table.put_put]
      rw [twice] at later
      exact later

/-- An update is refused where one of the updates with the single fields is, and the store stays; else it comes to the
    same as all of them. -/
theorem updateDeployment_cases (s : Store) (now : Calendar.Timestamp) (id : String) (p : DeploymentPatch) :
    (∃ e, s.updateEach now id p.parts = .error e ∧ s.updateDeployment now id p = (.error e, s)) ∨
    ∃ d after, s.updateEach now id p.parts = .ok after ∧ s.updateDeployment now id p = (.ok d, after) := by
  cases stands : s.getDeployment id with
  | none =>
    have refused := updateDeployment_of_missing stands now
    refine .inl ⟨.deploymentNotFound id, ?_, refused p⟩
    rw [updateEach, DeploymentPatch.parts, List.foldlM_cons, refused]
    rfl
  | some d =>
    have each := updateEach_eq stands now p.parts
    rcases d.apply_inTurn p now with ⟨d', inTurn, accepted⟩ | ⟨e, left, inTurn, rejected⟩
    · rw [inTurn] at each
      exact .inr ⟨d', _, each, updateDeployment_of_ok stands accepted⟩
    · rw [inTurn] at each
      exact .inl ⟨e, each, updateDeployment_of_error stands rejected⟩

theorem atomic_update (s : Store) (now : Calendar.Timestamp) (id : String) (p : DeploymentPatch) :
    s.Atomic now id p := by
  rcases s.updateDeployment_cases now id p with ⟨e, first, refused⟩ | ⟨d, after, each, updated⟩
  · constructor
    · intro after accepted
      rw [first] at accepted
      cases accepted
    · intro e rejected
      rw [first] at rejected
      cases rejected
      exact refused
  · constructor
    · intro after accepted
      rw [each] at accepted
      cases accepted
      exact ⟨d, updated⟩
    · intro e rejected
      rw [each] at rejected
      cases rejected

end Store

/-- A patch is all or nothing: it has the result of its fields one after the other, so the record is the one after all
    of them if each is accepted, and else it stays; and it is accepted exactly if it fits the record. Any other call
    that is rejected leaves the record as well, and an update of a store is as much all or nothing. -/
theorem Deployment.apply_atomic (d : Deployment) (p : DeploymentPatch) (now : Calendar.Timestamp) :
    d.Atomic now p ∧ (∀ c e left, (Call.edit now c).run d = .error e left → left = d) ∧
      ∀ s id, Store.Atomic s now id p :=
  ⟨d.atomic_apply p now, fun _ _ _ rejected => eq_of_error rejected, fun s id => s.atomic_update now id p⟩

end FabricTopology
