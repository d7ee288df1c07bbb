import FabricTopology.Deployment

/-!
The life of a deployment. Whatever is called on it, and whether the call is accepted or not, its status moves
along five arrows, its progress tells whether it is complete, and what it was created with stays
(`lifecycle`). One call makes one change of status and progress, or with a patch two; one that is rejected makes none,
as progress and status are looked at before anything is written, and a patch is tried on a copy (`eq_of_error`).
-/
namespace FabricTopology

/-- The arrows of a deployment's life. -/
inductive Status.Move : Status → Status → Prop where
  | completes : Move .deploying .active
  | fails : Move .deploying .error
  | retries : Move .error .deploying
  | stops : Move .active .stopped
  | starts : Move .stopped .active

/-- The progress that goes with a status: all of it once the deployment has been active, and else less. -/
def Status.Fits (progress : Option UInt8) : Status → Prop
  | .active | .stopped => progress = some 100
  | .deploying | .error => ∃ p, progress = some p ∧ p < 100

namespace Deployment

/-- A call on a deployment. -/
inductive Call where
  | advance (progress : UInt8)
  | transition (target : Status)
  | apply (patch : DeploymentPatch)

/-- What a call at some time does in place. -/
def Call.edit (now : Calendar.Timestamp) : Call → Edit
  | .advance progress => Deployment.advance progress now
  | .transition target => Deployment.transition target now
  | .apply patch => Deployment.apply patch now

/-- The record as a call at some time leaves it, be it accepted or rejected. -/
def after (d : Deployment) (now : Calendar.Timestamp) (c : Call) : Deployment :=
  match (c.edit now).run d with
  | .ok _ d' => d'
  | .error _ d' => d'

/-- The record after calls, each at its time. -/
def run (d : Deployment) (calls : List (Calendar.Timestamp × Call)) : Deployment :=
  calls.foldl (fun d c => d.after c.1 c.2) d

/-- Two records of one deployment agree on what it was created with. -/
structure SameOrigin (d first : Deployment) : Prop where
  id : d.id = first.id
  networkId : d.networkId = first.networkId
  networkName : d.networkName = first.networkName
  createdAt : d.createdAt = first.createdAt
  totalNodes : d.totalNodes = first.totalNodes
  peerCount : d.peerCount = first.peerCount
  ordererCount : d.ordererCount = first.ordererCount
  caCount : d.caCount = first.caCount

theorem SameOrigin.refl (d : Deployment) : d.SameOrigin d := ⟨rfl, rfl, rfl, rfl, rfl, rfl, rfl, rfl⟩

theorem SameOrigin.trans {d e f : Deployment} (h : d.SameOrigin e) (k : e.SameOrigin f) : d.SameOrigin f :=
  ⟨h.id.trans k.id, h.networkId.trans k.networkId, h.networkName.trans k.networkName, h.createdAt.trans k.createdAt,
    h.totalNodes.trans k.totalNodes, h.peerCount.trans k.peerCount, h.ordererCount.trans k.ordererCount,
    h.caCount.trans k.caCount⟩

/-! ### One change -/

/-- One change of status and progress. -/
inductive Change : Status → Option UInt8 → Status → Option UInt8 → Prop where
  | stays (s : Status) (p : Option UInt8) : Change s p s p
  | advances {p : Option UInt8} {q : UInt8} : p.getD 0 ≤ q → q < 100 → Change .deploying p .deploying (some q)
  | completes (p : Option UInt8) : Change .deploying p .active (some 100)
  | fails (p : Option UInt8) : Change .deploying p .error p
  | retries (p : Option UInt8) : Change .error p .deploying (some 0)
  | stops (p : Option UInt8) : Change .active p .stopped p
  | starts (p : Option UInt8) : Change .stopped p .active p

theorem Change.move {s t : Status} {p q : Option UInt8} (c : Change s p t q) : t = s ∨ s.Move t := by
  cases c with
  | stays => exact .inl rfl
  | advances => exact .inl rfl
  | completes => exact .inr .completes
  | fails => exact .inr .fails
  | retries => exact .inr .retries
  | stops => exact .inr .stops
  | starts => exact .inr .starts

theorem Change.fits {s t : Status} {p q : Option UInt8} (c : Change s p t q) (before : s.Fits p) : t.Fits q := by
  cases c with
  | stays => exact before
  | advances _ below => exact ⟨_, rfl, below⟩
  | completes => rfl
  | fails => exact before
  | retries => exact ⟨0, rfl, by decide⟩
  | stops => exact before
  | starts => exact before

/-- Progress is not lost but in another try after an error. -/
theorem Change.progress {s t : Status} {p q : Option UInt8} (c : Change s p t q) (before : s.Fits p) :
    p.getD 0 ≤ q.getD 0 ∨ s = .error ∧ t = .deploying ∧ q = some 0 := by
  cases c with
  | stays => exact .inl (UInt8.le_refl _)
  | advances onward _ => exact .inl onward
  | completes =>
    obtain ⟨r, rfl, below⟩ := before
    exact .inl (UInt8.le_of_lt below)
  | fails => exact .inl (UInt8.le_refl _)
  | retries => exact .inr ⟨rfl, rfl, rfl⟩
  | stops => exact .inl (UInt8.le_refl _)
  | starts => exact .inl (UInt8.le_refl _)

/-! ### What each operation changes -/

section
variable {d d' : Deployment} {now : Calendar.Timestamp} {e : Failure}

theorem run_advance (d : Deployment) (progress : UInt8) (now : Calendar.Timestamp) : (advance progress now).run d =
    if d.status ≠ .deploying then
      .error (.invalidTransition d.status.name ("deploying(" ++ toString progress.toNat ++ ")")) d
    else if progress < d.progress.getD 0 ∨ complete < progress then .error (outOfRange (d.progress.getD 0) progress) d
    else .ok () { d with
      progress := some progress
      lastActive := some now
      status := if progress = complete then .active else d.status } := by
  rw [advance, EStateM.run_bind, EStateM.run_get]
  by_cases deploying : d.status = .deploying
  · have under : ¬ d.status ≠ .deploying := fun other => other deploying
    by_cases outside : progress < d.progress.getD 0 ∨ complete < progress
    · simp only [if_neg under, if_pos outside]
      rfl
    · by_cases full : progress = complete
      · simp only [if_neg under, if_neg outside, if_pos full]
        rfl
      · simp only [if_neg under, if_neg outside, if_neg full]
        rfl
  · simp only [if_pos deploying]
    rfl

/-- Progress is accepted from a deployment that is deploying, up to completion and never backwards. -/
theorem advance_eq_ok_iff {progress : UInt8} : (advance progress now).run d = .ok () d' ↔
    d.status = .deploying ∧ d.progress.getD 0 ≤ progress ∧ progress ≤ complete ∧
      d' = { d with
        progress := some progress
        lastActive := some now
        status := if progress = complete then .active else .deploying } := by
  rw [run_advance]
  by_cases deploying : d.status = .deploying
  · by_cases backwards : progress < d.progress.getD 0
    · simp [deploying, backwards, UInt8.not_le.mpr backwards]
    · by_cases beyond : complete < progress
      · simp [deploying, beyond, UInt8.not_le.mpr beyond]
      · simp [deploying, backwards, beyond, UInt8.not_lt.mp backwards, UInt8.not_lt.mp beyond, eq_comm]
  · simp [deploying]

/-- The progress of a deployment that changes its status: none made when it is tried again, all of it when it becomes
    active, and else what it was. -/
def progressAfter (d : Deployment) (target : Status) : Option UInt8 :=
  match d.status, target with
  | .error, .deploying => some 0
  | .deploying, .active => some complete
  | _, _ => d.progress

theorem run_transition (d : Deployment) (target : Status) (now : Calendar.Timestamp) : (transition target now).run d =
    if canTransition d.status target then
      .ok () { d with status := target, progress := d.progressAfter target, lastActive := some now }
    else .error (.invalidTransition d.status.name target.name) d := by
  rw [transition, EStateM.run_bind, EStateM.run_get]
  by_cases can : canTransition d.status target
  · simp only [can, if_true, progressAfter]
    cases d.status <;> cases target <;> rfl
  · simp only [can, Bool.false_eq_true, if_false]
    rfl

/-- A status is accepted if there is an arrow to it, or if it is the present one and not deploying. -/
theorem canTransition_iff {s t : Status} : canTransition s t = true ↔ s.Move t ∨ s = t ∧ s ≠ .deploying := by
  constructor
  · intro can
    cases s <;> cases t <;> simp [canTransition] at can ⊢ <;> constructor
  · rintro (move | ⟨rfl, other⟩)
    · cases move <;> rfl
    · cases s <;> simp [canTransition] at other ⊢

theorem transition_eq_ok_iff {target : Status} : (transition target now).run d = .ok () d' ↔
    canTransition d.status target = true ∧
      d' = { d with status := target, progress := d.progressAfter target, lastActive := some now } := by
  rw [run_transition]
  by_cases can : canTransition d.status target
  · simp [can, eq_comm]
  · simp [can]

theorem run_applyUptime (d : Deployment) (uptime : Option String) :
    (applyUptime uptime).run d = .ok () { d with uptime := uptime <|> d.uptime } := by
  cases uptime <;> rfl

/-- The steps of a patch are accepted if its progress and then its status are. -/
theorem applySteps_eq_ok_iff {p : DeploymentPatch} : (applySteps p now).run d = .ok () d' ↔
    ∃ advanced moved, (applyProgress p.progress now).run d = .ok () advanced ∧
      (applyStatus p.status now).run advanced = .ok () moved ∧
        d' = { moved with uptime := p.uptime <|> moved.uptime } := by
  rw [applySteps, EStateM.run_bind]
  cases progressed : (applyProgress p.progress now).run d with
  | error e left => simp
  | ok _ advanced =>
    simp only [EStateM.run_bind]
    cases changed : (applyStatus p.status now).run advanced with
    | error e left => simp [changed]
    | ok _ moved => simp [changed, run_applyUptime, eq_comm]

/-- A patch does what its steps do if they are all accepted, and else it does nothing to the record. -/
theorem run_apply (d : Deployment) (p : DeploymentPatch) (now : Calendar.Timestamp) : (apply p now).run d =
    match (applySteps p now).run d with
    | .ok _ next => .ok () next
    | .error e _ => .error e d := by
  rw [apply, EStateM.run_bind, EStateM.run_get]
  cases tried : (applySteps p now).run d with
  | ok _ next => simp only [tried, EStateM.run_set]
  | error e left => simp only [tried, EStateM.run_throw]

/-- A patch is accepted if its progress and then its status are. -/
theorem apply_eq_ok_iff {p : DeploymentPatch} : (apply p now).run d = .ok () d' ↔
    ∃ advanced moved, (applyProgress p.progress now).run d = .ok () advanced ∧
      (applyStatus p.status now).run advanced = .ok () moved ∧
        d' = { moved with uptime := p.uptime <|> moved.uptime } := by
  rw [← applySteps_eq_ok_iff, run_apply]
  cases (applySteps p now).run d <;> simp

/-- A call that is rejected leaves the record as it was. -/
theorem eq_of_error {c : Call} (rejected : (c.edit now).run d = .error e d') : d' = d := by
  cases c with
  | advance progress =>
    rw [Call.edit, run_advance] at rejected
    split at rejected
    · cases rejected
      rfl
    · split at rejected
      · cases rejected
        rfl
      · cases rejected
  | transition target =>
    rw [Call.edit, run_transition] at rejected
    split at rejected
    · cases rejected
    · cases rejected
      rfl
  | apply patch =>
    rw [Call.edit, run_apply] at rejected
    split at rejected
    · cases rejected
    · cases rejected
      rfl

end

/-! ### From one record to the next -/

/-- One change of a record, which keeps what the deployment was created with. -/
structure Changed (d d' : Deployment) : Prop where
  change : Change d.status d.progress d'.status d'.progress
  origin : d'.SameOrigin d

theorem Changed.refl (d : Deployment) : d.Changed d := ⟨.stays _ _, .refl d⟩

theorem changed_advance {d d' : Deployment} {progress : UInt8} {now : Calendar.Timestamp}
    (accepted : (advance progress now).run d = .ok () d') : d.Changed d' := by
  obtain ⟨deploying, onward, inRange, rfl⟩ := advance_eq_ok_iff.mp accepted
  refine ⟨?_, ⟨rfl, rfl, rfl, rfl, rfl, rfl, rfl, rfl⟩⟩
  by_cases full : progress = complete
  · simpa [deploying, full, complete] using Change.completes d.progress
  · simpa [deploying, full] using Change.advances onward (UInt8.lt_of_le_of_ne inRange full)

theorem changed_transition {d d' : Deployment} {target : Status} {now : Calendar.Timestamp}
    (accepted : (transition target now).run d = .ok () d') : d.Changed d' := by
  obtain ⟨can, rfl⟩ := transition_eq_ok_iff.mp accepted
  refine ⟨?_, ⟨rfl, rfl, rfl, rfl, rfl, rfl, rfl, rfl⟩⟩
  simp only [progressAfter]
  rcases canTransition_iff.mp can with move | ⟨same, other⟩
  · generalize d.status = s at move
    cases move with
    | completes => exact .completes _
    | fails => exact .fails _
    | retries => exact .retries _
    | stops => exact .stops _
    | starts => exact .starts _
  · rw [← same]
    cases status : d.status with
    | deploying => exact absurd status other
    | active => exact .stays _ _
    | stopped => exact .stays _ _
    | error => exact .stays _ _

/-- The progress of a patch leaves the status as it is or makes the deployment active. -/
theorem changed_applyProgress {d d' : Deployment} {progress : Option UInt8} {now : Calendar.Timestamp}
    (accepted : (applyProgress progress now).run d = .ok () d') :
    d.Changed d' ∧ (d'.status = d.status ∨ d.status.Move .active ∧ d'.status = .active) := by
  cases progress with
  | none =>
    cases accepted
    exact ⟨.refl d, .inl rfl⟩
  | some p =>
    refine ⟨changed_advance accepted, ?_⟩
    obtain ⟨deploying, _, _, rfl⟩ := advance_eq_ok_iff.mp accepted
    by_cases full : p = complete
    · simp [deploying, full, Status.Move.completes]
    · simp [deploying, full]

theorem changed_applyStatus {d d' : Deployment} {status : Option Status} {now : Calendar.Timestamp}
    (accepted : (applyStatus status now).run d = .ok () d') : d.Changed d' := by
  cases status with
  | none =>
    cases accepted
    exact .refl d
  | some s =>
    rw [applyStatus, EStateM.run_bind, EStateM.run_get] at accepted
    simp only at accepted
    split at accepted
    · exact changed_transition accepted
    · cases accepted
      exact .refl d

/-- The uptime of a patch changes nothing else. -/
theorem Changed.withUptime {d d' : Deployment} (changed : d.Changed d') (uptime : Option String) :
    d.Changed { d' with uptime } where
  change := changed.change
  origin :=
    { id := changed.origin.id
      networkId := changed.origin.networkId
      networkName := changed.origin.networkName
      createdAt := changed.origin.createdAt
      totalNodes := changed.origin.totalNodes
      peerCount := changed.origin.peerCount
      ordererCount := changed.origin.ordererCount
      caCount := changed.origin.caCount }

/-- A patch makes two changes, the first of which can only make the deployment active. -/
theorem changed_apply {d d' : Deployment} {patch : DeploymentPatch} {now : Calendar.Timestamp}
    (accepted : (apply patch now).run d = .ok () d') :
    ∃ between, d.Changed between ∧
      (between.status = d.status ∨ d.status.Move .active ∧ between.status = .active) ∧ between.Changed d' := by
  obtain ⟨between, moved, progressed, changed, rfl⟩ := apply_eq_ok_iff.mp accepted
  obtain ⟨first, way⟩ := changed_applyProgress progressed
  exact ⟨between, first, way, (changed_applyStatus changed).withUptime _⟩

theorem sameOrigin_apply {d d' : Deployment} {patch : DeploymentPatch} {now : Calendar.Timestamp}
    (accepted : (apply patch now).run d = .ok () d') : d'.SameOrigin d := by
  obtain ⟨between, first, _, second⟩ := changed_apply accepted
  exact second.origin.trans first.origin

/-- A record as every call leaves it: with the progress of its status, and with what it was created with. -/
structure Sound (first d : Deployment) : Prop where
  fits : d.status.Fits d.progress
  origin : d.SameOrigin first
  total : d.totalNodes = d.peerCount + d.ordererCount + d.caCount

/-- What a call does to a record. The status stays, moves along one arrow or, with a patch, along one arrow to
    active and another one from there; the progress is not lost but in another try after an error. -/
structure Follows (c : Call) (d d' : Deployment) : Prop where
  status : d'.status = d.status ∨ d.status.Move d'.status ∨
    (∃ patch, c = .apply patch) ∧ d.status.Move .active ∧ Status.Move .active d'.status
  progress : d.progress.getD 0 ≤ d'.progress.getD 0 ∨
    d.status = .error ∧ d'.status = .deploying ∧ d'.progress = some 0

theorem Sound.changed {first d d' : Deployment} (sound : Sound first d) (changed : d.Changed d') : Sound first d' where
  fits := changed.change.fits sound.fits
  origin := changed.origin.trans sound.origin
  total := by
    rw [changed.origin.totalNodes, changed.origin.peerCount, changed.origin.ordererCount, changed.origin.caCount]
    exact sound.total

/-- One change is what a call may do. -/
theorem Changed.follows {d d' : Deployment} (changed : d.Changed d') (fits : d.status.Fits d.progress) (c : Call) :
    Follows c d d' where
  status := changed.change.move.imp_right .inl
  progress := changed.change.progress fits

theorem follows_apply {d between d' : Deployment} (patch : DeploymentPatch) (first : d.Changed between)
    (way : between.status = d.status ∨ d.status.Move .active ∧ between.status = .active)
    (second : between.Changed d') (fits : d.status.Fits d.progress) : Follows (.apply patch) d d' := by
  constructor
  · rcases way with same | ⟨move, active⟩
    · rw [← same]
      exact second.change.move.imp_right .inl
    · rcases second.change.move with stays | onward
      · exact .inr (.inl (by rw [stays, active]; exact move))
      · exact .inr (.inr ⟨⟨patch, rfl⟩, move, active ▸ onward⟩)
  · have early : d.progress.getD 0 ≤ between.progress.getD 0 := by
      rcases first.change.progress fits with kept | ⟨failed, deploying, _⟩
      · exact kept
      · rcases way with same | ⟨_, active⟩
        · rw [same, failed] at deploying
          cases deploying
        · rw [active] at deploying
          cases deploying
    rcases second.change.progress (first.change.fits fits) with kept | ⟨failed, rest⟩
    · exact .inl (UInt8.le_trans early kept)
    · rcases way with same | ⟨_, active⟩
      · exact .inr ⟨same ▸ failed, rest⟩
      · rw [active] at failed
        cases failed

theorem sound_ofNetwork (id : String) (n : Network) (now : Calendar.Timestamp) :
    Sound (ofNetwork id n now) (ofNetwork id n now) :=
  ⟨⟨0, rfl, by decide⟩, .refl _, rfl⟩

theorem sound_after {first d : Deployment} (sound : Sound first d) (now : Calendar.Timestamp) (c : Call) :
    Sound first (d.after now c) ∧ Follows c d (d.after now c) := by
  unfold after
  cases accepted : (c.edit now).run d with
  | error e d' =>
    rw [eq_of_error accepted]
    exact ⟨sound, (Changed.refl d).follows sound.fits c⟩
  | ok _ d' =>
    cases c with
    | advance progress =>
      have changed := changed_advance accepted
      exact ⟨sound.changed changed, changed.follows sound.fits _⟩
    | transition target =>
      have changed := changed_transition accepted
      exact ⟨sound.changed changed, changed.follows sound.fits _⟩
    | apply patch =>
      obtain ⟨between, first, way, second⟩ := changed_apply accepted
      exact ⟨(sound.changed first).changed second, follows_apply patch first way second sound.fits⟩

theorem sound_run {first d : Deployment} (sound : Sound first d) (calls : List (Calendar.Timestamp × Call)) :
    Sound first (d.run calls) := by
  induction calls generalizing d with
  | nil => exact sound
  | cons c rest ih => exact ih (sound_after sound c.1 c.2).1

/-- Every arrow is open: a transition along it is accepted. -/
theorem status_after_transition {d : Deployment} {t : Status} (move : d.status.Move t) (now : Calendar.Timestamp) :
    (d.after now (.transition t)).status = t := by
  have accepted : (Call.edit now (.transition t)).run d = .ok () _ :=
    transition_eq_ok_iff.mpr ⟨canTransition_iff.mpr (.inl move), rfl⟩
  rw [after, accepted]

/-- The life of a deployment, from its creation through any calls at any times. The progress always fits the
    status, and what the deployment was created with stays. One more call moves the status along the arrows,
    each of which is open, and loses no progress but in another try after an error. -/
theorem lifecycle (id : String) (n : Network) (start : Calendar.Timestamp)
    (calls : List (Calendar.Timestamp × Call)) :
    let first := ofNetwork id n start
    let d := first.run calls
    Sound first d ∧ (∀ now c, Follows c d (d.after now c)) ∧
      ∀ now t, d.status.Move t → (d.after now (.transition t)).status = t := by
  intro first d
  have sound : Sound first d := sound_run (sound_ofNetwork id n start) calls
  exact ⟨sound, fun now c => (sound_after sound now c).2, fun now t move => status_after_transition move now⟩

end Deployment

end FabricTopology
