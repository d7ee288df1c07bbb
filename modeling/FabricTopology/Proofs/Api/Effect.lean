import FabricTopology.Api.Handler
import FabricTopology.Proofs.Store.Step

/-!
What a request does to the store. A route only reads or it makes one call to the store, and the store is left as it
was by what only reads and by what is refused (`handle_leaves`). No request finds the server broken.
-/
namespace FabricTopology.Api

/-! ### Failures -/

/-- A failure that the request is to blame for, and not what serves it. -/
def Blames : Failure → Prop
  | .io _ | .serialization _ => False
  | _ => True

theorem status_failed {e : Failure} (blames : Blames e) : (failed e).status = 400 ∨ (failed e).status = 404 := by
  cases e with
  | networkNotFound => exact .inr rfl
  | deploymentNotFound => exact .inr rfl
  | templateNotFound => exact .inr rfl
  | invalidTransition => exact .inl rfl
  | invalidInput => exact .inl rfl
  | io => exact blames.elim
  | serialization => exact blames.elim

theorem blames_advance {d left : Deployment} {progress : UInt8} {now : Calendar.Timestamp} {e : Failure}
    (rejected : (Deployment.advance progress now).run d = .error e left) : Blames e := by
  rw [Deployment.run_advance] at rejected
  split at rejected
  · cases rejected
    trivial
  · split at rejected
    · cases rejected
      trivial
    · cases rejected

theorem blames_transition {d left : Deployment} {target : Status} {now : Calendar.Timestamp} {e : Failure}
    (rejected : (Deployment.transition target now).run d = .error e left) : Blames e := by
  rw [Deployment.run_transition] at rejected
  split at rejected
  · cases rejected
  · cases rejected
    trivial

theorem blames_applyProgress {d left : Deployment} {progress : Option UInt8} {now : Calendar.Timestamp} {e : Failure}
    (rejected : (Deployment.applyProgress progress now).run d = .error e left) : Blames e := by
  cases progress with
  | none => cases rejected
  | some p => exact blames_advance rejected

theorem blames_applyStatus {d left : Deployment} {status : Option Status} {now : Calendar.Timestamp} {e : Failure}
    (rejected : (Deployment.applyStatus status now).run d = .error e left) : Blames e := by
  cases status with
  | none => cases rejected
  | some target =>
    rw [Deployment.run_applyStatus_some] at rejected
    split at rejected
    · cases rejected
    · exact blames_transition rejected

/-- A patch fails in its progress or in its status. -/
theorem blames_apply {d left : Deployment} {p : DeploymentPatch} {now : Calendar.Timestamp} {e : Failure}
    (rejected : (Deployment.apply p now).run d = .error e left) : Blames e := by
  rw [Deployment.run_apply, Deployment.applySteps, EStateM.run_bind] at rejected
  cases advanced : (Deployment.applyProgress p.progress now).run d with
  | error f _ =>
    rw [advanced] at rejected
    cases rejected
    exact blames_applyProgress advanced
  | ok _ d' =>
    rw [advanced] at rejected
    simp only [EStateM.run_bind] at rejected
    cases moved : (Deployment.applyStatus p.status now).run d' with
    | error f _ =>
      rw [moved] at rejected
      cases rejected
      exact blames_applyStatus moved
    | ok _ d'' =>
      rw [moved] at rejected
      simp only [Deployment.run_applyUptime, reduceCtorEq] at rejected

/-! ### Routes -/

/-- Whether a route only asks to be shown something. -/
def Route.isReading : Route → Bool
  | .listNetworks | .showNetwork _ | .exportArtifact _ _ | .validateNetwork _ | .listCommands _ | .showCommand _ _
  | .compile | .listTemplates | .listDeployments | .showDeployment _ => true
  | _ => false

/-- Whether a request only asks to be shown something: it gets a resource, or it posts a network to be compiled, or
    to a path that ends in a validation. -/
def Request.isReading (r : Request) : Bool :=
  r.method == .get ||
    r.method == .post &&
      (segments? r.path == some ["api", "compile"] || (segments? r.path).any (·.getLast? == some "validate"))

/-- What only asks to be shown something takes a route that only shows something, if it takes any. -/
theorem isReading_of_ofRequest? {r : Request} {route : Route} (routed : Route.ofRequest? r = some route)
    (reading : r.isReading = true) : route.isReading = true := by
  obtain ⟨parts, cut, path⟩ := Option.bind_eq_some_iff.mp routed
  obtain ⟨method, _, _⟩ := r
  simp only at cut path
  simp only [Request.isReading, cut] at reading
  unfold Route.ofPath? at path
  split at path
  · unfold Route.ofNetworkPath? at path
    split at path <;> cases path <;> first | rfl | simp at reading
  · unfold Route.ofTemplatePath? at path
    split at path <;> cases path <;> first | rfl | simp at reading
  · unfold Route.ofDeploymentPath? at path
    split at path <;> cases path <;> first | rfl | simp at reading
  · unfold Route.ofCompilePath? at path
    split at path
    · cases path
      rfl
    · cases path
  · cases path

/-! ### What a route does to the store -/

/-- The calls to the store that routes stand for. -/
inductive Route.Makes : Route → Store.Call → Prop where
  | creates (n : Network) : Makes .createNetwork (.createNetwork n)
  | instantiates (template : String) (n : Network) : Makes (.instantiateTemplate template) (.createNetwork n)
  | updates (id : String) (p : NetworkPatch) : Makes (.updateNetwork id) (.updateNetwork id p)
  | deletes (id : String) : Makes (.deleteNetwork id) (.deleteNetwork id)
  | deploys (networkId : String) : Makes .createDeployment (.createDeployment networkId)
  | redeploys (id : String) (p : DeploymentPatch) : Makes (.updateDeployment id) (.updateDeployment id p)
  | retires (id : String) : Makes (.deleteDeployment id) (.deleteDeployment id)

/-- What a request can do to a store by its route: it is shown something, it is refused, or it makes a call that the
    store accepts. -/
inductive Effect (s : Store) (id : String) (now : Calendar.Timestamp) (route : Route) :
    Response × Store → Prop where
  | shown (content : Content) (reading : route.isReading = true) : Effect s id now route (.ok content, s)
  | refused {a : Response} (status : a.status = 400 ∨ a.status = 404) : Effect s id now route (a, s)
  | changed {a : Response} {after : Store} {call : Store.Call} (makes : route.Makes call)
      (accepted : (s.perform ⟨id, now, call⟩).1.isRefusal = false) (stored : after = (s.perform ⟨id, now, call⟩).2)
      (status : a.status = 200 ∨ a.status = 201 ∨ a.status = 204) : Effect s id now route (a, after)

section
variable {s : Store} {id : String} {now : Calendar.Timestamp} {route : Route}

theorem effect_aboutNetwork (reading : route.isReading = true) (target : String) (content : Network → Content) :
    Effect s id now route (aboutNetwork s target content, s) := by
  rw [aboutNetwork]
  cases s.getNetwork target with
  | none => exact .refused (.inr rfl)
  | some n => exact .shown _ reading

theorem effect_withBody {α : Type} {body : Option String} {read? : Json → Option α} {act : α → Response × Store}
    (acts : ∀ a, Effect s id now route (act a)) : Effect s id now route (withBody s body read? act) := by
  rw [withBody]
  cases body.bind fun text => (Json.parse? text).bind read? with
  | none => exact .refused (.inl rfl)
  | some a => exact acts a

/-- A call that is made and accepted. -/
theorem Effect.of_accepted {a : Response} {after : Store} {call : Store.Call} (makes : route.Makes call)
    (accepted : (s.expected ⟨id, now, call⟩).isRefusal = false) (stored : after = (s.perform ⟨id, now, call⟩).2)
    (status : a.status = 200 ∨ a.status = 201 ∨ a.status = 204) : Effect s id now route (a, after) :=
  .changed makes (by rw [s.answer_perform, accepted]) stored status

theorem effect_create (n : Network) (makes : route.Makes (.createNetwork n)) :
    Effect s id now route (create s id now n) :=
  .of_accepted makes rfl rfl (.inr (.inl rfl))

theorem effect_update (target : String) (p : NetworkPatch) :
    Effect s id now (.updateNetwork target) (update s now target p) := by
  cases stands : s.getNetwork target with
  | none =>
    simp only [update, Store.updateNetwork, stands]
    exact .refused (.inr rfl)
  | some n =>
    simp only [update, Store.updateNetwork, stands]
    refine .of_accepted (.updates target p) ?_ ?_ (.inl rfl)
    · simp [Store.expected, stands, Store.Answer.isRefusal]
    · simp [Store.perform, Store.updateNetwork, stands]

theorem effect_remove (target : String) : Effect s id now (.deleteNetwork target) (remove s target) := by
  cases stands : s.getNetwork target with
  | none =>
    simp only [remove, Store.deleteNetwork, stands]
    exact .refused (.inr rfl)
  | some n =>
    simp only [remove, Store.deleteNetwork, stands]
    refine .of_accepted (.deletes target) ?_ ?_ (.inr (.inr rfl))
    · simp [Store.expected, stands, Store.Answer.isRefusal]
    · simp [Store.perform, Store.deleteNetwork, stands]

theorem effect_deploy (o : DeploymentOrder) : Effect s id now .createDeployment (deploy s id now o) := by
  cases stands : s.getNetwork o.networkId with
  | none =>
    simp only [deploy, Store.createDeployment, Store.findNetwork, stands]
    exact .refused (status_failed trivial)
  | some n =>
    simp only [deploy, Store.createDeployment, Store.findNetwork, stands]
    refine .of_accepted (.deploys o.networkId) ?_ ?_ (.inr (.inl rfl))
    · simp [Store.expected, stands, Store.Answer.isRefusal]
    · simp [Store.perform, Store.createDeployment, Store.findNetwork, stands]

theorem effect_redeploy (target : String) (p : DeploymentPatch) :
    Effect s id now (.updateDeployment target) (redeploy s now target p) := by
  cases stands : s.getDeployment target with
  | none =>
    rw [redeploy, Store.updateDeployment_of_missing stands]
    exact .refused (status_failed trivial)
  | some d =>
    cases applied : (Deployment.apply p now).run d with
    | error e left =>
      rw [redeploy, Store.updateDeployment_of_error stands applied]
      exact .refused (status_failed (blames_apply applied))
    | ok _ changed =>
      rw [redeploy, Store.updateDeployment_of_ok stands applied]
      refine .of_accepted (.redeploys target p) ?_ ?_ (.inl rfl)
      · simp [Store.expected, Store.patched, stands, applied, Store.Answer.isRefusal]
      · simp [Store.perform, Store.updateDeployment_of_ok stands applied]

theorem effect_retire (target : String) : Effect s id now (.deleteDeployment target) (retire s target) := by
  cases stands : s.getDeployment target with
  | none =>
    simp only [retire, Store.deleteDeployment, stands]
    exact .refused (.inr rfl)
  | some d =>
    simp only [retire, Store.deleteDeployment, stands]
    refine .of_accepted (.retires target) ?_ ?_ (.inr (.inr rfl))
    · simp [Store.expected, stands, Store.Answer.isRefusal]
    · simp [Store.perform, Store.deleteDeployment, stands]

theorem effect_instantiate (template : String) :
    Effect s id now (.instantiateTemplate template) (instantiate s id now template) := by
  rw [instantiate, Template.find]
  cases Template.all.attach.find? fun t => t.val.id == template with
  | none => exact .refused (status_failed trivial)
  | some t => exact effect_create _ (.instantiates template _)

end

theorem effect_answer (s : Store) (id : String) (now : Calendar.Timestamp) (body : Option String) (route : Route) :
    Effect s id now route (answer s id now body route) := by
  cases route with
  | listNetworks => exact .shown _ rfl
  | createNetwork => exact effect_withBody fun n => effect_create n (.creates n)
  | showNetwork target => exact effect_aboutNetwork rfl target _
  | updateNetwork target => exact effect_withBody fun p => effect_update target p
  | deleteNetwork target => exact effect_remove target
  | exportArtifact target artifact =>
    rw [answer, exportArtifact]
    cases Artifact.parse artifact with
    | error e => exact .refused (.inr rfl)
    | ok a => exact effect_aboutNetwork rfl target _
  | validateNetwork target => exact effect_aboutNetwork rfl target _
  | listCommands target => exact effect_aboutNetwork rfl target _
  | showCommand target command =>
    rw [answer, showCommand, PeerCommand.parse]
    cases PeerCommand.ofName? command with
    | none => exact .refused (status_failed trivial)
    | some c => exact effect_aboutNetwork rfl target _
  | compile => exact effect_withBody fun n => .shown _ rfl
  | listTemplates => exact .shown _ rfl
  | instantiateTemplate template => exact effect_instantiate template
  | listDeployments => exact .shown _ rfl
  | createDeployment => exact effect_withBody fun o => effect_deploy o
  | showDeployment target =>
    rw [answer, showDeployment]
    cases s.getDeployment target with
    | none => exact .refused (.inr rfl)
    | some d => exact .shown _ rfl
  | updateDeployment target => exact effect_withBody fun p => effect_redeploy target p
  | deleteDeployment target => exact effect_retire target

/-- What makes a call does not only ask to be shown something. -/
theorem Route.Makes.isReading_eq_false {route : Route} {call : Store.Call} (makes : route.Makes call) :
    route.isReading = false := by
  cases makes <;> rfl

theorem Effect.leaves {s : Store} {id : String} {now : Calendar.Timestamp} {route : Route} {answered : Response × Store}
    (effect : Effect s id now route answered) :
    (400 ≤ answered.1.status ∨ route.isReading = true → answered.2 = s) ∧ answered.1.status ≠ 500 := by
  cases effect with
  | shown content reading => exact ⟨fun _ => rfl, show 200 ≠ 500 by decide⟩
  | refused status => exact ⟨fun _ => rfl, by simp only; omega⟩
  | changed makes accepted stored status =>
    simp only
    refine ⟨?_, by omega⟩
    rintro (refused | reading)
    · omega
    · rw [makes.isReading_eq_false] at reading
      cases reading

/-- A request that is refused or only asks to be shown something leaves networks and deployments as they were, and no
    request finds the server broken. -/
theorem handle_leaves (s : Store) (id : String) (now : Calendar.Timestamp) (r : Request) :
    (400 ≤ (handle s id now r).1.status ∨ r.isReading = true → (handle s id now r).2 = s) ∧
      (handle s id now r).1.status ≠ 500 := by
  rw [handle]
  cases routed : Route.ofRequest? r with
  | none => exact ⟨fun _ => rfl, show 404 ≠ 500 by decide⟩
  | some route =>
    obtain ⟨leaves, sound⟩ := (effect_answer s id now r.body route).leaves
    exact ⟨fun h => leaves (h.imp_right (isReading_of_ofRequest? routed)), sound⟩

/-- A store with a deployment that has only begun. -/
def underway : Store := ⟨[], [("d1", .ofNetwork "d1" (.named "net") .epoch)]⟩

/-- A patch with progress that would be accepted and a status that is not. -/
def halfway : Request :=
  ⟨.patch, "/api/deployments/d1", some "\x7b\"progress\":50,\"status\":\"stopped\"\x7d"⟩

theorem handle_leaves_underway :
    (handle underway "e2" .epoch halfway).1.status = 400 ∧ (handle underway "e2" .epoch halfway).2 = underway := by
  have refused : (handle underway "e2" .epoch halfway).1.status = 400 := by decide +kernel
  exact ⟨refused, (handle_leaves underway "e2" .epoch halfway).1 (.inl (Nat.le_of_eq refused.symm))⟩

end FabricTopology.Api
