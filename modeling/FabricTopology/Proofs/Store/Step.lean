import FabricTopology.Proofs.Deployment.Patch
import FabricTopology.Proofs.Store.Records

/-!
The calls to a store. Each is answered from what the store shows (`answer_perform`), and an answered call does
nothing to the store or makes one write to the table that it is about; the answer tells which (`effect`).
-/
namespace FabricTopology.Store

/-- A call to a store. -/
inductive Call where
  | listNetworks
  | getNetwork (id : String)
  | createNetwork (n : Network)
  | updateNetwork (id : String) (p : NetworkPatch)
  | deleteNetwork (id : String)
  | listDeployments
  | getDeployment (id : String)
  | createDeployment (networkId : String)
  | updateDeployment (id : String) (p : DeploymentPatch)
  | deleteDeployment (id : String)

/-- What a store answers. -/
inductive Answer where
  | networks (records : List Network)
  | network (record : Option Network)
  | deployments (records : List Deployment)
  | deployment (record : Option Deployment)
  | outcome (result : Except Failure Deployment)
  | found (was : Bool)

/-- A call, with the id that is at hand for a new record and the time. -/
structure Step where
  freshId : String
  now : Calendar.Timestamp
  call : Call

/-- The answer to a step and the store after it. -/
def perform (s : Store) (e : Step) : Answer × Store :=
  match e.call with
  | .listNetworks => (.networks s.listNetworks, s)
  | .getNetwork id => (.network (s.getNetwork id), s)
  | .createNetwork n => let (n, after) := s.createNetwork e.freshId e.now n; (.network (some n), after)
  | .updateNetwork id p => let (n, after) := s.updateNetwork e.now id p; (.network n, after)
  | .deleteNetwork id => let (was, after) := s.deleteNetwork id; (.found was, after)
  | .listDeployments => (.deployments s.listDeployments, s)
  | .getDeployment id => (.deployment (s.getDeployment id), s)
  | .createDeployment id => let (r, after) := s.createDeployment e.freshId e.now id; (.outcome r, after)
  | .updateDeployment id p => let (r, after) := s.updateDeployment e.now id p; (.outcome r, after)
  | .deleteDeployment id => let (was, after) := s.deleteDeployment id; (.found was, after)

/-- What an answered call wrote to the networks. -/
def networkWrite? : Call × Answer → Option (Write Network)
  | (.createNetwork _, .network (some n)) => some (.created n.id n)
  | (.updateNetwork id _, .network (some n)) => some (.changed id n)
  | (.deleteNetwork id, .found true) => some (.deleted id)
  | _ => none

/-- What an answered call wrote to the deployments. -/
def deploymentWrite? : Call × Answer → Option (Write Deployment)
  | (.createDeployment _, .outcome (.ok d)) => some (.created d.id d)
  | (.updateDeployment id _, .outcome (.ok d)) => some (.changed id d)
  | (.deleteDeployment id, .found true) => some (.deleted id)
  | _ => none

/-- Whether a call is about networks; the others are about deployments. -/
def Call.isAboutNetworks : Call → Bool
  | .listNetworks | .getNetwork _ | .createNetwork _ | .updateNetwork _ _ | .deleteNetwork _ => true
  | .listDeployments | .getDeployment _ | .createDeployment _ | .updateDeployment _ _ | .deleteDeployment _ => false

/-- Whether an answer says that there is no such record or that the call failed. -/
def Answer.isRefusal : Answer → Bool
  | .network none | .deployment none | .outcome (.error _) | .found false => true
  | _ => false

/-- What a patch at some time comes to: the record after it or why it is rejected. -/
def patched (d : Deployment) (p : DeploymentPatch) (now : Calendar.Timestamp) :
    Except Failure Deployment :=
  match (Deployment.apply p now).run d with
  | .ok _ patched => .ok patched
  | .error e _ => .error e

/-- The answer to a step, from what the store shows before it. -/
def expected (s : Store) (e : Step) : Answer :=
  match e.call with
  | .listNetworks => .networks s.listNetworks
  | .getNetwork id => .network (s.getNetwork id)
  | .createNetwork n => .network (some { n with id := e.freshId, createdAt := some e.now, updatedAt := some e.now })
  | .updateNetwork id p => .network ((s.getNetwork id).map fun n => { p.apply n with updatedAt := some e.now })
  | .deleteNetwork id => .found (s.getNetwork id).isSome
  | .listDeployments => .deployments s.listDeployments
  | .getDeployment id => .deployment (s.getDeployment id)
  | .createDeployment id => .outcome (match s.getNetwork id with
    | some n => .ok (.ofNetwork e.freshId n e.now)
    | none => .error (.networkNotFound id))
  | .updateDeployment id p => .outcome (match s.getDeployment id with
    | some d => patched d p e.now
    | none => .error (.deploymentNotFound id))
  | .deleteDeployment id => .found (s.getDeployment id).isSome

theorem answer_perform (s : Store) (e : Step) : (s.perform e).1 = s.expected e := by
  obtain ⟨freshId, now, call⟩ := e
  cases call with
  | listNetworks => rfl
  | getNetwork id => rfl
  | createNetwork n => rfl
  | updateNetwork id p => cases stands : s.getNetwork id <;> simp [perform, expected, updateNetwork, stands]
  | deleteNetwork id => cases stands : s.getNetwork id <;> simp [perform, expected, deleteNetwork, stands]
  | listDeployments => rfl
  | getDeployment id => rfl
  | createDeployment id =>
    cases stands : s.getNetwork id <;> simp [perform, expected, createDeployment, findNetwork, addDeployment, stands]
  | updateDeployment id p =>
    cases stands : s.getDeployment id with
    | none => simp [perform, expected, updateDeployment, stands]
    | some d =>
      cases accepted : (Deployment.apply p now).run d <;>
        simp [perform, expected, updateDeployment, patched, stands, accepted]
  | deleteDeployment id => cases stands : s.getDeployment id <;> simp [perform, expected, deleteDeployment, stands]

/-- What a step can do to a store, by its answer: nothing, or one write to the table that the call is about. -/
inductive Effect (s : Store) (e : Step) (a : Answer) (after : Store) : Prop where
  | nothing (noNetwork : networkWrite? (e.call, a) = none) (noDeployment : deploymentWrite? (e.call, a) = none)
      (same : after = s)
  | network {w : Write Network} (written : networkWrite? (e.call, a) = some w)
      (lawful : Lawful (·.createdAt) (·.id) s.networks e.freshId e.now w)
      (stored : after = { s with networks := s.networks.write w })
      (noDeployment : deploymentWrite? (e.call, a) = none)
      (about : e.call.isAboutNetworks = true) (accepted : a.isRefusal = false)
  | deployment {w : Write Deployment} (written : deploymentWrite? (e.call, a) = some w)
      (lawful : Lawful (fun d => some d.createdAt) (·.id) s.deployments e.freshId e.now w)
      (stored : after = { s with deployments := s.deployments.write w })
      (noNetwork : networkWrite? (e.call, a) = none)
      (about : e.call.isAboutNetworks = false) (accepted : a.isRefusal = false)

/-! ### Call by call -/

section
variable (s : Store) (freshId : String) (now : Calendar.Timestamp)

theorem effect_updateNetwork (id : String) (p : NetworkPatch) : Effect s ⟨freshId, now, .updateNetwork id p⟩
    (.network (s.updateNetwork now id p).1) (s.updateNetwork now id p).2 := by
  cases stands : s.getNetwork id with
  | none =>
    simp only [updateNetwork, stands]
    exact .nothing rfl rfl rfl
  | some n =>
    simp only [updateNetwork, stands]
    exact .network rfl (.changed stands rfl rfl) rfl rfl rfl rfl

theorem effect_deleteNetwork (id : String) : Effect s ⟨freshId, now, .deleteNetwork id⟩
    (.found (s.deleteNetwork id).1) (s.deleteNetwork id).2 := by
  cases stands : s.getNetwork id with
  | none =>
    simp only [deleteNetwork, stands]
    exact .nothing rfl rfl rfl
  | some n =>
    simp only [deleteNetwork, stands]
    exact .network rfl (.deleted id) rfl rfl rfl rfl

theorem effect_createDeployment (networkId : String) : Effect s ⟨freshId, now, .createDeployment networkId⟩
    (.outcome (s.createDeployment freshId now networkId).1) (s.createDeployment freshId now networkId).2 := by
  cases stands : s.getNetwork networkId with
  | none =>
    simp only [createDeployment, findNetwork, stands]
    exact .nothing rfl rfl rfl
  | some n =>
    simp only [createDeployment, findNetwork, stands, addDeployment]
    exact .deployment rfl (.created rfl rfl) rfl rfl rfl rfl

theorem effect_updateDeployment (id : String) (p : DeploymentPatch) : Effect s ⟨freshId, now, .updateDeployment id p⟩
    (.outcome (s.updateDeployment now id p).1) (s.updateDeployment now id p).2 := by
  cases stands : s.getDeployment id with
  | none =>
    rw [updateDeployment_of_missing stands]
    exact .nothing rfl rfl rfl
  | some d =>
    cases accepted : (Deployment.apply p now).run d with
    | error failure left =>
      rw [updateDeployment_of_error stands accepted]
      exact .nothing rfl rfl rfl
    | ok _ d' =>
      rw [updateDeployment_of_ok stands accepted]
      have origin := Deployment.sameOrigin_apply accepted
      exact .deployment rfl (.changed stands origin.id (congrArg some origin.createdAt)) rfl rfl rfl rfl

theorem effect_deleteDeployment (id : String) : Effect s ⟨freshId, now, .deleteDeployment id⟩
    (.found (s.deleteDeployment id).1) (s.deleteDeployment id).2 := by
  cases stands : s.getDeployment id with
  | none =>
    simp only [deleteDeployment, stands]
    exact .nothing rfl rfl rfl
  | some d =>
    simp only [deleteDeployment, stands]
    exact .deployment rfl (.deleted id) rfl rfl rfl rfl

end

theorem effect (s : Store) (e : Step) : Effect s e (s.perform e).1 (s.perform e).2 := by
  obtain ⟨freshId, now, call⟩ := e
  cases call with
  | listNetworks => exact .nothing rfl rfl rfl
  | getNetwork id => exact .nothing rfl rfl rfl
  | createNetwork n => exact .network rfl (.created rfl rfl) rfl rfl rfl rfl
  | updateNetwork id p => exact s.effect_updateNetwork freshId now id p
  | deleteNetwork id => exact s.effect_deleteNetwork freshId now id
  | listDeployments => exact .nothing rfl rfl rfl
  | getDeployment id => exact .nothing rfl rfl rfl
  | createDeployment networkId => exact s.effect_createDeployment freshId now networkId
  | updateDeployment id p => exact s.effect_updateDeployment freshId now id p
  | deleteDeployment id => exact s.effect_deleteDeployment freshId now id

/-! ### What an effect tells -/

namespace Effect
variable {s : Store} {e : Step} {a : Answer} {after : Store}

/-- The answer tells all that happens to the networks. -/
theorem networks_eq (effect : Effect s e a after) :
    after.networks = s.networks.writeAll (networkWrite? (e.call, a)).toList := by
  cases effect with
  | nothing noNetwork _ same => rw [noNetwork, same]; rfl
  | network written _ stored => rw [written, stored]; rfl
  | deployment _ _ stored noNetwork => rw [noNetwork, stored]; rfl

/-- The answer tells all that happens to the deployments. -/
theorem deployments_eq (effect : Effect s e a after) :
    after.deployments = s.deployments.writeAll (deploymentWrite? (e.call, a)).toList := by
  cases effect with
  | nothing _ noDeployment same => rw [noDeployment, same]; rfl
  | network _ _ stored noDeployment => rw [noDeployment, stored]; rfl
  | deployment written _ stored => rw [written, stored]; rfl

theorem lawful_network (effect : Effect s e a after) {w : Write Network}
    (written : networkWrite? (e.call, a) = some w) :
    Lawful (·.createdAt) (·.id) s.networks e.freshId e.now w := by
  cases effect with
  | nothing noNetwork => rw [noNetwork] at written; cases written
  | network written' lawful => rw [written'] at written; cases written; exact lawful
  | deployment _ _ _ noNetwork => rw [noNetwork] at written; cases written

theorem lawful_deployment (effect : Effect s e a after) {w : Write Deployment}
    (written : deploymentWrite? (e.call, a) = some w) :
    Lawful (fun d => some d.createdAt) (·.id) s.deployments e.freshId e.now w := by
  cases effect with
  | nothing _ noDeployment => rw [noDeployment] at written; cases written
  | network _ _ _ noDeployment => rw [noDeployment] at written; cases written
  | deployment written' lawful => rw [written'] at written; cases written; exact lawful

end Effect

/-- A call that creates no deployment writes one that was there before, or deletes one. -/
theorem origin_of_written {s : Store} {e : Step} (other : ∀ networkId, e.call ≠ .createDeployment networkId)
    {w : Write Deployment} (written : deploymentWrite? (e.call, (s.perform e).1) = some w) :
    (∃ id d old, w = .changed id d ∧ s.getDeployment id = some old ∧ d.SameOrigin old) ∨ ∃ id, w = .deleted id := by
  rw [answer_perform] at written
  obtain ⟨freshId, now, call⟩ := e
  cases call with
  | createDeployment networkId => exact absurd rfl (other networkId)
  | updateDeployment id p =>
    cases known : s.getDeployment id with
    | none => simp [expected, known, deploymentWrite?] at written
    | some old =>
      cases accepted : (Deployment.apply p now).run old with
      | error failure left => simp [expected, known, patched, accepted, deploymentWrite?] at written
      | ok _ d =>
        simp only [expected, known, patched, accepted, deploymentWrite?, Option.some.injEq] at written
        exact .inl ⟨id, d, old, written.symm, known, Deployment.sameOrigin_apply accepted⟩
  | deleteDeployment id =>
    cases known : s.getDeployment id with
    | none => simp [expected, known, deploymentWrite?] at written
    | some old =>
      simp only [expected, known, deploymentWrite?, Option.isSome_some, Option.some.injEq] at written
      exact .inr ⟨id, written.symm⟩
  | _ => simp [deploymentWrite?] at written

/-- A deployment after a call that creates none was there before. -/
theorem getDeployment_perform {s : Store} {e : Step} (other : ∀ networkId, e.call ≠ .createDeployment networkId)
    {id : String} {d : Deployment} (stands : (s.perform e).2.getDeployment id = some d) :
    ∃ old, s.getDeployment id = some old ∧ d.SameOrigin old := by
  cases s.effect e with
  | nothing _ _ same => exact ⟨d, same ▸ stands, .refl d⟩
  | network _ _ stored =>
    rw [stored] at stands
    exact ⟨d, stands, .refl d⟩
  | deployment written _ stored =>
    rw [stored, getDeployment, Table.get?_write] at stands
    rcases origin_of_written other written with ⟨target, changed, old, rfl, known, same⟩ | ⟨target, rfl⟩
    · rw [Write.state] at stands
      split at stands
      · next here =>
        cases stands
        exact ⟨old, here ▸ known, same⟩
      · exact ⟨d, stands, .refl d⟩
    · rw [Write.state] at stands
      split at stands
      · cases stands
      · exact ⟨d, stands, .refl d⟩

/-- A network is written with the time of the step. -/
theorem updatedAt_of_written {s : Store} {e : Step} {w : Write Network}
    (written : networkWrite? (e.call, (s.perform e).1) = some w) (id : String) (n : Network)
    (record : w = .created id n ∨ w = .changed id n) : n.updatedAt = some e.now := by
  rw [answer_perform] at written
  obtain ⟨freshId, now, call⟩ := e
  cases call with
  | createNetwork m =>
    cases written
    rcases record with same | same <;> cases same
    rfl
  | updateNetwork target p =>
    cases stands : s.getNetwork target with
    | none => simp [expected, stands, networkWrite?] at written
    | some old =>
      simp only [expected, stands, networkWrite?, Option.map_some, Option.some.injEq] at written
      subst written
      rcases record with same | same <;> cases same
      rfl
  | deleteNetwork target =>
    cases stands : s.getNetwork target with
    | none => simp [expected, stands, networkWrite?] at written
    | some old =>
      simp only [expected, stands, networkWrite?, Option.isSome_some, Option.some.injEq] at written
      subst written
      rcases record with same | same <;> cases same
  | _ => simp [networkWrite?] at written

end FabricTopology.Store
