import FabricTopology.Proofs.Store.Run
import Mathlib.Data.List.Induction

/-!
Clients that share a store and take turns in any order. A call is made in one turn, but the creation of a
deployment takes two: the first looks up the network and the second inserts the record, and the other clients
may do anything in between. Nothing is lost by that. A deployment shows its network as it stood at some moment
of the run, what a client was told to be written stays until that record is written again, and no two
deployments get the same id (`run_intact`).
-/
namespace FabricTopology

/-- A deployment shows the name of a network and its counts. -/
structure Deployment.Describes (d : Deployment) (n : Network) : Prop where
  networkId : d.networkId = n.id
  networkName : d.networkName = n.name
  peerCount : d.peerCount = (Topology.ofNetwork n).counts.peers
  ordererCount : d.ordererCount = (Topology.ofNetwork n).counts.orderers
  caCount : d.caCount = (Topology.ofNetwork n).counts.cas
  totalNodes : d.totalNodes = d.peerCount + d.ordererCount + d.caCount

theorem Deployment.describes_ofNetwork (id : String) (n : Network) (now : Calendar.Timestamp) :
    (ofNetwork id n now).Describes n := ⟨rfl, rfl, rfl, rfl, rfl, rfl⟩

theorem Deployment.Describes.of_sameOrigin {d old : Deployment} {n : Network} (describes : old.Describes n)
    (same : d.SameOrigin old) : d.Describes n where
  networkId := same.networkId.trans describes.networkId
  networkName := same.networkName.trans describes.networkName
  peerCount := same.peerCount.trans describes.peerCount
  ordererCount := same.ordererCount.trans describes.ordererCount
  caCount := same.caCount.trans describes.caCount
  totalNodes := by
    rw [same.totalNodes, same.peerCount, same.ordererCount, same.caCount]
    exact describes.totalNodes

namespace Store

/-- A creation of a deployment between its two turns: the id that was asked for and the network found there. -/
structure Creation where
  networkId : String
  network : Network

/-- What a client does at its turn: it makes a call, or goes on with the creation it is in the middle of. -/
inductive Action where
  | call (c : Call)
  | resume

/-- A client's turn, with the id that is at hand for a new record and the time. -/
structure Turn where
  client : Nat
  freshId : String
  now : Calendar.Timestamp
  action : Action

/-- A store and the creations that its clients are in the middle of. -/
structure Shared where
  store : Store
  underway : Table Nat Creation

namespace Shared

/-- The call that is answered at a turn, if any, and what is shared after it. A client in the middle of a creation
    can do nothing but resume it, and only such a client can resume. -/
def turn (s : Shared) (t : Turn) : Option (Call × Answer) × Shared :=
  match s.underway.get? t.client, t.action with
  | none, .call (.createDeployment networkId) =>
    match s.store.findNetwork networkId with
    | .error failure => (some (.createDeployment networkId, .outcome (.error failure)), s)
    | .ok n => (none, { s with underway := s.underway.put t.client ⟨networkId, n⟩ })
  | none, .call call =>
    let (answer, store) := s.store.perform ⟨t.freshId, t.now, call⟩
    (some (call, answer), { s with store })
  | some creation, .resume =>
    let (d, store) := s.store.addDeployment t.freshId t.now creation.network
    (some (.createDeployment creation.networkId, .outcome (.ok d)), ⟨store, s.underway.erase t.client⟩)
  | none, .resume | some _, .call _ => (none, s)

/-- What is shared after some turns. -/
def after (s : Shared) (turns : List Turn) : Shared := turns.foldl (fun s t => (s.turn t).2) s

/-- The calls that are answered at some turns, with their answers. -/
def log (s : Shared) : List Turn → List (Call × Answer)
  | [] => []
  | t :: rest => (s.turn t).1.toList ++ (s.turn t).2.log rest

theorem after_append (s : Shared) (earlier later : List Turn) :
    s.after (earlier ++ later) = (s.after earlier).after later := List.foldl_append

theorem after_concat (s : Shared) (turns : List Turn) (t : Turn) :
    s.after (turns ++ [t]) = ((s.after turns).turn t).2 := s.after_append turns [t]

/-! ### One turn -/

/-- What a turn can come to. -/
inductive Turned (s : Shared) (t : Turn) : Option (Call × Answer) × Shared → Prop where
  | whole {call : Call} (other : ∀ networkId, call ≠ .createDeployment networkId) :
      Turned s t (some (call, (s.store.perform ⟨t.freshId, t.now, call⟩).1),
        { s with store := (s.store.perform ⟨t.freshId, t.now, call⟩).2 })
  | refused {networkId : String} (missing : s.store.getNetwork networkId = none) :
      Turned s t (some (.createDeployment networkId, .outcome (.error (.networkNotFound networkId))), s)
  | found {networkId : String} {n : Network} (asked : t.action = .call (.createDeployment networkId))
      (stands : s.store.getNetwork networkId = some n) :
      Turned s t (none, { s with underway := s.underway.put t.client ⟨networkId, n⟩ })
  | inserted {c : Creation} (resumed : t.action = .resume) (underway : s.underway.get? t.client = some c) :
      Turned s t
        (some (.createDeployment c.networkId, .outcome (.ok (s.store.addDeployment t.freshId t.now c.network).1)),
          ⟨(s.store.addDeployment t.freshId t.now c.network).2, s.underway.erase t.client⟩)
  | passed : Turned s t (none, s)

theorem turned (s : Shared) (t : Turn) : Turned s t (s.turn t) := by
  unfold turn
  split
  · next networkId _ asked =>
    cases stands : s.store.getNetwork networkId with
    | none =>
      simp only [findNetwork, stands]
      exact .refused stands
    | some n =>
      simp only [findNetwork, stands]
      exact .found asked stands
  · next call other _ _ => exact .whole other
  · next c underway resumed => exact .inserted resumed underway
  · exact .passed
  · exact .passed

/-- A turn has the effect of the call that it answers, and none if it answers none. -/
theorem effect_turn (s : Shared) (t : Turn) :
    match (s.turn t).1 with
    | none => (s.turn t).2.store = s.store
    | some (call, answer) => Effect s.store ⟨t.freshId, t.now, call⟩ answer (s.turn t).2.store := by
  have turned := s.turned t
  generalize s.turn t = outcome at turned ⊢
  cases turned with
  | whole => exact s.store.effect _
  | refused => exact .nothing rfl rfl rfl
  | found => rfl
  | inserted => exact .deployment rfl (.created rfl rfl) rfl rfl rfl rfl
  | passed => rfl

/-- A creation is underway after a turn if it was before, or if its client has just found its network. -/
theorem underway_turn {s : Shared} {t : Turn} {client : Nat} {c : Creation}
    (underway : (s.turn t).2.underway.get? client = some c) :
    s.underway.get? client = some c ∨ t.client = client ∧ t.action = .call (.createDeployment c.networkId) ∧
      s.store.getNetwork c.networkId = some c.network := by
  have turned := s.turned t
  generalize s.turn t = outcome at turned underway
  cases turned with
  | whole => exact .inl underway
  | refused => exact .inl underway
  | passed => exact .inl underway
  | found asked stands =>
    by_cases here : t.client = client
    · rw [← here, Table.get?_put_self] at underway
      cases underway
      exact .inr ⟨here, asked, stands⟩
    · rw [Table.get?_put_of_ne _ (Ne.symm here)] at underway
      exact .inl underway
  | inserted =>
    by_cases here : t.client = client
    · rw [here, Table.get?_erase_self] at underway
      cases underway
    · rw [Table.get?_erase_of_ne _ (Ne.symm here)] at underway
      exact .inl underway

theorem getDeployment_addDeployment (s : Store) (freshId : String) (now : Calendar.Timestamp) (n : Network)
    (id : String) : (s.addDeployment freshId now n).2.getDeployment id =
      if freshId = id then some (.ofNetwork freshId n now) else s.getDeployment id := Table.get?_put _ _ _ _

/-- A deployment after a turn was there before, or has just been inserted. -/
theorem getDeployment_turn {s : Shared} {t : Turn} {id : String} {d : Deployment}
    (stands : (s.turn t).2.store.getDeployment id = some d) :
    (∃ old, s.store.getDeployment id = some old ∧ d.SameOrigin old) ∨
      t.action = .resume ∧ ∃ c, s.underway.get? t.client = some c ∧ d = .ofNetwork t.freshId c.network t.now := by
  have turned := s.turned t
  generalize s.turn t = outcome at turned stands
  cases turned with
  | whole other => exact .inl (getDeployment_perform other stands)
  | refused => exact .inl ⟨d, stands, .refl d⟩
  | found => exact .inl ⟨d, stands, .refl d⟩
  | passed => exact .inl ⟨d, stands, .refl d⟩
  | @inserted c resumed underway =>
    have stands : (s.store.addDeployment t.freshId t.now c.network).2.getDeployment id = some d := stands
    rw [getDeployment_addDeployment] at stands
    split at stands
    · cases stands
      exact .inr ⟨resumed, _, underway, rfl⟩
    · exact .inl ⟨d, stands, .refl d⟩

/-! ### Records of a kind -/

section
variable {α : Type} (k : Kind α) {s : Shared} {t : Turn} {ids : List String}

theorem table_turn (s : Shared) (t : Turn) :
    k.table (s.turn t).2.store = (k.table s.store).writeAll (k.writes (s.turn t).1.toList) := by
  have effect := s.effect_turn t
  cases answered : (s.turn t).1 with
  | none =>
    rw [answered] at effect
    rw [effect]
    rfl
  | some entry =>
    rw [answered] at effect
    rw [Option.toList_some, k.writes_cons, k.table_eq effect]
    exact congrArg _ (List.append_nil _).symm

theorem filed_turn (filed : Filed k.id (k.table s.store) (t.freshId :: ids)) :
    Filed k.id (k.table (s.turn t).2.store) ids := by
  have unused := filed.fewer (List.sublist_cons_self _ _)
  have effect := s.effect_turn t
  rw [table_turn]
  cases answered : (s.turn t).1 with
  | none => exact unused
  | some entry =>
    rw [answered] at effect
    rw [Option.toList_some, k.writes_cons]
    cases written : k.write? entry with
    | none => exact unused
    | some w => exact filed.write (k.lawful effect written)

theorem table_after (s : Shared) (turns : List Turn) :
    k.table (s.after turns).store = (k.table s.store).writeAll (k.writes (s.log turns)) := by
  induction turns generalizing s with
  | nil => rfl
  | cons t rest ih =>
    have later := ih (s.turn t).2
    rw [table_turn] at later
    rw [log, Kind.writes, List.filterMap_append, Table.writeAll, List.foldl_append]
    exact later

theorem filed_after {earlier later : List Turn}
    (filed : Filed k.id (k.table s.store) ((earlier ++ later).map (·.freshId))) :
    Filed k.id (k.table (s.after earlier).store) (later.map (·.freshId)) := by
  induction earlier generalizing s with
  | nil => exact filed
  | cons t rest ih => exact ih (filed_turn k filed)

end

/-! ### Whole runs -/

/-- What is acknowledged to be written stays as long as no later turn writes the same record. -/
def Stays {α : Type} (write? : Call × Answer → Option (Write α)) (get : Store → String → Option α) (start : Shared)
    (turns : List Turn) : Prop :=
  ∀ earlier t later entry w, turns = earlier ++ t :: later → ((start.after earlier).turn t).1 = some entry →
    write? entry = some w →
    (∀ other ∈ ((start.after (earlier ++ [t])).log later).filterMap write?, other.id ≠ w.id) →
    get (start.after turns).store w.id = w.result

theorem stays {α : Type} (k : Kind α) (start : Shared) (turns : List Turn) :
    Stays k.write? (fun s id => (k.table s).get? id) start turns := by
  rintro earlier t later entry w rfl answered written others
  have wrote : (k.table (start.after (earlier ++ [t])).store).get? w.id = w.result := by
    rw [after_concat, table_turn, answered, Option.toList_some, k.writes_cons, written]
    exact (Table.get?_write _ _ _).trans (w.state_id _)
  show (k.table (start.after (earlier ++ t :: later)).store).get? w.id = w.result
  rw [List.append_cons, after_append, table_after, Table.get?_writeAll, wrote]
  exact Write.lastState_of_ne others _

/-- A client has asked for a deployment of a network and found the network as it stood before that turn. -/
def Found (start : Shared) (turns : List Turn) (client : Nat) (c : Creation) : Prop :=
  ∃ earlier t later, turns = earlier ++ t :: later ∧ t.client = client ∧
    t.action = .call (.createDeployment c.networkId) ∧
    (start.after earlier).store.getNetwork c.networkId = some c.network

/-- A deployment stems from its network: it was inserted at some turn by a client that had found the network, and
    it describes the network as it was found. -/
def Stems (start : Shared) (turns : List Turn) (d : Deployment) : Prop :=
  ∃ earlier t later c, turns = earlier ++ t :: later ∧ t.action = .resume ∧ t.freshId = d.id ∧
    Found start earlier t.client c ∧ d.networkId = c.networkId ∧ d.Describes c.network

variable {start : Shared} {turns : List Turn}

theorem Found.concat {client : Nat} {c : Creation} (found : Found start turns client c) (last : Turn) :
    Found start (turns ++ [last]) client c := by
  obtain ⟨earlier, t, later, rfl, rest⟩ := found
  exact ⟨earlier, t, later ++ [last], by simp, rest⟩

theorem Stems.concat {d old : Deployment} (stems : Stems start turns old) (same : d.SameOrigin old) (last : Turn) :
    Stems start (turns ++ [last]) d := by
  obtain ⟨earlier, t, later, c, rfl, resumed, fresh, found, asked, describes⟩ := stems
  exact ⟨earlier, t, later ++ [last], c, by simp, resumed, fresh.trans same.id.symm, found,
    same.networkId.trans asked, describes.of_sameOrigin same⟩

/-- The creations that clients are in the middle of have found their networks, and the deployments that were not
    there at the start stem from theirs. -/
structure Traced (start : Shared) (turns : List Turn) : Prop where
  underway : ∀ client c, (start.after turns).underway.get? client = some c → Found start turns client c
  deployments : ∀ id d, (start.after turns).store.getDeployment id = some d → start.store.getDeployment id = none →
    Stems start turns d

theorem traced (ready : start.underway = [])
    (filed : Filed Network.id start.store.networks (turns.map (·.freshId))) : Traced start turns := by
  induction turns using List.reverseRecOn with
  | nil =>
    constructor
    · intro client c underway
      rw [show start.after [] = start from rfl, ready] at underway
      cases underway
    · intro id d stands missing
      rw [show start.after [] = start from rfl, missing] at stands
      cases stands
  | append_singleton turns last ih =>
    have before := ih (filed.fewer (by simp))
    constructor
    · intro client c underway
      rw [after_concat] at underway
      rcases underway_turn underway with old | ⟨here, asked, stands⟩
      · exact (before.underway client c old).concat last
      · exact ⟨turns, last, [], rfl, here, asked, stands⟩
    · intro id d stands missing
      rw [after_concat] at stands
      rcases getDeployment_turn stands with ⟨old, known, same⟩ | ⟨resumed, c, underway, rfl⟩
      · exact (before.deployments id old known missing).concat same last
      · have found := before.underway _ c underway
        refine ⟨turns, last, [], c, rfl, resumed, rfl, found, ?_, Deployment.describes_ofNetwork _ _ _⟩
        -- The network was found under its own id.
        obtain ⟨earlier, t, later, rfl, _, _, there⟩ := found
        rw [List.append_assoc] at filed
        exact (filed_after Kind.networks filed).id_of_get? there

/-- How clients begin: at a store that is empty or holds the sample, with an id for each turn that was never given
    before. The clock does not matter. -/
inductive Opening : Store → List Turn → Prop where
  | empty {turns : List Turn} (ids : (turns.map (·.freshId)).Nodup) : Opening .empty turns
  | sample {turns : List Turn} {opened deployed : Calendar.Timestamp}
      (ids : ("sample-1" :: "deploy-1" :: turns.map (·.freshId)).Nodup) : Opening (.sampleAt opened deployed) turns

theorem Opening.filed {store : Store} (opening : Opening store turns) :
    Filed Network.id store.networks (turns.map (·.freshId)) ∧
      Filed Deployment.id store.deployments (turns.map (·.freshId)) := by
  cases opening with
  | empty ids => exact ⟨⟨by simp [Store.empty], ids⟩, ⟨by simp [Store.empty], ids⟩⟩
  | @sample _ opened deployed ids =>
    refine ⟨⟨?_, ?_⟩, ⟨?_, ?_⟩⟩
    · intro r member
      rw [List.mem_singleton.mp member]
      rfl
    · exact ids.sublist ((List.sublist_cons_self _ _).cons_cons _)
    · intro r member
      rw [List.mem_singleton.mp member]
      rfl
    · exact ids.sublist (List.sublist_cons_self _ _)

/-- What clients can rely on, whatever order their turns come in: every deployment that was not there at the start
    describes a version of its network from an earlier moment, what is acknowledged stays in effect, and no two
    deployments have the same id. -/
structure Intact (start : Shared) (turns : List Turn) : Prop where
  described : ∀ d ∈ (start.after turns).store.listDeployments, start.store.getDeployment d.id = none →
    Stems start turns d
  networksStay : Stays networkWrite? getNetwork start turns
  deploymentsStay : Stays deploymentWrite? getDeployment start turns
  distinct : ((start.after turns).store.listDeployments.map (·.id)).Nodup

/-- Turns of any clients in any order keep the store intact, from an empty one or the sample, if ids are fresh. -/
theorem run_intact {store : Store} {turns : List Turn} (opening : Opening store turns) : Intact ⟨store, []⟩ turns := by
  obtain ⟨networks, deployments⟩ := opening.filed
  have known : Traced ⟨store, []⟩ turns := traced rfl networks
  rw [← List.append_nil turns] at deployments
  have filed := filed_after Kind.deployments (s := ⟨store, []⟩) deployments
  have listed := listed_perm (fun d : Deployment => some d.createdAt) (·.id)
    ((⟨store, []⟩ : Shared).after turns).store.deployments.values
  refine ⟨?_, stays Kind.networks _ _, stays Kind.deployments _ _, ?_⟩
  · intro d member missing
    have stands := filed.mem_values_iff.mp (listed.mem_iff.mp member)
    exact known.deployments d.id d stands missing
  · have ids := filed.distinct
    rw [filed.keys_eq] at ids
    exact (listed.map _).nodup_iff.mpr ids

/-- A network is renamed and deleted while a deployment of it is created. -/
def race : List Turn :=
  [⟨0, "a", second 11 (by decide), .call (.createNetwork (.named "net"))⟩,
    ⟨1, "b", second 12 (by decide), .call (.createDeployment "a")⟩,
    ⟨0, "c", second 13 (by decide), .call (.updateNetwork "a"
      ⟨some "other", none, none, none, none, none, none, none, none, none, none, none⟩)⟩,
    ⟨0, "d", second 14 (by decide), .call (.deleteNetwork "a")⟩,
    ⟨1, "e", second 12 (by decide), .resume⟩]

theorem race_intact :
    let store := sampleAt (second 9 (by decide)) (second 8 (by decide))
    let last := ((⟨store, []⟩ : Shared).after race).store
    Opening store race ∧ Intact ⟨store, []⟩ race ∧ (last.getNetwork "a").isNone ∧
      (last.getDeployment "e").map (fun d => (d.networkId, d.networkName)) = some ("a", "net") := by
  intro store last
  have opening : Opening store race := .sample (by decide)
  exact ⟨opening, run_intact opening, by decide, by decide⟩

end Shared

end Store

end FabricTopology
