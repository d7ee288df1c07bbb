import FabricTopology.Proofs.Store.Step
import FabricTopology.Store

/-!
Runs of a store. Clones of a store share its tables, so a run is one sequence of steps, whichever clones they
go through. If ids are fresh and the clock runs forward, what a store shows follows from the transcript of its
calls and answers alone, and no call changes more than it says (`run_faithful`).
-/
namespace FabricTopology.Store

/-- The store after some steps. -/
def after (s : Store) (steps : List Step) : Store := steps.foldl (fun s e => (s.perform e).2) s

/-- The calls of some steps and the answers to them. -/
def transcript (s : Store) : List Step → List (Call × Answer)
  | [] => []
  | e :: rest => (e.call, (s.perform e).1) :: (s.perform e).2.transcript rest

/-! ### A kind of records -/

/-- A kind of records in a store: its table, and what an answered call writes to it. -/
structure Kind (α : Type) where
  table : Store → Table String α
  createdAt : α → Option Calendar.Timestamp
  id : α → String
  write? : Call × Answer → Option (Write α)
  table_eq : ∀ {s e a after}, Effect s e a after → table after = (table s).writeAll (write? (e.call, a)).toList
  lawful : ∀ {s e a after}, Effect s e a after → ∀ {w}, write? (e.call, a) = some w →
    Lawful createdAt id (table s) e.freshId e.now w

namespace Kind

def networks : Kind Network where
  table := Store.networks
  createdAt := Network.createdAt
  id := Network.id
  write? := networkWrite?
  table_eq := Effect.networks_eq
  lawful := Effect.lawful_network

def deployments : Kind Deployment where
  table := Store.deployments
  createdAt d := some d.createdAt
  id := Deployment.id
  write? := deploymentWrite?
  table_eq := Effect.deployments_eq
  lawful := Effect.lawful_deployment

variable {α : Type} (k : Kind α)

/-- What the calls of a transcript wrote. -/
def writes (log : List (Call × Answer)) : List (Write α) := log.filterMap k.write?

theorem writes_cons (entry : Call × Answer) (log : List (Call × Answer)) :
    k.writes (entry :: log) = (k.write? entry).toList ++ k.writes log := by
  rw [writes, List.filterMap_cons]
  cases k.write? entry <;> rfl

/-- The records of a kind as a store keeps them before some steps. -/
def KeptBefore (s : Store) (steps : List Step) : Prop :=
  Kept k.createdAt k.id (k.table s) (steps.map (·.freshId)) (steps.map (·.now))

theorem table_after (s : Store) (steps : List Step) :
    k.table (s.after steps) = (k.table s).writeAll (k.writes (s.transcript steps)) := by
  induction steps generalizing s with
  | nil => rfl
  | cons e rest ih =>
    have later := ih (s.perform e).2
    rw [k.table_eq (s.effect e)] at later
    rw [transcript, writes_cons, Table.writeAll, List.foldl_append]
    exact later

/-- A table holds the last state that the answers tell of each id. -/
theorem get?_after (s : Store) (steps : List Step) (id : String) :
    (k.table (s.after steps)).get? id =
      Write.lastState id ((k.table s).get? id) (k.writes (s.transcript steps)) := by
  rw [table_after, Table.get?_writeAll]

/-- A step keeps the records of a kind, and adds at most the key of a new record. -/
theorem kept_perform {s : Store} {e : Step} {rest : List Step} (kept : k.KeptBefore s (e :: rest)) :
    let created := Write.createdIds (k.write? (e.call, (s.perform e).1)).toList
    k.KeptBefore (s.perform e).2 rest ∧ (k.table (s.perform e).2).keys.Sublist ((k.table s).keys ++ created) ∧
      created.Sublist [e.freshId] := by
  unfold KeptBefore at kept ⊢
  rw [k.table_eq (s.effect e)]
  cases written : k.write? (e.call, (s.perform e).1) with
  | none => exact ⟨kept.skip, List.sublist_append_left _ _, List.nil_sublist _⟩
  | some w =>
    have lawful := k.lawful (s.effect e) written
    exact ⟨kept.write lawful, kept.keys_write lawful, lawful.createdIds⟩

theorem kept_after {s : Store} {earlier later : List Step} (kept : k.KeptBefore s (earlier ++ later)) :
    k.KeptBefore (s.after earlier) later := by
  induction earlier generalizing s with
  | nil => exact kept
  | cons e rest ih => exact ih (k.kept_perform kept).1

/-- The keys after a run are among those before it and those of the created records, in this order. -/
theorem keys_after {s : Store} {steps : List Step} (kept : k.KeptBefore s steps) :
    let created := Write.createdIds (k.writes (s.transcript steps))
    (k.table (s.after steps)).keys.Sublist ((k.table s).keys ++ created) ∧
      created.Sublist (steps.map (·.freshId)) := by
  induction steps generalizing s with
  | nil => exact ⟨List.sublist_append_left _ _, List.Sublist.refl _⟩
  | cons e rest ih =>
    obtain ⟨after, keys, fresh⟩ := k.kept_perform kept
    obtain ⟨later, laterFresh⟩ := ih after
    rw [transcript, writes_cons, Write.createdIds, List.filterMap_append, ← Write.createdIds, ← Write.createdIds]
    constructor
    · rw [← List.append_assoc]
      exact later.trans (keys.append_right _)
    · exact fresh.append laterFresh

end Kind

/-- A listing shows every live record, once, in the order in which the records were created. -/
structure Lists {α : Type} (id : α → String) (get : String → Option α) (created : List String) (records : List α) :
    Prop where
  live : ∀ record, record ∈ records ↔ get (id record) = some record
  distinct : created.Nodup
  ordered : (records.map id).Sublist created

theorem Kind.lists {α : Type} (k : Kind α) {s : Store} {steps : List Step} (kept : k.KeptBefore s steps) :
    Lists k.id (k.table (s.after steps)).get?
      ((listed k.createdAt k.id (k.table s).values).map k.id ++ Write.createdIds (k.writes (s.transcript steps)))
      (listed k.createdAt k.id (k.table (s.after steps)).values) := by
  have after : k.KeptBefore (s.after steps) [] := k.kept_after (by rwa [List.append_nil])
  obtain ⟨keys, fresh⟩ := k.keys_after kept
  rw [Kept.listed_eq kept (.refl _), Kept.listed_eq after (.refl _), ← (Kept.filed kept).keys_eq]
  refine ⟨fun record => (Kept.filed after).mem_values_iff, ?_, ?_⟩
  · exact kept.apart.sublist (fresh.append_left _)
  · rw [← (Kept.filed after).keys_eq]
    exact keys

/-! ### The whole store -/

/-- A network was created before it was last written, or then. -/
def Dated (n : Network) : Prop := ∃ c u, n.createdAt = some c ∧ n.updatedAt = some u ∧ c ≤ u

/-- A store before some steps whose ids are fresh and at whose times the clock has run forward. -/
structure Orderly (s : Store) (steps : List Step) : Prop where
  networks : Kind.networks.KeptBefore s steps
  deployments : Kind.deployments.KeptBefore s steps
  dated : ∀ id n, s.getNetwork id = some n → Dated n

namespace Orderly

theorem perform {s : Store} {e : Step} {rest : List Step} (orderly : s.Orderly (e :: rest)) :
    (s.perform e).2.Orderly rest where
  networks := (Kind.networks.kept_perform orderly.networks).1
  deployments := (Kind.deployments.kept_perform orderly.deployments).1
  dated id n stands := by
    cases s.effect e with
    | nothing _ _ same =>
      rw [same] at stands
      exact orderly.dated id n stands
    | deployment _ _ stored =>
      rw [stored] at stands
      exact orderly.dated id n stands
    | network written lawful stored =>
      have changed := updatedAt_of_written written id n
      rw [stored, getNetwork, Table.get?_write] at stands
      cases lawful with
      | @created record own born =>
        rw [Write.state] at stands
        split at stands
        · next here =>
          cases stands
          exact ⟨e.now, e.now, born, changed (.inl (by rw [here])), le_refl _⟩
        · exact orderly.dated id n stands
      | @changed key old record known own born =>
        rw [Write.state] at stands
        split at stands
        · next here =>
          cases stands
          obtain ⟨c, created, early⟩ := Kept.born orderly.networks known
          exact ⟨c, e.now, born.trans created, changed (.inr (by rw [here])), le_of_lt early⟩
        · exact orderly.dated id n stands
      | deleted key =>
        rw [Write.state] at stands
        split at stands
        · cases stands
        · exact orderly.dated id n stands

theorem after {s : Store} {earlier later : List Step} (orderly : s.Orderly (earlier ++ later)) :
    (s.after earlier).Orderly later := by
  induction earlier generalizing s with
  | nil => exact orderly
  | cons e rest ih => exact ih orderly.perform

end Orderly

/-- How a run begins: with a store that is empty or holds the sample, an id for each step that was never given
    before, and a clock that runs forward. -/
inductive Opening : Store → List Step → Prop where
  | empty {steps : List Step} (ids : (steps.map (·.freshId)).Nodup) (clock : (steps.map (·.now)).Pairwise (· < ·)) :
      Opening .empty steps
  | sample {steps : List Step} {opened deployed : Calendar.Timestamp}
      (ids : ("sample-1" :: "deploy-1" :: steps.map (·.freshId)).Nodup)
      (clock : (opened :: deployed :: steps.map (·.now)).Pairwise (· < ·)) : Opening (.sampleAt opened deployed) steps

theorem Opening.orderly {s : Store} {steps : List Step} (opening : Opening s steps) : s.Orderly steps := by
  cases opening with
  | empty ids clock =>
    refine ⟨⟨?_, ids, [], rfl, clock⟩, ⟨?_, ids, [], rfl, clock⟩, ?_⟩
    · intro r member
      cases member
    · intro r member
      cases member
    · intro id n stands
      cases stands
  | @sample _ opened deployed ids clock =>
    obtain ⟨later, running⟩ := List.pairwise_cons.mp (List.pairwise_cons.mp clock).2
    have started : (deployed.daysBack 14 :: steps.map (·.now)).Pairwise (· < ·) :=
      List.pairwise_cons.mpr ⟨fun t member => lt_of_le_of_lt (deployed.daysBack_le 14) (later t member), running⟩
    have saved : (opened :: steps.map (·.now)).Pairwise (· < ·) :=
      clock.sublist ((List.sublist_cons_self _ _).cons_cons _)
    refine ⟨⟨?_, ?_, [opened], rfl, saved⟩, ⟨?_, ?_, [deployed.daysBack 14], rfl, started⟩, ?_⟩
    · intro r member
      rw [List.mem_singleton.mp member]
      rfl
    · exact ids.sublist ((List.sublist_cons_self _ _).cons_cons _)
    · intro r member
      rw [List.mem_singleton.mp member]
      rfl
    · exact ids.sublist (List.sublist_cons_self _ _)
    · intro id n stands
      have same := List.mem_singleton.mp (Table.mem_of_get? stands)
      cases same
      exact ⟨opened, opened, rfl, rfl, le_refl _⟩

/-- A store shows what the transcript of a run tells: under each id the record that was last written for it and
    that carries this id, and in a listing the live records in the order of their creation, in whatever order
    the rows of the tables are kept. -/
structure Shows (start : Store) (log : List (Call × Answer)) (s : Store) : Prop where
  lastNetwork : ∀ id, s.getNetwork id = Write.lastState id (start.getNetwork id) (log.filterMap networkWrite?)
  lastDeployment : ∀ id,
    s.getDeployment id = Write.lastState id (start.getDeployment id) (log.filterMap deploymentWrite?)
  ownNetworkId : ∀ id n, s.getNetwork id = some n → n.id = id
  ownDeploymentId : ∀ id d, s.getDeployment id = some d → d.id = id
  networkTimes : ∀ id n, s.getNetwork id = some n → Dated n
  networkList : Lists (·.id) s.getNetwork
    (start.listNetworks.map (·.id) ++ Write.createdIds (log.filterMap networkWrite?)) s.listNetworks
  deploymentList : Lists (·.id) s.getDeployment
    (start.listDeployments.map (·.id) ++ Write.createdIds (log.filterMap deploymentWrite?)) s.listDeployments
  networkRows : ∀ rows, rows.Perm s.networks → { s with networks := rows }.listNetworks = s.listNetworks
  deploymentRows : ∀ rows, rows.Perm s.deployments → { s with deployments := rows }.listDeployments = s.listDeployments

/-- A step is answered by what the store shows, and changes no more than it says. -/
structure Honest (s : Store) (e : Step) : Prop where
  answer : (s.perform e).1 = s.expected e
  unused : s.getNetwork e.freshId = none ∧ s.getDeployment e.freshId = none
  created : ∀ n, e.call = .createNetwork n →
    (s.perform e).2.getNetwork e.freshId =
      some { n with id := e.freshId, createdAt := some e.now, updatedAt := some e.now } ∧
    ∀ id, id ≠ e.freshId → (s.perform e).2.getNetwork id = s.getNetwork id
  updated : ∀ id p n, e.call = .updateNetwork id p → (s.perform e).1 = .network (some n) →
    ∃ old c, s.getNetwork id = some old ∧ n.id = old.id ∧ n.createdAt = old.createdAt ∧
      n.createdAt = some c ∧ n.updatedAt = some e.now ∧ c ≤ e.now
  apart : if e.call.isAboutNetworks then (s.perform e).2.deployments = s.deployments
    else (s.perform e).2.networks = s.networks
  refused : (s.perform e).1.isRefusal = true → (s.perform e).2 = s

theorem Orderly.shows {start : Store} {steps : List Step} (orderly : start.Orderly steps) :
    Shows start (start.transcript steps) (start.after steps) := by
  have ended : (start.after steps).Orderly [] := Orderly.after (by rwa [List.append_nil])
  refine
    { lastNetwork := Kind.networks.get?_after start steps
      lastDeployment := Kind.deployments.get?_after start steps
      ownNetworkId := fun id n stands => (Kept.filed ended.networks).id_of_get? stands
      ownDeploymentId := fun id d stands => (Kept.filed ended.deployments).id_of_get? stands
      networkTimes := ended.dated
      networkList := Kind.networks.lists orderly.networks
      deploymentList := Kind.deployments.lists orderly.deployments
      networkRows := ?_
      deploymentRows := ?_ }
  · intro rows perm
    exact (Kept.listed_eq ended.networks perm).trans (Kept.listed_eq ended.networks (.refl _)).symm
  · intro rows perm
    exact (Kept.listed_eq ended.deployments perm).trans (Kept.listed_eq ended.deployments (.refl _)).symm

theorem Orderly.honest {s : Store} {e : Step} {rest : List Step} (orderly : s.Orderly (e :: rest)) : Honest s e where
  answer := s.answer_perform e
  unused := ⟨Table.get?_eq_none_iff.mpr (Kept.filed orderly.networks).missing,
    Table.get?_eq_none_iff.mpr (Kept.filed orderly.deployments).missing⟩
  created n call := by
    have stored : (s.perform e).2.networks = s.networks.put e.freshId
        { n with id := e.freshId, createdAt := some e.now, updatedAt := some e.now } := by
      rw [Store.perform, call]
      rfl
    rw [getNetwork, stored]
    exact ⟨Table.get?_put_self _ _ _, fun id other => by rw [getNetwork, stored]; exact Table.get?_put_of_ne _ other _⟩
  updated id p n call answered := by
    rw [s.answer_perform e, expected, call] at answered
    obtain ⟨old, stands, rfl⟩ := Option.map_eq_some_iff.mp (Answer.network.inj answered)
    obtain ⟨c, created, early⟩ := Kept.born orderly.networks stands
    exact ⟨old, c, stands, rfl, rfl, created, rfl, le_of_lt early⟩
  apart := by
    cases s.effect e with
    | nothing _ _ same =>
      rw [same]
      split
      · rfl
      · rfl
    | network _ _ stored _ about =>
      rw [stored, if_pos about]
    | deployment _ _ stored _ about =>
      rw [stored, about]
      rfl
  refused refusal := by
    cases s.effect e with
    | nothing _ _ same => exact same
    | network _ _ _ _ _ accepted => rw [accepted] at refusal; cases refusal
    | deployment _ _ _ _ _ accepted => rw [accepted] at refusal; cases refusal

/-- A store is faithful over a whole run, from an empty store or the sample, through any calls, with fresh ids and
    a clock that runs forward: it shows what the transcript tells, and each of its steps is honest. -/
theorem run_faithful {start : Store} {steps : List Step} (opening : Opening start steps) :
    Shows start (start.transcript steps) (start.after steps) ∧
      ∀ earlier e later, steps = earlier ++ e :: later → Honest (start.after earlier) e := by
  have orderly := opening.orderly
  refine ⟨orderly.shows, ?_⟩
  rintro earlier e later rfl
  exact orderly.after.honest

/-- A second of the first minute of 1970. -/
def second (n : Nat) (inMinute : n ≤ 60) : Calendar.Timestamp :=
  ⟨.epoch, 0, 0, n, 0, by decide, by decide, inMinute, by decide⟩

/-- A network that is created, deployed and deleted again. -/
def tour : List Step :=
  [⟨"a", second 3 (by decide), .createNetwork (.named "net")⟩,
    ⟨"b", second 4 (by decide), .createDeployment "a"⟩,
    ⟨"c", second 5 (by decide), .deleteNetwork "a"⟩]

theorem tour_faithful :
    let start := sampleAt (second 1 (by decide)) (second 2 (by decide))
    Opening start tour ∧ Shows start (start.transcript tour) (start.after tour) ∧
      ∀ earlier e later, tour = earlier ++ e :: later → Honest (start.after earlier) e :=
  have opening : Opening (sampleAt (second 1 (by decide)) (second 2 (by decide))) tour :=
    .sample (by decide) (by decide)
  ⟨opening, run_faithful opening⟩

end FabricTopology.Store
