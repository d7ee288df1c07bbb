import FabricTopology.Proofs.Template.Seats

/-!
What each organization of a template gets. The shares are rounded up, so the peers can run out before it is the turn of
the last organizations. No organization goes without exactly if the peers come out even or if there are enough of them
for what rounding up adds (`shared_instantiate`).
-/
namespace FabricTopology

/-- The peers with the key of an organization. -/
def Entities.peersOf (e : Entities) (o : Organization) : List Peer := e.peers.filter fun p => p.organizationId == o.id

namespace Template
variable {t : Template} {n : Network} {i : Nat}

/-- How many peers the organization at a position gets: a share, or what the ones before it leave. -/
def portion (t : Template) (i : Nat) : Nat := min t.peersPerOrg (t.peerCount - i * t.peersPerOrg)

/-- The peers are dealt out in a row, and every organization has one exactly if their number is a multiple of that of
    the organizations, or if quotient and remainder together are not below it. -/
structure Shared (t : Template) (n : Network) : Prop where
  owned : ∀ i o, n.entities.organizations[i]? = some o → (n.entities.peersOf o).map (·.id) =
    (List.range' (i * t.peersPerOrg) (t.portion i)).map fun k => "peer-" ++ toString k
  populated_iff : (∀ o ∈ n.entities.organizations, n.entities.peersOf o ≠ []) ↔
    (t.orgCount ∣ t.peerCount ∧ 0 < t.peerCount) ∨
      t.orgCount ≤ t.peerCount / t.orgCount + t.peerCount % t.orgCount

/-! ### The seats of one organization -/

theorem org_of_mem_seatsOf {s : Seat} (member : s ∈ t.seatsOf i) : s.org = i := by
  obtain ⟨seat, _⟩ := List.mem_filter.mp member
  obtain ⟨j, _, rfl⟩ := List.mem_map.mp seat
  rfl

/-- The seats with the key of an organization are those that were dealt to it. -/
theorem filter_seats (below : i < t.orgCount) : t.seats.filter (fun s => orgId s.org == orgId i) = t.seatsOf i := by
  have own (j : Nat) :
      (t.seatsOf j).filter (fun s => orgId s.org == orgId i) = if j = i then t.seatsOf j else [] := by
    by_cases same : j = i
    · rw [if_pos same, List.filter_eq_self]
      intro s member
      rw [org_of_mem_seatsOf member, same, beq_self_eq_true]
    · rw [if_neg same, List.filter_eq_nil_iff]
      intro s member key
      rw [org_of_mem_seatsOf member, beq_iff_eq] at key
      exact same (orgId_inj key)
  rw [seats, List.filter_flatMap]
  simp only [own]
  exact flatMap_only t.seatsOf below

/-- Its seats are numbered in a row. -/
theorem numbers_seatsOf_eq (t : Template) (i : Nat) :
    (t.seatsOf i).map (·.number) = List.range' (i * t.peersPerOrg) (t.portion i) := by
  have bound (j : Nat) : i * t.peersPerOrg + j < t.peerCount ↔ j < t.peerCount - i * t.peersPerOrg := by omega
  rw [numbers_seatsOf, List.filter_map, List.range'_eq_map_range, portion, ← filter_range]
  simp only [Function.comp_def, bound]

/-! ### The peers of one organization -/

theorem MadeOf.getElem?_organizations (parts : t.MadeOf n) {o : Organization}
    (place : n.entities.organizations[i]? = some o) : i < t.orgCount ∧ o = orgAt i := by
  rw [parts.organizations, List.getElem?_map, Option.map_eq_some_iff] at place
  obtain ⟨j, stands, rfl⟩ := place
  obtain ⟨below, rfl⟩ := List.getElem?_eq_some_iff.mp stands
  rw [List.length_range] at below
  exact ⟨below, by rw [List.getElem_range]⟩

theorem MadeOf.peersOf_orgAt (parts : t.MadeOf n) (below : i < t.orgCount) :
    (n.entities.peersOf (orgAt i)).map (·.id) = (t.seatsOf i).map fun s => peerId s.number := by
  -- The filter looks at the key only, so ids and keys are enough to know of the peers.
  have keys : n.entities.peers.map (fun p => (p.id, p.organizationId)) =
      t.seats.map fun s => (peerId s.number, orgId s.org) :=
    map_of_mapM parts.peers fun s _ p made => by
      obtain ⟨port, _, rfl⟩ := peerAt?_eq_some_iff.mp made
      rfl
  have owned := congrArg (fun pairs => (pairs.filter fun pair => pair.2 == orgId i).map (·.1)) keys
  simp only [List.filter_map, List.map_map] at owned
  rw [← filter_seats below]
  exact owned

theorem MadeOf.peersOf_orgAt_ne_nil_iff (parts : t.MadeOf n) (below : i < t.orgCount) :
    n.entities.peersOf (orgAt i) ≠ [] ↔ i * t.peersPerOrg < t.peerCount := by
  have numbers := congrArg List.length (t.numbers_seatsOf_eq i)
  rw [List.length_map, List.length_range'] at numbers
  have owned := congrArg List.length (parts.peersOf_orgAt below)
  rw [List.length_map, List.length_map, numbers] at owned
  rw [ne_eq, ← List.length_eq_zero_iff, owned, portion]
  have enough := t.dealt_le
  rw [dealt, if_neg (by omega)] at enough
  have share : t.peersPerOrg = 0 → t.peerCount = 0 := by
    intro none
    rw [none, Nat.mul_zero] at enough
    exact Nat.le_zero.mp enough
  omega

/-! ### Whose turn comes -/

/-- The share is the quotient, and one more where the peers do not come out even. -/
theorem peersPerOrg_eq (some : 0 < t.orgCount) :
    t.peersPerOrg = t.peerCount / t.orgCount + if t.peerCount % t.orgCount = 0 then 0 else 1 := by
  have parts := Nat.div_add_mod t.peerCount t.orgCount
  have rest := Nat.mod_lt t.peerCount some
  have sum : t.peerCount + t.orgCount - 1 =
      t.orgCount * (t.peerCount / t.orgCount) + (t.peerCount % t.orgCount + (t.orgCount - 1)) := by omega
  rw [peersPerOrg, if_neg (by omega), sum, Nat.mul_add_div some]
  by_cases even : t.peerCount % t.orgCount = 0
  · have added : (t.peerCount % t.orgCount + (t.orgCount - 1)) / t.orgCount = 0 := Nat.div_eq_of_lt (by omega)
    rw [if_pos even, added]
  · have added : (t.peerCount % t.orgCount + (t.orgCount - 1)) / t.orgCount = 1 :=
      Nat.div_eq_of_lt_le (by omega) (by omega)
    rw [if_neg even, added]

/-- When it is the turn of the last organization. -/
theorem last_turn_iff (some : 0 < t.orgCount) :
    (t.orgCount - 1) * t.peersPerOrg < t.peerCount ↔
      (t.orgCount ∣ t.peerCount ∧ 0 < t.peerCount) ∨
        t.orgCount ≤ t.peerCount / t.orgCount + t.peerCount % t.orgCount := by
  rw [peersPerOrg_eq some, Nat.dvd_iff_mod_eq_zero]
  have parts := Nat.div_add_mod t.peerCount t.orgCount
  obtain ⟨m, count⟩ : ∃ m, t.orgCount = m + 1 := ⟨t.orgCount - 1, by omega⟩
  rw [count] at parts ⊢
  generalize t.peerCount / (m + 1) = quotient at parts ⊢
  generalize t.peerCount % (m + 1) = rest at parts ⊢
  rw [Nat.succ_mul] at parts
  rw [Nat.add_sub_cancel, Nat.mul_add]
  by_cases even : rest = 0
  · rw [if_pos even]
    rcases Nat.eq_zero_or_pos quotient with nothing | something
    · rw [nothing] at parts ⊢
      omega
    · omega
  · rw [if_neg even]
    omega

theorem MadeOf.populated_iff (parts : t.MadeOf n) (some : 0 < t.orgCount) :
    (∀ o ∈ n.entities.organizations, n.entities.peersOf o ≠ []) ↔ (t.orgCount - 1) * t.peersPerOrg < t.peerCount := by
  rw [parts.organizations, List.forall_mem_map]
  constructor
  · intro populated
    have last : t.orgCount - 1 < t.orgCount := by omega
    exact (parts.peersOf_orgAt_ne_nil_iff last).mp (populated _ (List.mem_range.mpr last))
  · intro turn i listed
    have below := List.mem_range.mp listed
    have before : i * t.peersPerOrg ≤ (t.orgCount - 1) * t.peersPerOrg := Nat.mul_le_mul_right _ (by omega)
    exact (parts.peersOf_orgAt_ne_nil_iff below).mpr (by omega)

theorem MadeOf.shared (parts : t.MadeOf n) : t.Shared n where
  owned i o place := by
    obtain ⟨below, rfl⟩ := parts.getElem?_organizations place
    rw [parts.peersOf_orgAt below, ← numbers_seatsOf_eq, List.map_map]
    rfl
  populated_iff := by
    by_cases none : t.orgCount = 0
    · simp [none, parts.organizations]
    · have some := Nat.pos_of_ne_zero none
      rw [parts.populated_iff some, last_turn_iff some]

/-- Each organization of a template owns the next peers in a row, a share of them or what is left. Each owns one exactly
    if the peers come out even, or if they are enough for what rounding up adds to the shares. -/
theorem shared_instantiate (t : Template) : t.Yields t.Shared :=
  yields_of_madeOf fun _ parts => parts.shared

/-- The built-in templates come out even. -/
example : ∀ t ∈ all, t.orgCount ∣ t.peerCount := by decide

/-- Three organizations and four peers. -/
def uneven : Template := ⟨"custom", "Uneven", "", 3, 4, 1, false⟩

/-- Two peers each for the first two organizations leave none for the third. -/
theorem unpopulated_uneven : 0 < uneven.orgCount ∧ uneven.orgCount ≤ uneven.peerCount ∧
    ∃ n, uneven.instantiate? = some n ∧ ¬ ∀ o ∈ n.entities.organizations, n.entities.peersOf o ≠ [] := by
  have fits : uneven.Fits := ⟨by decide, by decide⟩
  obtain ⟨n, made, parts⟩ := exists_madeOf_of_fits fits
  refine ⟨by decide, by decide, n, made, fun populated => ?_⟩
  exact absurd ((parts.populated_iff (by decide)).mp populated) (by decide)

end Template

end FabricTopology
