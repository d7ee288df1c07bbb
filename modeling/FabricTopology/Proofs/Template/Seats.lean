import FabricTopology.Proofs.Decimal
import FabricTopology.Proofs.Lists
import FabricTopology.Template

/-!
How the peers of a template are dealt out. Equal shares, rounded up, are enough for all of them, so where there is an
organization no peer is left over and none is dealt twice: the seats are numbered in a row (`numbers_seats`), and its
number tells a seat.

The ports of peers and orderers are exact sums, a thousand apart. A template has a network exactly if there are at most
59 peers and at most 59 orderers, as the port of the sixtieth is too large (`exists_instantiate?_iff`).
-/
namespace FabricTopology.Template
variable {t : Template} {n : Network}

/-! ### Shares -/

/-- The peers that are dealt out: all of them, unless there is no organization. -/
def dealt (t : Template) : Nat := if t.orgCount = 0 then 0 else t.peerCount

/-- The shares are enough for all peers. -/
theorem dealt_le (t : Template) : t.dealt ≤ t.orgCount * t.peersPerOrg := by
  by_cases none : t.orgCount = 0
  · simp [dealt, none]
  · have some : 0 < t.orgCount := Nat.pos_of_ne_zero none
    have share := Nat.lt_mul_div_succ (t.peerCount + t.orgCount - 1) some
    rw [Nat.mul_succ] at share
    simp only [dealt, peersPerOrg, if_neg none]
    omega

/-! ### Seats -/

theorem numbers_seatsOf (t : Template) (i : Nat) :
    (t.seatsOf i).map (·.number) =
      ((List.range t.peersPerOrg).map fun j => i * t.peersPerOrg + j).filter (· < t.peerCount) := by
  simp only [seatsOf, List.filter_map, List.map_map]
  rfl

/-- The seats are numbered in a row, from none to the last peer. -/
theorem numbers_seats (t : Template) : t.seats.map (·.number) = List.range t.dealt := by
  have blocks : t.seats.map (·.number) =
      (List.range (t.orgCount * t.peersPerOrg)).filter (· < t.peerCount) := by
    simp only [seats, List.map_flatMap, numbers_seatsOf, ← List.filter_flatMap, flatMap_blocks]
  have enough := t.dealt_le
  rw [blocks, filter_range]
  by_cases none : t.orgCount = 0
  · simp [dealt, none]
  · rw [dealt, if_neg none] at enough ⊢
    rw [Nat.min_eq_right enough]

theorem nodup_numbers (t : Template) : (t.seats.map (·.number)).Nodup := by
  rw [numbers_seats]
  exact List.nodup_range

/-- Its number tells a seat. -/
theorem seat_eq {s u : Seat} (left : s ∈ t.seats) (right : u ∈ t.seats) (same : s.number = u.number) : s = u :=
  List.inj_on_of_nodup_map t.nodup_numbers left right same

/-- Every seat is in one of the organizations. -/
theorem org_lt {s : Seat} (member : s ∈ t.seats) : s.org < t.orgCount := by
  obtain ⟨i, below, dealt⟩ := List.mem_flatMap.mp member
  obtain ⟨seat, _⟩ := List.mem_filter.mp dealt
  obtain ⟨j, _, rfl⟩ := List.mem_map.mp seat
  exact List.mem_range.mp below

/-! ### Ids -/

theorem orgId_inj {i j : Nat} (same : orgId i = orgId j) : i = j := Decimal.numbered_inj same

theorem peerId_inj {i j : Nat} (same : peerId i = peerId j) : i = j := Decimal.numbered_inj same

theorem ordererId_inj {i j : Nat} (same : ordererId i = ordererId j) : i = j := Decimal.numbered_inj same

theorem orgId_ne_peerId (i j : Nat) : orgId i ≠ peerId j := by
  intro same
  have texts := congrArg String.toList same
  simp [orgId, peerId] at texts

theorem orgId_ne_ordererId (i j : Nat) : orgId i ≠ ordererId j := by
  intro same
  have texts := congrArg String.toList same
  simp [orgId, ordererId] at texts

theorem peerId_ne_ordererId (i j : Nat) : peerId i ≠ ordererId j := by
  intro same
  have texts := congrArg String.toList same
  simp [peerId, ordererId] at texts

/-! ### Ports -/

theorem checked_eq_some_iff {number : Nat} {port : UInt16} : checked number = some port ↔ port.toNat = number := by
  have bound := UInt16.toNat_lt port
  rw [checked]
  by_cases fits : number < 65536
  · rw [if_pos fits, Option.some.injEq, ← UInt16.toNat_inj, UInt16.toNat_ofNat', Nat.mod_eq_of_lt fits, eq_comm]
  · simp only [if_neg fits, reduceCtorEq, false_iff]
    omega

/-- A port is the exact sum; but of the position only 16 bits are counted. -/
theorem portAt?_eq_some_iff {first port : UInt16} {k : Nat} :
    portAt? first k = some port ↔ port.toNat = first.toNat + 1000 * (k % 65536) := by
  rw [portAt?, Option.bind_eq_bind, Option.bind_eq_some_iff, UInt16.toNat_ofNat']
  constructor
  · rintro ⟨distance, product, sum⟩
    rw [checked_eq_some_iff] at product sum
    omega
  · intro sum
    have bound := UInt16.toNat_lt port
    have fits : k % 65536 * 1000 < 65536 := by omega
    have product : (UInt16.ofNat (k % 65536 * 1000)).toNat = k % 65536 * 1000 := by
      rw [UInt16.toNat_ofNat', Nat.mod_eq_of_lt fits]
    refine ⟨_, checked_eq_some_iff.mpr product, checked_eq_some_iff.mpr ?_⟩
    omega

/-- The last port that fits is that of number 58, for a first port as the peers and orderers have it. -/
theorem isSome_portsAt_iff {first : UInt16} (low : 6535 < first.toNat) (high : first.toNat ≤ 7535) (count : Nat) :
    (∀ k < count, (portAt? first k).isSome) ↔ count ≤ 59 := by
  simp only [Option.isSome_iff_exists, portAt?_eq_some_iff]
  constructor
  · intro every
    by_contra more
    obtain ⟨port, sum⟩ := every 59 (by omega)
    have bound := UInt16.toNat_lt port
    omega
  · intro few k below
    have fits : first.toNat + 1000 * k < 65536 := by omega
    refine ⟨UInt16.ofNat (first.toNat + 1000 * k), ?_⟩
    rw [UInt16.toNat_ofNat', Nat.mod_eq_of_lt fits, Nat.mod_eq_of_lt (by omega)]

/-! ### The network of a template -/

theorem peerAt?_eq_some_iff {s : Seat} {p : Peer} : peerAt? s = some p ↔
    ∃ port, portAt? Naming.peerPort s.number = some port ∧
      { Peer.named (peerId s.number) (peerName s.org s.position) (orgId s.org) with port } = p := by
  simp [peerAt?, Option.bind_eq_some_iff]

theorem ordererAt?_eq_some_iff {i : Nat} {o : Orderer} : ordererAt? i = some o ↔
    ∃ port, portAt? Naming.ordererPort i = some port ∧
      { Orderer.named (ordererId i) (ordererName i) with port } = o := by
  simp [ordererAt?, Option.bind_eq_some_iff]

theorem isSome_peerAt? (s : Seat) : (peerAt? s).isSome = (portAt? Naming.peerPort s.number).isSome := by
  rw [peerAt?]
  cases portAt? Naming.peerPort s.number <;> rfl

theorem isSome_ordererAt? (i : Nat) : (ordererAt? i).isSome = (portAt? Naming.ordererPort i).isSome := by
  rw [ordererAt?]
  cases portAt? Naming.ordererPort i <;> rfl

/-- What a network is made of that a template has. -/
structure MadeOf (t : Template) (n : Network) : Prop where
  organizations : n.entities.organizations = (List.range t.orgCount).map orgAt
  peers : t.seats.mapM peerAt? = some n.entities.peers
  orderers : (List.range t.ordererCount).mapM ordererAt? = some n.entities.orderers
  others : n.entities.cas = [] ∧ n.entities.channels = [] ∧ n.entities.chaincodes = []
  canvas : n.canvas = t.canvas

theorem madeOf_of_instantiate? (made : t.instantiate? = some n) : t.MadeOf n := by
  simp only [instantiate?, Option.bind_eq_bind, Option.bind_eq_some_iff, Option.pure_def, Option.some.injEq] at made
  obtain ⟨peers, seated, orderers, listed, rfl⟩ := made
  exact
    { organizations := rfl
      peers := seated
      orderers := listed
      others := ⟨rfl, rfl, rfl⟩
      canvas := rfl }

theorem MadeOf.ids_peers (parts : t.MadeOf n) : n.entities.peers.map (·.id) = (List.range t.dealt).map peerId := by
  rw [← numbers_seats, List.map_map]
  refine map_of_mapM parts.peers fun s _ p made => ?_
  obtain ⟨port, _, rfl⟩ := peerAt?_eq_some_iff.mp made
  rfl

theorem MadeOf.ids_orderers (parts : t.MadeOf n) :
    n.entities.orderers.map (·.id) = (List.range t.ordererCount).map ordererId := by
  refine map_of_mapM parts.orderers fun i _ o made => ?_
  obtain ⟨port, _, rfl⟩ := ordererAt?_eq_some_iff.mp made
  rfl

theorem MadeOf.exists_seat (parts : t.MadeOf n) {p : Peer} (listed : p ∈ n.entities.peers) :
    ∃ s ∈ t.seats, p.id = peerId s.number ∧ p.organizationId = orgId s.org := by
  obtain ⟨s, seat, made⟩ := exists_of_mem_mapM parts.peers listed
  obtain ⟨port, _, rfl⟩ := peerAt?_eq_some_iff.mp made
  exact ⟨s, seat, rfl, rfl⟩

theorem MadeOf.exists_place (parts : t.MadeOf n) {o : Orderer} (listed : o ∈ n.entities.orderers) :
    ∃ i, o.id = ordererId i ∧ o.organizationId = none := by
  obtain ⟨i, _, made⟩ := exists_of_mem_mapM parts.orderers listed
  obtain ⟨port, _, rfl⟩ := ordererAt?_eq_some_iff.mp made
  exact ⟨i, rfl, rfl⟩

/-- There are few enough peers and orderers for their ports. -/
structure Fits (t : Template) : Prop where
  peers : t.dealt ≤ 59
  orderers : t.ordererCount ≤ 59

theorem exists_peers_iff (t : Template) : (∃ ps, t.seats.mapM peerAt? = some ps) ↔ t.dealt ≤ 59 := by
  have numbered : (∀ k < t.dealt, (portAt? Naming.peerPort k).isSome) ↔
      ∀ k ∈ t.seats.map (·.number), (portAt? Naming.peerPort k).isSome := by
    simp only [numbers_seats, List.mem_range]
  rw [exists_mapM_iff, ← isSome_portsAt_iff (show 6535 < Naming.peerPort.toNat by decide) (by decide), numbered,
    List.forall_mem_map]
  simp only [isSome_peerAt?]

theorem exists_orderers_iff (t : Template) :
    (∃ os, (List.range t.ordererCount).mapM ordererAt? = some os) ↔ t.ordererCount ≤ 59 := by
  rw [exists_mapM_iff, ← isSome_portsAt_iff (show 6535 < Naming.ordererPort.toNat by decide) (by decide)]
  simp only [isSome_ordererAt?, List.mem_range]

theorem MadeOf.fits (parts : t.MadeOf n) : t.Fits where
  peers := (exists_peers_iff t).mp ⟨_, parts.peers⟩
  orderers := (exists_orderers_iff t).mp ⟨_, parts.orderers⟩

/-- A template has a network exactly if its ports fit. -/
theorem exists_instantiate?_iff (t : Template) : (∃ n, t.instantiate? = some n) ↔ t.Fits := by
  constructor
  · rintro ⟨n, made⟩
    exact (madeOf_of_instantiate? made).fits
  · intro fits
    obtain ⟨ps, seated⟩ := (exists_peers_iff t).mpr fits.peers
    obtain ⟨os, listed⟩ := (exists_orderers_iff t).mpr fits.orderers
    simp [instantiate?, seated, listed]

/-- A template has a network of some kind, or its ports do not fit and it has none. -/
def Yields (t : Template) (kind : Network → Prop) : Prop :=
  (t.Fits ∧ ∃ n, t.instantiate? = some n ∧ kind n) ∨ (¬ t.Fits ∧ t.instantiate? = none)

theorem exists_madeOf_of_fits (fits : t.Fits) : ∃ n, t.instantiate? = some n ∧ t.MadeOf n := by
  obtain ⟨n, made⟩ := (exists_instantiate?_iff t).mpr fits
  exact ⟨n, made, madeOf_of_instantiate? made⟩

theorem instantiate?_eq_none_of_not_fits (many : ¬ t.Fits) : t.instantiate? = none := by
  refine Option.eq_none_iff_forall_not_mem.mpr fun n made => ?_
  exact many ((exists_instantiate?_iff t).mp ⟨n, made⟩)

theorem yields_of_madeOf {kind : Network → Prop} (each : ∀ n, t.MadeOf n → kind n) : t.Yields kind := by
  by_cases fits : t.Fits
  · obtain ⟨n, made, parts⟩ := exists_madeOf_of_fits fits
    exact .inl ⟨fits, n, made, each n parts⟩
  · exact .inr ⟨fits, instantiate?_eq_none_of_not_fits fits⟩

/-! ### The ports of a network -/

/-- Ports a thousand apart, none twice. -/
structure PortRow (first count : Nat) (ports : List UInt16) : Prop where
  exact : ports.map (·.toNat) = (List.range count).map fun k => first + 1000 * k
  distinct : ports.Nodup

theorem portRow_of_sums {first count : Nat} {ports : List UInt16}
    (sums : ports.map (·.toNat) = (List.range count).map fun k => first + 1000 * k) : PortRow first count ports := by
  refine ⟨sums, List.Nodup.of_map (·.toNat) ?_⟩
  rw [sums]
  refine List.nodup_range.map fun i j (same : first + 1000 * i = first + 1000 * j) => ?_
  omega

/-- Below the first 65536 positions nothing is cut. -/
theorem toNat_portAt? {first port : UInt16} {k : Nat} (small : k < 65536) (sum : portAt? first k = some port) :
    port.toNat = first.toNat + 1000 * k := by
  rw [portAt?_eq_some_iff.mp sum, Nat.mod_eq_of_lt small]

theorem MadeOf.portRow_peers (parts : t.MadeOf n) : PortRow 7051 t.dealt (n.entities.peers.map (·.port)) := by
  have few := parts.fits.peers
  refine portRow_of_sums ?_
  rw [List.map_map, ← numbers_seats, List.map_map]
  refine map_of_mapM parts.peers fun s seat p made => ?_
  obtain ⟨port, sum, rfl⟩ := peerAt?_eq_some_iff.mp made
  have below : s.number < t.dealt := by
    rw [← List.mem_range, ← numbers_seats]
    exact List.mem_map_of_mem seat
  exact toNat_portAt? (by omega) sum

theorem MadeOf.portRow_orderers (parts : t.MadeOf n) :
    PortRow 7050 t.ordererCount (n.entities.orderers.map (·.port)) := by
  have few := parts.fits.orderers
  refine portRow_of_sums ?_
  rw [List.map_map]
  refine map_of_mapM parts.orderers fun i listed o made => ?_
  obtain ⟨port, sum, rfl⟩ := ordererAt?_eq_some_iff.mp made
  have below := List.mem_range.mp listed
  exact toNat_portAt? (by omega) sum

/-- The ports of the peers are a row from 7051 on, and those of the orderers a row from 7050 on, if they all fit. -/
theorem portRows_instantiate (t : Template) : t.Yields fun n =>
    PortRow 7051 t.dealt (n.entities.peers.map (·.port)) ∧
    PortRow 7050 t.ordererCount (n.entities.orderers.map (·.port)) :=
  yields_of_madeOf fun _ parts => ⟨parts.portRow_peers, parts.portRow_orderers⟩

/-- One organization with as many peers as there are orderers. -/
def crowd (count : Nat) : Template := ⟨"custom", "Crowd", "", 1, count, count, false⟩

/-- The port of the sixtieth peer would be 66051, and that of the sixtieth orderer 66050. -/
theorem ports_exceed : (crowd 60).instantiate? = none ∧ 65535 < 7050 + 1000 * 59 := by
  have many : ¬ (crowd 60).Fits := fun fits => absurd fits.orderers (by decide)
  exact ⟨instantiate?_eq_none_of_not_fits many, by decide⟩

end FabricTopology.Template
