import FabricTopology.Proofs.Document.Completeness

/-!
The ports of the host machine at which the services of a document are reached. The orderers take them one by one,
and each organization has a block of ten after the first orderer's, of which its two peers take the first ones; while
neither passes the end of 32 bits, services share a port exactly where the two ranges meet
(`hostPorts_containers`).
-/
namespace FabricTopology

namespace Naming
open FabricTopology.Decimal

theorem toNat_ordererHostPort {i : Nat} (bound : i < 4000000000) : (ordererHostPort i).toNat = 7050 + i := by
  have listens : ordererPort.toUInt32.toNat = 7050 := rfl
  rw [ordererHostPort, UInt32.toNat_add, UInt32.toNat_ofNat', listens]
  omega

theorem toNat_peerHostPort {o k : Nat} (bound : o < 400000000) (below : k < peersPerOrg) :
    (peerHostPort o k).toNat = 7051 + k + 10 * o := by
  have two : peersPerOrg = 2 := rfl
  have listens : peerPort.toUInt32.toNat = 7051 := rfl
  have block : portsPerOrg.toNat = 10 := rfl
  rw [peerHostPort, UInt32.toNat_add, UInt32.toNat_add, UInt32.toNat_mul, UInt32.toNat_ofNat', UInt32.toNat_ofNat',
    listens, block]
  omega

theorem colon_notMem_digits (n : Nat) : ':' ∉ digits n := by
  intro member
  exact absurd (isDigit_of_mem_digits member) (by decide)

end Naming

namespace Document
open FabricTopology.Yaml FabricTopology.Decimal

/-- The service of that name is reached at this port of the host machine. -/
def Publishes (document : Tree) (host : String) (port : Nat) : Prop :=
  ∃ (i : Nat) (inside : String), document.at? [.key "services", .key host, .key "ports", .item i] =
    some (.str (toString port ++ ":" ++ inside))

/-- A container of a network by its position: an orderer's, or that of a peer of an organization. -/
inductive Container where
  | orderer (i : Nat)
  | peer (o k : Nat)

namespace Container

/-- The port of the host machine that is meant for a container. -/
def port : Container → Nat
  | orderer i => 7050 + i
  | peer o k => 7051 + k + 10 * o

/-- An orderer and a peer that are meant to have one port. -/
def Meets : Container → Container → Prop
  | orderer i, peer o k => i = 1 + k + 10 * o
  | _, _ => False

/-- The name of a container, if the network has it. -/
def host? (t : Topology) : Container → Option String
  | orderer i => t.orderers[i]?.map fun o => o.host t.ordererDomain
  | peer o k => if k < Naming.peersPerOrg then t.organizations[o]?.map fun org => Naming.peerHost k org.domain else none

end Container

/-- Every service is reached at the port meant for its container and at no other, and two services share one exactly
    if one is an orderer and the other a peer that meet; so none do where there is at most one orderer. -/
structure HostPorts (t : Topology) (document : Tree) : Prop where
  named : ∀ host, host ∈ serviceNames document ↔ ∃ c : Container, c.host? t = some host
  exact : ∀ (c : Container) host, c.host? t = some host → ∀ port, Publishes document host port ↔ port = c.port
  shared : ∀ (c d : Container) (host other : String), c.host? t = some host → d.host? t = some other → host ≠ other →
    ((∃ port, Publishes document host port ∧ Publishes document other port) ↔ c.Meets d ∨ d.Meets c)
  apart : t.orderers.length ≤ 1 → ∀ host ∈ serviceNames document, ∀ other ∈ serviceNames document, host ≠ other →
    ∀ port, ¬ (Publishes document host port ∧ Publishes document other port)

/-! ### One service -/

/-- A pair of ports begins with the port of the host machine. -/
theorem portPair_eq_iff {outside : UInt32} {inside : UInt16} {port : Nat} :
    (∃ rest, portPair outside inside = toString port ++ ":" ++ rest) ↔ port = outside.toNat := by
  constructor
  · rintro ⟨rest, same⟩
    have texts := congrArg String.toList same
    have colon : ":".toList = [':'] := rfl
    have numbers : ∀ n : Nat, (toString n).toList = digits n := fun n => by simp [digits]
    simp only [portPair, String.toList_append, colon, List.append_assoc, List.singleton_append, numbers] at texts
    have halves := Text.append_separator_inj (Naming.colon_notMem_digits _) (Naming.colon_notMem_digits _) texts
    exact (digits_inj halves.1).symm
  · rintro rfl
    exact ⟨_, rfl⟩

section
variable {name : String} {organizations : List OrgProfile} {orderers : List OrdererProfile}

theorem publishes_iff {host image dir command : String} {environment volumes : List String} {outside : UInt32}
    {inside : UInt16} (stands : (services name organizations orderers).get? host =
      some (service host image environment dir command [portPair outside inside] volumes)) (port : Nat) :
    Publishes (containers name organizations orderers) host port ↔ port = outside.toNat := by
  rw [← @portPair_eq_iff outside inside]
  simp only [Publishes, containers_service, stands, Option.bind_some]
  have item : ∀ i : Nat, (service host image environment dir command [portPair outside inside] volumes).at?
      [.key "ports", .item i] = [Tree.str (portPair outside inside)][i]? := fun i => by
    simp [service, Tree.ofStrings]
  simp only [item]
  constructor
  · rintro ⟨i, rest, same⟩
    have member := List.mem_singleton.mp (List.mem_of_getElem? same)
    exact ⟨rest, (Tree.str.inj member).symm⟩
  · rintro ⟨rest, same⟩
    exact ⟨0, rest, by rw [same]; rfl⟩

variable (numbered : Numbered orderers) (distinct : (organizations.map (·.domain)).Nodup)
include numbered distinct

theorem get?_services_iff (name : String) {host : String} {part : Tree} :
    (services name organizations orderers).get? host = some part ↔
      (host, part) ∈ ordererServices (Naming.ordererDomain name) orderers ++ peerServices organizations := by
  rw [← services_of_distinct numbered distinct]
  exact Table.get?_eq_some_iff (Table.nodup_keys_ofRows _)

theorem publishes_orderer {i : Nat} {o : OrdererProfile} (stands : orderers[i]? = some o) (bound : i < 4000000000)
    (port : Nat) :
    Publishes (containers name organizations orderers) (o.host (Naming.ordererDomain name)) port ↔ port = 7050 + i := by
  have row : (o.host (Naming.ordererDomain name), ordererService (Naming.ordererDomain name) o) ∈
      ordererServices (Naming.ordererDomain name) orderers :=
    List.mem_map.mpr ⟨o, List.mem_of_getElem? stands, rfl⟩
  have service := (get?_services_iff numbered distinct name).mpr (List.mem_append_left _ row)
  rw [publishes_iff service, (numbered i o stands).1, Naming.toNat_ordererHostPort bound]

theorem publishes_peer {j k : Nat} {o : OrgProfile} (stands : organizations[j]? = some o) (bound : j < 400000000)
    (below : k < Naming.peersPerOrg) (port : Nat) :
    Publishes (containers name organizations orderers) (Naming.peerHost k o.domain) port ↔
      port = 7051 + k + 10 * j := by
  have row := mem_peerServices.mpr ⟨j, o, stands, k, below, rfl⟩
  have service := (get?_services_iff numbered distinct name).mpr (List.mem_append_right _ row)
  rw [publishes_iff service, Naming.toNat_peerHostPort bound below]

end

/-! ### Two services -/

namespace Container
variable {t : Topology}

theorem host?_orderer_eq_some_iff {i : Nat} {host : String} :
    (orderer i).host? t = some host ↔ ∃ o, t.orderers[i]? = some o ∧ o.host t.ordererDomain = host :=
  Option.map_eq_some_iff

theorem host?_peer_eq_some_iff {o k : Nat} {host : String} :
    (peer o k).host? t = some host ↔
      k < Naming.peersPerOrg ∧ ∃ org, t.organizations[o]? = some org ∧ Naming.peerHost k org.domain = host := by
  rw [host?]
  split
  · next below => rw [Option.map_eq_some_iff, and_iff_right below]
  · next beyond => simp [beyond]

/-- The ports meant for two containers are the same only where an orderer's and a peer's meet. -/
theorem port_eq_iff {c d : Container} {host other : String} (left : c.host? t = some host)
    (right : d.host? t = some other) (different : c ≠ d) : c.port = d.port ↔ c.Meets d ∨ d.Meets c := by
  have two : Naming.peersPerOrg = 2 := rfl
  cases c with
  | orderer i =>
    cases d with
    | orderer j =>
      simp only [port, Meets, or_self, iff_false]
      exact fun same => different (congrArg orderer (by omega))
    | peer o k =>
      simp only [port, Meets, or_false]
      omega
  | peer o k =>
    have below := (host?_peer_eq_some_iff.mp left).1
    cases d with
    | orderer j =>
      simp only [port, Meets, false_or]
      omega
    | peer p l =>
      have under := (host?_peer_eq_some_iff.mp right).1
      simp only [port, Meets, or_self, iff_false]
      intro same
      -- A block of ten has room for the peers of one organization.
      have block : o = p := by omega
      exact different (congrArg₂ peer block (by omega))

/-- No orderer but the second one or a later one meets a peer. -/
theorem not_meets {c d : Container} {host : String} (stands : c.host? t = some host) (few : t.orderers.length ≤ 1) :
    ¬ c.Meets d := by
  intro meet
  cases c with
  | peer o k => exact meet
  | orderer i =>
    cases d with
    | orderer j => exact meet
    | peer o k =>
      obtain ⟨o, stands, _⟩ := host?_orderer_eq_some_iff.mp stands
      obtain ⟨bound, _⟩ := List.getElem?_eq_some_iff.mp stands
      simp only [Meets] at meet
      omega

end Container

/-- Where every service is reached at the port meant for its container, the meant ports tell which services share
    one. -/
theorem HostPorts.of_exact {t : Topology} {document : Tree}
    (named : ∀ host, host ∈ serviceNames document ↔ ∃ c : Container, c.host? t = some host)
    (exact : ∀ (c : Container) host, c.host? t = some host → ∀ port, Publishes document host port ↔ port = c.port) :
    HostPorts t document := by
  have shared : ∀ (c d : Container) (host other : String), c.host? t = some host → d.host? t = some other →
      host ≠ other →
      ((∃ port, Publishes document host port ∧ Publishes document other port) ↔ c.Meets d ∨ d.Meets c) := by
    intro c d host other left right different
    have apart : c ≠ d := by
      rintro rfl
      exact different (Option.some.inj (left.symm.trans right))
    rw [← Container.port_eq_iff left right apart]
    simp only [exact c host left, exact d other right, exists_eq_left]
  refine ⟨named, exact, shared, ?_⟩
  intro few host member other listed different port both
  obtain ⟨c, left⟩ := (named host).mp member
  obtain ⟨d, right⟩ := (named other).mp listed
  rcases (shared c d host other left right different).mp ⟨port, both⟩ with meet | meet
  · exact Container.not_meets left few meet
  · exact Container.not_meets right few meet

theorem mem_serviceNames_iff (n : Network) (host : String) :
    let t := Topology.ofNetwork n
    host ∈ serviceNames (containers t.networkName t.organizations t.orderers) ↔
      ∃ c : Container, c.host? t = some host := by
  intro t
  rw [serviceNames_containers, mem_keys_services]
  constructor
  · rintro (⟨o, member, rfl⟩ | ⟨o, member, k, below, rfl⟩)
    · obtain ⟨i, stands⟩ := List.mem_iff_getElem?.mp member
      exact ⟨.orderer i, Container.host?_orderer_eq_some_iff.mpr ⟨o, stands, rfl⟩⟩
    · obtain ⟨j, stands⟩ := List.mem_iff_getElem?.mp member
      exact ⟨.peer j k, Container.host?_peer_eq_some_iff.mpr ⟨below, o, stands, rfl⟩⟩
  · rintro ⟨c, stands⟩
    cases c with
    | orderer i =>
      obtain ⟨o, orderer, rfl⟩ := Container.host?_orderer_eq_some_iff.mp stands
      exact .inl ⟨o, List.mem_of_getElem? orderer, rfl⟩
    | peer j k =>
      obtain ⟨below, o, organization, rfl⟩ := Container.host?_peer_eq_some_iff.mp stands
      exact .inr ⟨o, List.mem_of_getElem? organization, k, below, rfl⟩

/-- Where organizations have different domains and there are not too many for 32 bits, every service is reached at the
    port meant for its container, and two services share a port exactly if an orderer meets a peer. -/
theorem hostPorts_containers (n : Network)
    (distinct : ((Topology.ofNetwork n).organizations.map (·.domain)).Nodup)
    (fewOrganizations : (Topology.ofNetwork n).organizations.length < 400000000)
    (fewOrderers : (Topology.ofNetwork n).orderers.length < 4000000000) :
    let t := Topology.ofNetwork n
    HostPorts t (containers t.networkName t.organizations t.orderers) := by
  intro t
  have numbered := Topology.numbered_ofNetwork n
  refine .of_exact (mem_serviceNames_iff n) fun c host stands port => ?_
  cases c with
  | orderer i =>
    obtain ⟨o, orderer, rfl⟩ := Container.host?_orderer_eq_some_iff.mp stands
    have bound := (List.getElem?_eq_some_iff.mp orderer).1
    exact publishes_orderer numbered distinct orderer (bound.trans fewOrderers) port
  | peer j k =>
    obtain ⟨below, o, organization, rfl⟩ := Container.host?_peer_eq_some_iff.mp stands
    have bound := (List.getElem?_eq_some_iff.mp organization).1
    exact publishes_peer numbered distinct organization (bound.trans fewOrganizations) below port

/-- A network of an organization and two orderers, of which the second one meets the first peer. -/
def crowded : Network :=
  { Network.named "net" with
    entities :=
      { Entities.empty with
        organizations := [.named "org" "Org1"]
        orderers := [.named "first" "orderer", .named "second" "orderer"] } }

theorem hostPorts_crowded :
    let t := Topology.ofNetwork crowded
    let document := containers t.networkName t.organizations t.orderers
    (t.organizations.map (·.domain)).Nodup ∧ t.organizations.length < 400000000 ∧ t.orderers.length < 4000000000 ∧
    HostPorts t document ∧ Publishes document "orderer1.net.com" 7051 ∧
    Publishes document "peer0.org1.example.com" 7051 := by
  have ports := hostPorts_containers crowded (by decide) (by decide) (by decide)
  refine ⟨by decide, by decide, by decide, ports, ?_, ?_⟩
  · exact (ports.exact (.orderer 1) _ (by decide +kernel) 7051).mpr rfl
  · exact (ports.exact (.peer 0 0) _ (by decide +kernel) 7051).mpr rfl

end Document

end FabricTopology
