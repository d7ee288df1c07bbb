import FabricTopology.Proofs.Api.Effect
import FabricTopology.Proofs.Api.Path
import FabricTopology.Proofs.Network.Patch

/-!
A network is shown as a patch to all of it. Sent back, it changes nothing but the time of the last change
(`encoding_patches`), as long as the places of its nodes are read back from their texts: a coordinate is rounded after
each step of reading, and one that is not read back moves (`pinned_moves`).
-/
namespace FabricTopology.Api

/-- The text of a body, if there is one. -/
def Content.text? : Content → Option String
  | .nothing => none
  | .json j => some j.compact
  | .plain text => some text
  | .file _ text => some text

/-- The network of an id is asked for, and the body of the answer is sent back as a patch. -/
def sendBack (s : Store) (x freshId : String) (now : Calendar.Timestamp) : Response × Store :=
  let shown := (handle s freshId now ⟨.get, "/api/networks/" ++ x, none⟩).1
  handle s freshId now ⟨.patch, "/api/networks/" ++ x, shown.content.text?⟩

section
variable {s : Store} {x : String} {m : Network}

theorem ofRequest?_network {method : Method} (plain : isPlain x = true) {body : Option String} :
    Route.ofRequest? ⟨method, "/api/networks/" ++ x, body⟩ = Route.ofNetworkPath? method [x] := by
  have same : "/api/networks/" ++ x = path ["api", "networks", x] := String.toList_inj.mp (by simp [path])
  have all : ∀ t ∈ ["api", "networks", x], isPlain t = true := by
    simp only [List.forall_mem_cons]
    exact ⟨by decide, by decide, plain, by simp⟩
  rw [same, ofRequest?_path all]
  rfl

theorem handle_show (plain : isPlain x = true) (stored : s.getNetwork x = some m) (freshId : String)
    (now : Calendar.Timestamp) :
    (handle s freshId now ⟨.get, "/api/networks/" ++ x, none⟩).1 = .ok (.json m.toJson) := by
  rw [handle, ofRequest?_network plain, Route.ofNetworkPath?, parameter_plain plain]
  simp only [answer, aboutNetwork, stored]

/-- What is sent back about a stored network is its encoding. -/
theorem sendBack_eq (plain : isPlain x = true) (stored : s.getNetwork x = some m) (freshId : String)
    (now : Calendar.Timestamp) :
    sendBack s x freshId now = handle s freshId now ⟨.patch, "/api/networks/" ++ x, some m.toJson.compact⟩ := by
  rw [sendBack, handle_show plain stored]
  rfl

/-- A patch to a stored network. -/
theorem handle_patch (plain : isPlain x = true) (stored : s.getNetwork x = some m) {text : String} {p : NetworkPatch}
    (read : (Json.parse? text).bind NetworkPatch.ofJson? = some p) (freshId : String) (now : Calendar.Timestamp) :
    (handle s freshId now ⟨.patch, "/api/networks/" ++ x, some text⟩).1.status = 200 ∧
      (handle s freshId now ⟨.patch, "/api/networks/" ++ x, some text⟩).2.getNetwork x =
        some { p.apply m with updatedAt := some now } := by
  rw [handle, ofRequest?_network plain, Route.ofNetworkPath?, parameter_plain plain]
  simp only [answer, withBody, Option.bind_some, read, update, Store.updateNetwork, stored]
  exact ⟨rfl, Table.get?_put_self s.networks x _⟩

end

/-- The text of a network's encoding is read as the patch to every part of it. -/
theorem patch_of_text {m : Network} (legible : m.IsLegible) :
    (Json.parse? m.toJson.compact).bind NetworkPatch.ofJson? = some m.asPatch := by
  rw [Json.parse?_compact (Network.legible_toJson legible), Option.bind_some,
    NetworkPatch.ofJson?_toJson legible.isPlaced]

/-- The encoding of a network is a patch that puts all of it but its id and its times in place of another network.
    If its places are legible, so is the text of the encoding, and a network that is sent back as it is shown changes
    nothing but the time of its last change. -/
theorem encoding_patches (m n : Network) (placed : m.IsPlaced) :
    (∃ p, NetworkPatch.ofJson? m.toJson = some p ∧
      (m.IsLegible → (Json.parse? m.toJson.compact).bind NetworkPatch.ofJson? = some p) ∧
      p.apply n =
        { m with id := n.id, createdAt := n.createdAt, updatedAt := n.updatedAt, status := m.status <|> n.status }) ∧
    (m.IsLegible → ∀ s x freshId now, isPlain x = true → s.getNetwork x = some m →
      (sendBack s x freshId now).1.status = 200 ∧
        (sendBack s x freshId now).2.getNetwork x = some { m with updatedAt := some now }) := by
  refine ⟨⟨m.asPatch, NetworkPatch.ofJson?_toJson placed, patch_of_text, NetworkPatch.apply_asPatch m n⟩, ?_⟩
  intro legible s x freshId now plain stored
  have patched := handle_patch plain stored (patch_of_text legible) freshId now
  have unchanged : m.asPatch.apply m = m := by
    rw [NetworkPatch.apply_asPatch]
    cases h : m.status <;> simp [← h]
  rw [unchanged] at patched
  rw [sendBack_eq plain stored]
  exact patched

/-- A network with a node at a place. -/
def pinned (x y : Float) : Network :=
  { Network.named "net" with id := "a1", nodes := [⟨"n", .peer, "peer", none, ⟨x, y⟩⟩] }

/-- A store of one network with a node at a place. -/
def pinboard (x y : Float) : Store := ⟨[("a1", pinned x y)], []⟩

theorem encoding_patches_pinned : (pinned 0.5 (-1250.75)).IsPlaced ∧ (pinned 0.5 (-1250.75)).IsLegible ∧
    (sendBack (pinboard 0.5 (-1250.75)) "a1" "b2" .epoch).2.getNetwork "a1" =
      some { pinned 0.5 (-1250.75) with updatedAt := some .epoch } := by
  have legible : (pinned 0.5 (-1250.75)).IsLegible := by decide +kernel
  have patches := encoding_patches (pinned 0.5 (-1250.75)) (pinned 0.5 (-1250.75)) legible.isPlaced
  have sent := patches.2 legible (pinboard 0.5 (-1250.75)) "a1" "b2" .epoch (by decide) rfl
  exact ⟨legible.isPlaced, legible, sent.2⟩

/-- How far to the right the nodes of a network stand. -/
def abscissas (n : Network) : List Float := n.nodes.map (·.position.x)

/-- A coordinate that is read back as another one. The text of the network is read as a network, and as a patch, whose
    node stands elsewhere, and so the node moves when its network is sent back as it is shown. -/
theorem pinned_moves : (pinned 8899739429147113 0).IsPlaced ∧
    abscissas (pinned 8899739429147113 0) = [8899739429147113] ∧
    ((Json.parse? (pinned 8899739429147113 0).toJson.compact).bind Network.ofJson?).map abscissas =
      some [8899739429147114] ∧
    ((Json.parse? (pinned 8899739429147113 0).toJson.compact).bind NetworkPatch.ofJson?).map
      (fun p => abscissas (p.apply (pinned 8899739429147113 0))) = some [8899739429147114] ∧
    ((sendBack (pinboard 8899739429147113 0) "a1" "b2" .epoch).2.getNetwork "a1").map abscissas =
      some [8899739429147114] ∧
    (8899739429147113 : Float) ≠ 8899739429147114 := by
  have read : ((Json.parse? (pinned 8899739429147113 0).toJson.compact).bind Network.ofJson?).map abscissas =
      some [8899739429147114] := by
    rw [Json.compact, Json.parse?_ofList]
    decide +kernel
  have patch : ((Json.parse? (pinned 8899739429147113 0).toJson.compact).bind NetworkPatch.ofJson?).map
      (fun p => abscissas (p.apply (pinned 8899739429147113 0))) = some [8899739429147114] := by
    rw [Json.compact, Json.parse?_ofList]
    decide +kernel
  obtain ⟨p, known, moved⟩ := Option.map_eq_some_iff.mp patch
  have stored : (pinboard 8899739429147113 0).getNetwork "a1" = some (pinned 8899739429147113 0) := rfl
  have patched := (handle_patch (by decide) stored known "b2" .epoch).2
  refine ⟨by decide +kernel, rfl, read, patch, ?_, by decide +kernel⟩
  rw [sendBack_eq (by decide) stored, patched, ← moved]
  rfl

end FabricTopology.Api
