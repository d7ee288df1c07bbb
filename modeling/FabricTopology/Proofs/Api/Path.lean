import FabricTopology.Api.Route
import FabricTopology.Proofs.Text.Numeral
import FabricTopology.Proofs.Text.Words
import Mathlib.Data.List.TakeWhile

/-!
Paths and the routes they lead to. A plain segment is one that no decoding changes, and a path of plain segments is
cut into just these (`segments?_path`).
-/
namespace FabricTopology.Api
open FabricTopology.Text

/-- Letters, digits and hyphens. -/
def isPlainChar (c : Char) : Bool := c.isAlphanum || c == '-'

/-- A text of letters, digits and hyphens that is not empty, as fresh ids are. -/
def isPlain (s : String) : Bool := !s.toList.isEmpty && s.toList.all isPlainChar

/-! ### Decoding -/

/-- A character of one byte that is not the percent sign. -/
def Bare (c : Char) : Prop := c.toNat < 0x80 ∧ c ≠ '%'

theorem utf8EncodeChar_bare {c : Char} (bare : Bare c) : String.utf8EncodeChar c = [UInt8.ofNat c.toNat] := by
  have small : c.val.toNat ≤ 0x7f := Nat.le_of_lt_succ bare.1
  simp only [String.utf8EncodeChar, small, if_true]
  rfl

theorem toNat_byte {c : Char} (bare : Bare c) : (UInt8.ofNat c.toNat).toNat = c.toNat := by
  have := bare.1
  simp only [UInt8.toNat_ofNat']
  omega

theorem decodeBytes_of_notMem {keeps : UInt8 → Bool} {bs : List UInt8} (unsigned : Percent.sign ∉ bs) :
    Percent.decodeBytes keeps bs = bs := by
  fun_induction Percent.decodeBytes keeps bs with
  | case1 c a b rest d _ encoded ih => exact absurd (encoded.1 ▸ List.mem_cons_self) unsigned
  | case2 c a b rest d _ _ ih => rw [ih fun member => unsigned (List.mem_cons_of_mem c member)]
  | case3 c a b rest _ ih => rw [ih fun member => unsigned (List.mem_cons_of_mem c member)]
  | case4 => rfl

theorem decodeAfter_bytes {cs : List Char} (bare : ∀ c ∈ cs, Bare c) :
    Utf8.decodeAfter none (cs.map fun c => UInt8.ofNat c.toNat) = cs := by
  induction cs with
  | nil => rfl
  | cons c cs ih =>
    obtain ⟨here, others⟩ := List.forall_mem_cons.mp bare
    have small : UInt8.ofNat c.toNat < 0x80 := UInt8.lt_iff_toNat_lt.mpr (by rw [toNat_byte here]; exact here.1)
    rw [List.map_cons, Utf8.decodeAfter, Utf8.next, Utf8.first, if_pos small, toNat_byte here, Char.ofNat_toNat]
    simp [ih others]

/-- A text of such characters is left as it is. -/
theorem decode_bare {cs : List Char} (bare : ∀ c ∈ cs, Bare c) (keeps : UInt8 → Bool) :
    Percent.decode keeps cs = cs := by
  have bytes : Utf8.bytes cs = cs.map fun c => UInt8.ofNat c.toNat := by
    induction cs with
    | nil => rfl
    | cons c cs ih =>
      obtain ⟨here, others⟩ := List.forall_mem_cons.mp bare
      rw [Utf8.bytes, List.flatMap_cons, utf8EncodeChar_bare here, List.map_cons, ← ih others]
      rfl
  have unsigned : Percent.sign ∉ cs.map fun c => UInt8.ofNat c.toNat := by
    intro member
    obtain ⟨c, stands, same⟩ := List.mem_map.mp member
    have code := congrArg UInt8.toNat same
    rw [toNat_byte (bare c stands)] at code
    exact (bare c stands).2 (Char.toNat_inj.mp code)
  rw [Percent.decode, bytes, decodeBytes_of_notMem unsigned, Utf8.decode, decodeAfter_bytes bare]

/-! ### Paths -/

theorem bare_of_plain {c : Char} (plain : isPlainChar c = true) : Bare c ∧ c ∉ ['/', '?', '#'] := by
  rcases Bool.or_eq_true_iff.mp plain with alphanumeric | hyphen
  · have codes := isAlphanum_iff.mp alphanumeric
    refine ⟨⟨by omega, ?_⟩, ?_⟩
    · rintro rfl
      exact absurd alphanumeric (by decide)
    · simp only [List.mem_cons, List.not_mem_nil, or_false]
      rintro (rfl | rfl | rfl) <;> exact absurd alphanumeric (by decide)
  · rw [beq_iff_eq.mp hyphen]
    exact ⟨⟨by decide, by decide⟩, by decide⟩

theorem plain_toList {s : String} (plain : isPlain s = true) :
    s.toList ≠ [] ∧ ∀ c ∈ s.toList, isPlainChar c = true := by
  obtain ⟨nonempty, all⟩ := Bool.and_eq_true_iff.mp plain
  exact ⟨by simpa using nonempty, List.all_eq_true.mp all⟩

/-- A plain parameter is what it says. -/
theorem parameter_plain {s : String} (plain : isPlain s = true) : parameter s = s := by
  rw [parameter, decode_bare fun c member => (bare_of_plain ((plain_toList plain).2 c member)).1, String.ofList_toList]

/-- A path by its segments. -/
def path : List String → String
  | [] => ""
  | s :: rest => "/" ++ s ++ path rest

theorem toList_path_cons (s : String) (rest : List String) :
    (path (s :: rest)).toList = '/' :: (s.toList ++ (path rest).toList) := by
  simp [path]

theorem bare_path {parts : List String} (plain : ∀ s ∈ parts, isPlain s = true) :
    ∀ c ∈ (path parts).toList, Bare c ∧ c ≠ '?' ∧ c ≠ '#' := by
  induction parts with
  | nil => simp [path]
  | cons s rest ih =>
    obtain ⟨here, others⟩ := List.forall_mem_cons.mp plain
    rw [toList_path_cons]
    refine List.forall_mem_cons.mpr ⟨⟨⟨by decide, by decide⟩, by decide, by decide⟩, ?_⟩
    refine List.forall_mem_append.mpr ⟨fun c member => ?_, ih others⟩
    obtain ⟨bare, other⟩ := bare_of_plain ((plain_toList here).2 c member)
    simp only [List.mem_cons, List.not_mem_nil, or_false, not_or] at other
    exact ⟨bare, other.2⟩

theorem segments_path {s : String} {rest : List String} (here : isPlain s = true)
    (plain : ∀ s ∈ rest, isPlain s = true) :
    segments '/' (s.toList ++ (path rest).toList) = (s :: rest).map String.toList := by
  have missing : ∀ s, isPlain s = true → '/' ∉ s.toList := by
    intro s plain member
    exact (bare_of_plain ((plain_toList plain).2 '/' member)).2 (by decide)
  induction rest generalizing s with
  | nil => simpa [path] using segments_of_notMem (missing s here)
  | cons t rest ih =>
    obtain ⟨next, others⟩ := List.forall_mem_cons.mp plain
    rw [toList_path_cons, segments_append_cons (missing s here), ih next others]
    rfl

/-- A path of plain segments is cut into them. -/
theorem segments?_path {s : String} {rest : List String} (plain : ∀ t ∈ s :: rest, isPlain t = true) :
    segments? (path (s :: rest)) = some (s :: rest) := by
  have bare := bare_path plain
  have whole : withoutQuery (path (s :: rest)).toList = (path (s :: rest)).toList :=
    List.takeWhile_eq_self_iff.mpr fun c member => by simp [(bare c member).2]
  obtain ⟨here, others⟩ := List.forall_mem_cons.mp plain
  have cut : segments '/' (path (s :: rest)).toList = [] :: (s :: rest).map String.toList := by
    rw [toList_path_cons, segments, if_pos rfl, segments_path here others]
  have filled : ((s :: rest).map String.toList).any List.isEmpty = false := by
    rw [List.any_eq_false]
    rintro cs member
    obtain ⟨t, stands, rfl⟩ := List.mem_map.mp member
    simpa using (plain_toList (plain t stands)).1
  rw [segments?, whole, decode_bare fun c member => (bare c member).1, cut]
  simp only [filled]
  simp

/-- The route of a request to a path of plain segments. -/
theorem ofRequest?_path {m : Method} {s : String} {rest : List String} (plain : ∀ t ∈ s :: rest, isPlain t = true)
    (body : Option String) : Route.ofRequest? ⟨m, path (s :: rest), body⟩ = Route.ofPath? m (s :: rest) := by
  rw [Route.ofRequest?, segments?_path plain]
  rfl

end FabricTopology.Api
