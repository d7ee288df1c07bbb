import FabricTopology.Text.LowerCase
import FabricTopology.Text.Words

/-!
What lower case leaves alone. White space and the dot have no case, and no letter's lower case is one of them. So a
text in lower case has its dots where the text has them, and blanks only if the text has some (`mem_lower`).
-/
namespace FabricTopology.Text
variable {c d : Char} {cs : List Char}

/-! ### One character -/

/-- A number that is no character's gives the null character. -/
theorem toNat_ofNat_cases (n : Nat) : (Char.ofNat n).toNat = 0 ∨ (Char.ofNat n).toNat = n := by
  by_cases valid : n.isValidChar
  · exact .inr (by rw [Char.ofNat, dif_pos valid]; rfl)
  · exact .inl (by rw [Char.ofNat, dif_neg valid]; rfl)

/-- No image of the run is white space or a dot. -/
def LowerRun.isSolid (r : LowerRun) : Bool :=
  let last := r.image + (r.last - r.first)
  0x60 < r.image && [(0x85, 0x85), (0xA0, 0xA0), (0x1680, 0x1680), (0x2000, 0x205F), (0x3000, 0x3000)].all
    fun gap => last < gap.1 || gap.2 < r.image

theorem isSolid_lowerRuns : lowerRuns.all LowerRun.isSolid = true := by decide +kernel

theorem LowerRun.solid_image {r : LowerRun} (solid : r.isSolid = true) {n : Nat} (covered : r.covers n = true) :
    isBlank (Char.ofNat (r.image + (n - r.first))) = false ∧ Char.ofNat (r.image + (n - r.first)) ≠ '.' := by
  simp only [isSolid, List.all_cons, List.all_nil, Bool.and_eq_true, Bool.or_eq_true, decide_eq_true_eq] at solid
  simp only [covers, Bool.and_eq_true, decide_eq_true_eq] at covered
  have code := toNat_ofNat_cases (r.image + (n - r.first))
  generalize Char.ofNat (r.image + (n - r.first)) = image at code
  constructor
  · simp only [isBlank, Bool.or_eq_false_iff, Bool.and_eq_false_imp, decide_eq_true_eq, decide_eq_false_iff_not,
      beq_eq_false_iff_ne]
    omega
  · rintro rfl
    have dot : '.'.toNat = 0x2E := rfl
    omega

/-- What a character becomes in lower case, as far as white space and dots go. -/
structure Lowered (c : Char) (piece : List Char) : Prop where
  ne_nil : piece ≠ []
  dot : c = '.' → piece = ['.']
  mem : ∀ d ∈ piece, d = c ∨ isBlank d = false ∧ d ≠ '.'

theorem lowered_lowerChar (c : Char) : Lowered c (lowerChar c) := by
  refine ⟨?_, ?_, ?_⟩
  · fun_cases lowerChar c <;> simp
  · rintro rfl
    decide +kernel
  · fun_cases lowerChar c with
    | case1 sigma => simp [isBlank]
    | case2 _ r found =>
      have solid := List.all_eq_true.mp isSolid_lowerRuns r (List.mem_of_find?_eq_some found)
      have covered := List.find?_some found
      intro d member
      rw [List.mem_singleton.mp member]
      exact .inr (r.solid_image solid covered)
    | case3 =>
      intro d member
      exact .inl (List.mem_singleton.mp member)

theorem lowered_lowerSigma (before after : List Char) : Lowered '\u03A3' [lowerSigma before after] := by
  refine ⟨by simp, fun same => absurd same (by decide), ?_⟩
  intro d member
  rw [List.mem_singleton.mp member, lowerSigma]
  split <;> decide

/-! ### A whole text -/

theorem lowerFrom_cons (before : List Char) (c : Char) (cs : List Char) :
    ∃ piece, lowerFrom before (c :: cs) = piece ++ lowerFrom (c :: before) cs ∧ Lowered c piece := by
  rw [lowerFrom]
  by_cases sigma : c = '\u03A3'
  · rw [if_pos sigma, sigma]
    exact ⟨_, rfl, lowered_lowerSigma before cs⟩
  · rw [if_neg sigma]
    exact ⟨_, rfl, lowered_lowerChar c⟩

theorem mem_lowerFrom {before : List Char} (member : d ∈ lowerFrom before cs) :
    d ∈ cs ∨ isBlank d = false ∧ d ≠ '.' := by
  induction cs generalizing before with
  | nil => exact absurd member List.not_mem_nil
  | cons c cs ih =>
    obtain ⟨piece, pieces, lowered⟩ := lowerFrom_cons before c cs
    rw [pieces] at member
    rcases List.mem_append.mp member with here | later
    · exact (lowered.mem d here).imp_left fun same => by rw [same]; exact List.mem_cons_self
    · exact (ih later).imp_left (List.mem_cons_of_mem c)

/-- White space and dots of a text in lower case are those of the text. -/
theorem mem_lower (member : d ∈ lower cs) : d ∈ cs ∨ isBlank d = false ∧ d ≠ '.' := mem_lowerFrom member

end FabricTopology.Text
