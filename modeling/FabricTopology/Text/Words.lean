/-!
A text in its parts. Its segments are the stretches between the places where a separator stands. There is one segment
more than there are separators, so segments may be empty; joined by the separator they give the text back.

White space is the Unicode property White_Space, with 25 characters. `trim` leaves the text between the white space at
both ends, and `words` are the stretches between runs of it. No word is empty and no word holds a blank.
-/
namespace FabricTopology.Text

/-! ### Segments -/

/-- The stretches between separators. -/
def segments (separator : Char) : List Char → List (List Char)
  | [] => [[]]
  | c :: rest =>
    if c = separator then [] :: segments separator rest
    else match segments separator rest with
      | s :: more => (c :: s) :: more
      | [] => [[c]]

theorem segments_ne_nil (separator : Char) (cs : List Char) : segments separator cs ≠ [] := by
  fun_cases segments separator cs <;> simp_all

/-- The segments joined by the separator are the text. -/
theorem intercalate_segments (separator : Char) (cs : List Char) :
    [separator].intercalate (segments separator cs) = cs := by
  fun_induction segments separator cs with
  | case1 => simp [List.intercalate]
  | case2 rest ih =>
    obtain ⟨s, more, h⟩ := List.exists_cons_of_ne_nil (segments_ne_nil separator rest)
    simp_all [List.intercalate]
  | case3 c rest hc s more hs ih =>
    rw [hs] at ih
    cases more <;> simp_all [List.intercalate, List.intersperse]
  | case4 c rest hc hs => exact absurd hs (segments_ne_nil _ _)

/-! ### White space -/

/-- The characters of the property White_Space. -/
def isBlank (c : Char) : Bool :=
  let n := c.toNat
  (9 ≤ n && n ≤ 13) || n == 0x20 || n == 0x85 || n == 0xA0 || n == 0x1680 ||
    (0x2000 ≤ n && n ≤ 0x200A) || n == 0x2028 || n == 0x2029 || n == 0x202F || n == 0x205F ||
    n == 0x3000

/-- The text from its first character that is not blank. -/
def trimStart (cs : List Char) : List Char := cs.dropWhile isBlank

/-- The text without the white space at both of its ends. -/
def trim (cs : List Char) : List Char := (trimStart (trimStart cs).reverse).reverse

/-- Nothing but white space. -/
def isAllBlank (s : String) : Bool := s.toList.all isBlank

/-- The longest stretches without white space, in order. -/
def words : List Char → List (List Char)
  | [] => []
  | [c] => if isBlank c then [] else [[c]]
  | c :: d :: rest =>
    if isBlank c then words (d :: rest)
    else if isBlank d then [c] :: words (d :: rest)
    else match words (d :: rest) with
      | w :: ws => (c :: w) :: ws
      | [] => [[c]]

theorem words_blank_cons {c : Char} (h : isBlank c = true) (cs : List Char) :
    words (c :: cs) = words cs := by
  cases cs <;> simp [words, h]

/-- No word is empty and no word holds a blank. -/
theorem words_solid (cs : List Char) :
    ∀ w ∈ words cs, w ≠ [] ∧ ∀ c ∈ w, isBlank c = false := by
  fun_induction words cs with
  | case1 => simp
  | case2 c h => simp
  | case3 c h => simp_all
  | case4 c d rest h ih => exact ih
  | case5 c d rest hc hd ih =>
    intro w hw
    rcases List.mem_cons.1 hw with rfl | hw
    · simp_all
    · exact ih w hw
  | case6 c d rest hc hd w ws hws ih =>
    intro v hv
    rcases List.mem_cons.1 hv with rfl | hv
    · have := ih w (by simp [hws])
      simp_all
    · exact ih v (by simp [hws, hv])
  | case7 c d rest hc hd hws ih => simp_all

end FabricTopology.Text
