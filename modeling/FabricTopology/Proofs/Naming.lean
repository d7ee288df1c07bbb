import FabricTopology.Naming
import FabricTopology.Proofs.Decimal
import FabricTopology.Proofs.Text.LowerCase
import FabricTopology.Proofs.Text.Words

/-!
Which names can be the same. In one domain the position of an orderer follows from its host name; a
peer's host name determines both its position and its domain; and no orderer goes by the name of a peer.

The labels of an orderer's host name are the texts between its dots. White space never comes into the name, since the
name of the network gives only its words. Dots do: the host name has an empty label exactly if the network's name has
one when trimmed (`ordererHost_labels`).
-/
namespace FabricTopology.Naming
open FabricTopology.Decimal

theorem toList_ordererHost (index : Nat) (domain : String) :
    (ordererHost index domain).toList =
      "orderer".toList ++ (if index = 0 then [] else digits index) ++ '.' :: domain.toList := by
  by_cases first : index = 0
  · simp [ordererHost, ordererHostname, first]
  · simp [ordererHost, ordererHostname, first, digits]

theorem toList_peerHost (index : Nat) (domain : String) :
    (peerHost index domain).toList = "peer".toList ++ digits index ++ '.' :: domain.toList := by
  simp [peerHost, digits]

/-- In one domain no two orderers have the same host name. -/
theorem ordererHost_inj {i j : Nat} {domain : String} (same : ordererHost i domain = ordererHost j domain) : i = j := by
  have texts := congrArg String.toList same
  rw [toList_ordererHost, toList_ordererHost, List.append_cancel_right_eq, List.append_cancel_left_eq] at texts
  by_cases left : i = 0 <;> by_cases right : j = 0 <;> simp only [left, right, if_true, if_false] at texts ⊢
  · exact absurd texts.symm (digits_ne_nil j)
  · exact absurd texts (digits_ne_nil i)
  · exact digits_inj texts

theorem dot_notMem_digits (n : Nat) : '.' ∉ digits n := by
  intro member
  exact absurd (isDigit_of_mem_digits member) (by decide)

/-- A peer's host name tells its position and its domain. -/
theorem peerHost_inj {i j : Nat} {domain other : String} (same : peerHost i domain = peerHost j other) :
    i = j ∧ domain = other := by
  have texts := congrArg String.toList same
  rw [toList_peerHost, toList_peerHost, List.append_assoc, List.append_assoc, List.append_cancel_left_eq] at texts
  obtain ⟨numbers, domains⟩ := Text.append_separator_inj (dot_notMem_digits i) (dot_notMem_digits j) texts
  exact ⟨digits_inj numbers, String.toList_inj.mp domains⟩

/-- No orderer goes by the name of a peer. -/
theorem ordererHost_ne_peerHost (i j : Nat) (domain other : String) : ordererHost i domain ≠ peerHost j other := by
  intro same
  have texts := congrArg String.toList same
  rw [toList_ordererHost, toList_peerHost] at texts
  simp at texts

/-- Organizations that name no membership provider have the same one only if they have the same name. -/
theorem defaultMspId_inj {org other : String} (same : defaultMspId org = defaultMspId other) : org = other := by
  have texts := congrArg String.toList same
  rw [defaultMspId, defaultMspId, String.toList_append, String.toList_append, List.append_cancel_right_eq] at texts
  exact String.toList_inj.mp texts

/-- Domains that follow from names are the same where the names differ in case only. -/
theorem defaultDomain_eq_iff {org other : String} :
    defaultDomain org = defaultDomain other ↔ lowered org = lowered other := by
  rw [defaultDomain, defaultDomain, ← String.toList_inj, String.toList_append, String.toList_append,
    List.append_cancel_right_eq, String.toList_inj]

/-! ### Labels -/

section
open FabricTopology.Text
variable {fresh : Bool} {cs ds : List Char}

/-- No label is empty: the text has some, neither begins nor ends with a dot, and has no two dots in a row. -/
structure NoEmptyLabel (cs : List Char) : Prop where
  ne_nil : cs ≠ []
  first : cs.head? ≠ some '.'
  last : cs.getLast? ≠ some '.'
  apart : ¬ ['.', '.'] <:+: cs

/-! ### Empty labels from left to right -/

/-- Whether a label is empty, if `fresh` tells that a label has just begun. -/
def hasGap (fresh : Bool) : List Char → Bool
  | [] => fresh
  | c :: cs => if c = '.' then fresh || hasGap true cs else hasGap false cs

@[simp] theorem hasGap_nil : hasGap fresh [] = fresh := rfl

@[simp] theorem hasGap_dot : hasGap fresh ('.' :: cs) = (fresh || hasGap true cs) := rfl

theorem hasGap_cons {c : Char} (letter : c ≠ '.') : hasGap fresh (c :: cs) = hasGap false cs := if_neg letter

/-- After the first label nothing is missing where dots have something between them and a last label follows. -/
theorem hasGap_false_iff : hasGap false cs = false ↔ cs.getLast? ≠ some '.' ∧ ¬ ['.', '.'] <:+: cs := by
  induction cs with
  | nil => simp
  | cons c cs ih =>
    rw [List.infix_cons_iff, List.cons_prefix_cons, not_or, ← and_assoc]
    by_cases dot : c = '.'
    · subst dot
      cases cs with
      | nil => simp
      | cons d ds =>
        rw [List.getLast?_cons_cons, and_right_comm, ← ih, hasGap_dot, Bool.false_or]
        by_cases second : d = '.'
        · simp [second]
        · simp [hasGap_cons second, Ne.symm second]
    · rw [hasGap_cons dot, ih]
      cases cs with
      | nil => simp [dot]
      | cons d ds => simp [List.getLast?_cons_cons, Ne.symm dot]

theorem hasGap_eq_false_iff : hasGap true cs = false ↔ NoEmptyLabel cs := by
  have labels : NoEmptyLabel cs ↔
      cs ≠ [] ∧ cs.head? ≠ some '.' ∧ cs.getLast? ≠ some '.' ∧ ¬ ['.', '.'] <:+: cs :=
    ⟨fun ⟨ne_nil, first, last, apart⟩ => ⟨ne_nil, first, last, apart⟩,
      fun ⟨ne_nil, first, last, apart⟩ => ⟨ne_nil, first, last, apart⟩⟩
  rw [labels, ← hasGap_false_iff]
  cases cs with
  | nil => simp
  | cons c cs =>
    by_cases dot : c = '.'
    · simp [dot]
    · simp [hasGap_cons dot, dot]

theorem hasGap_append_dot : hasGap fresh (cs ++ '.' :: ds) = (hasGap fresh cs || hasGap true ds) := by
  induction cs generalizing fresh with
  | nil => rfl
  | cons c cs ih =>
    by_cases dot : c = '.'
    · rw [dot, List.cons_append, hasGap_dot, hasGap_dot, ih, Bool.or_assoc]
    · rw [List.cons_append, hasGap_cons dot, hasGap_cons dot, ih]

theorem hasGap_append_congr (before : List Char) (same : ∀ fresh, hasGap fresh cs = hasGap fresh ds) :
    hasGap fresh (before ++ cs) = hasGap fresh (before ++ ds) := by
  induction before generalizing fresh with
  | nil => exact same fresh
  | cons c before ih =>
    by_cases dot : c = '.'
    · rw [dot, List.cons_append, List.cons_append, hasGap_dot, hasGap_dot, ih]
    · rw [List.cons_append, List.cons_append, hasGap_cons dot, hasGap_cons dot, ih]

/-- A text without dots that is not empty fills a label. -/
theorem hasGap_append_of_notMem (some : cs ≠ []) (missing : '.' ∉ cs) :
    hasGap fresh (cs ++ ds) = hasGap false ds := by
  induction cs generalizing fresh with
  | nil => exact absurd rfl some
  | cons c cs ih =>
    rw [List.mem_cons, not_or] at missing
    rw [List.cons_append, hasGap_cons (Ne.symm missing.1)]
    cases cs with
    | nil => rfl
    | cons d rest => exact ih (List.cons_ne_nil d rest) missing.2

/-! ### The words of a name -/

theorem hasGap_lowered {c : Char} {piece : List Char} (lowered : Lowered c piece)
    (same : ∀ fresh, hasGap fresh cs = hasGap fresh ds) : hasGap fresh (piece ++ cs) = hasGap fresh (c :: ds) := by
  by_cases dot : c = '.'
  · rw [lowered.dot dot, dot]
    exact hasGap_append_congr ['.'] same
  · have missing : '.' ∉ piece := by
      intro member
      rcases lowered.mem '.' member with same | ⟨_, letter⟩
      · exact dot same.symm
      · exact letter rfl
    rw [hasGap_append_of_notMem lowered.ne_nil missing, hasGap_cons dot, same]

theorem hasGap_lowerFrom_append (before cs after : List Char) :
    hasGap fresh (lowerFrom before cs ++ after) = hasGap fresh (cs ++ after) := by
  induction cs generalizing before fresh with
  | nil => rfl
  | cons c cs ih =>
    obtain ⟨piece, pieces, lowered⟩ := lowerFrom_cons before c cs
    rw [pieces, List.append_assoc]
    exact hasGap_lowered lowered fun _ => ih (c :: before)

/-- Lower case keeps the labels of joined words. -/
theorem hasGap_joined_lower (ws : List (List Char)) :
    hasGap fresh (['-'].intercalate (ws.map lower)) = hasGap fresh (['-'].intercalate ws) := by
  induction ws generalizing fresh with
  | nil => rfl
  | cons w ws ih =>
    cases ws with
    | nil => simpa [List.intercalate_singleton, lower] using hasGap_lowerFrom_append [] w []
    | cons v ws =>
      rw [List.map_cons, List.map_cons, List.intercalate_cons_cons, List.intercalate_cons_cons, List.append_assoc,
        List.append_assoc, lower, hasGap_lowerFrom_append]
      exact hasGap_append_congr w fun _ => hasGap_append_congr ['-'] fun _ => ih

theorem ne_dot_of_isBlank {c : Char} (blank : isBlank c = true) : c ≠ '.' := by
  rintro rfl
  exact absurd blank (by decide)

/-- Words joined by hyphens have the labels of the text, unless a blank ends the text or begins its first label. -/
theorem hasGap_joined_words (start : fresh = true → ∀ c ∈ cs.head?, isBlank c = false)
    (stop : ∀ c ∈ cs.getLast?, isBlank c = false) :
    hasGap fresh (['-'].intercalate (words cs)) = hasGap fresh cs := by
  fun_induction words cs generalizing fresh with
  | case1 => rfl
  | case2 c blank => exact absurd (stop c rfl) (by simp [blank])
  | case3 c => rw [List.intercalate_singleton]
  | case4 c d rest blank ih =>
    -- The label has not just begun, so the blank adds nothing to it.
    cases fresh with
    | true => exact absurd (start rfl c rfl) (by simp [blank])
    | false =>
      rw [hasGap_cons (ne_dot_of_isBlank blank)]
      exact ih (fun same => absurd same (by decide)) stop
  | case5 c d rest solid blank ih =>
    have some : words (d :: rest) ≠ [] := by
      intro none
      have last := List.getLast?_eq_some_getLast (List.cons_ne_nil d rest)
      have same := words_eq_nil_iff.mp none _ (List.mem_of_getLast? last)
      rw [stop _ last] at same
      cases same
    obtain ⟨v, ws, more⟩ := List.exists_cons_of_ne_nil some
    rw [more] at ih ⊢
    rw [List.intercalate_cons_cons, List.append_assoc]
    refine hasGap_append_congr [c] fun fresh => ?_
    rw [List.singleton_append, hasGap_cons (by decide), ih (fun same => absurd same (by decide)) stop,
      hasGap_cons (ne_dot_of_isBlank blank), hasGap_cons (ne_dot_of_isBlank blank)]
  | case6 c d rest first second w ws more ih =>
    rw [more] at ih
    have joined : ['-'].intercalate ((c :: w) :: ws) = [c] ++ ['-'].intercalate (w :: ws) := by
      cases ws <;> simp
    rw [joined]
    refine hasGap_append_congr [c] fun fresh => ih (fun _ e here => ?_) stop
    rw [← Option.some.inj here]
    simpa using second
  | case7 c d rest first second none ih =>
    exact absurd (words_eq_nil_iff.mp none d List.mem_cons_self) second

/-- The slug of a name has the labels of the trimmed name. -/
theorem hasGap_slug (name : String) : hasGap true (slug name).toList = hasGap true (trim name.toList) := by
  rw [slug, String.toList_ofList, hasGap_joined_lower, ← words_trim]
  exact hasGap_joined_words (fun _ => isBlank_head?_trim _) (isBlank_getLast?_trim _)

/-! ### Host names -/

theorem noEmptyLabel_ordererHost_iff (name : String) (index : Nat) :
    NoEmptyLabel (ordererHost index (ordererDomain name)).toList ↔ NoEmptyLabel (trim name.toList) := by
  have own : hasGap true ("orderer".toList ++ if index = 0 then [] else Decimal.digits index) = false := by
    have numbered : '.' ∉ if index = 0 then [] else Decimal.digits index := by
      split
      · exact List.not_mem_nil
      · exact dot_notMem_digits index
    have missing : '.' ∉ "orderer".toList ++ if index = 0 then [] else Decimal.digits index :=
      List.mem_append.not.mpr (not_or.mpr ⟨by decide, numbered⟩)
    rw [← List.append_nil ("orderer".toList ++ _), hasGap_append_of_notMem (by simp) missing]
    rfl
  have last : hasGap true "com".toList = false := by decide
  rw [← hasGap_eq_false_iff, ← hasGap_eq_false_iff, toList_ordererHost, ordererDomain, String.toList_append,
    hasGap_append_dot, own, Bool.false_or, show ".com".toList = '.' :: "com".toList from rfl, hasGap_append_dot, last,
    Bool.or_false, hasGap_slug]

/-- Of a network's name only the words come into its slug. -/
theorem solid_slug (name : String) : ∀ c ∈ (slug name).toList, isBlank c = false := by
  intro c member
  rw [slug, String.toList_ofList] at member
  rcases mem_intercalate member with hyphen | ⟨part, listed, stands⟩
  · rw [List.mem_singleton.mp hyphen]
    decide
  · obtain ⟨word, found, rfl⟩ := List.mem_map.mp listed
    rcases mem_lower stands with kept | ⟨solid, _⟩
    · exact (words_solid _ word found).2 c kept
    · exact solid

theorem solid_ordererDomain (name : String) : ∀ c ∈ (ordererDomain name).toList, isBlank c = false := by
  have com : ".com".toList.all (fun c => !isBlank c) = true := by decide
  rw [ordererDomain, String.toList_append, List.forall_mem_append]
  exact ⟨solid_slug name, by simpa using com⟩

theorem solid_ordererHost (name : String) (index : Nat) :
    ∀ c ∈ (ordererHost index (ordererDomain name)).toList, isBlank c = false := by
  have orderer : "orderer".toList.all (fun c => !isBlank c) = true := by decide
  rw [toList_ordererHost, List.forall_mem_append, List.forall_mem_append, List.forall_mem_cons]
  refine ⟨⟨by simpa using orderer, ?_⟩, by decide, solid_ordererDomain name⟩
  split
  · simp
  · exact fun c digit => isBlank_of_isDigit (Decimal.isDigit_of_mem_digits digit)

/-- An orderer's host name holds no white space, whatever the network's name. None of its labels is empty exactly if
    none is in the trimmed name, and a name of nothing but white space has an empty one. -/
theorem ordererHost_labels (name : String) (index : Nat) :
    (∀ c ∈ (ordererHost index (ordererDomain name)).toList, isBlank c = false) ∧
    (NoEmptyLabel (ordererHost index (ordererDomain name)).toList ↔ NoEmptyLabel (trim name.toList)) :=
  ⟨solid_ordererHost name index, noEmptyLabel_ordererHost_iff name index⟩

/-- A dot at the end of the name, two dots in a row and a name that is blank each leave an empty label. -/
theorem emptyLabels_ordererHost :
    ¬ NoEmptyLabel (ordererHost 0 (ordererDomain "Net.")).toList ∧
    ¬ NoEmptyLabel (ordererHost 1 (ordererDomain "my..Net")).toList ∧
    ¬ NoEmptyLabel (ordererHost 2 (ordererDomain " ")).toList := by
  simp only [← hasGap_eq_false_iff]
  decide

end

end FabricTopology.Naming
