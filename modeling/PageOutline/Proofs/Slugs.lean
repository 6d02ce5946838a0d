import PageOutline.Proofs.Arena
import PageOutline.Proofs.NamePaths

namespace PageOutline

open Text

variable {c d : Char} {before cs : List Char}

section Lowered

theorem isUpper_of_lt (h : 'Z'.toNat < c.toNat) : c.isUpper = false := by
  have hle : ¬c.val ≤ 'Z'.val := by
    rw [UInt32.le_iff_toNat_le]
    exact Nat.not_le_of_lt h
  exact decide_eq_false fun hupper ↦ hle hupper.2

theorem isUpper_charOfCode {n : Nat} (h : 'Z'.toNat < n) : (charOfCode n).isUpper = false := by
  by_cases hvalid : n.isValidChar
  · rw [charOfCode, dif_pos hvalid]
    exact isUpper_of_lt h
  · rw [charOfCode, dif_neg hvalid]
    decide

theorem lt_target_of_mem_loweringRuns : ∀ run ∈ loweringRuns, 'Z'.toNat < run.target := by
  decide +kernel

theorem lt_of_findSome?_target? {n m : Nat} (h : loweringRuns.findSome? (·.target? n) = some m) :
    'Z'.toNat < m := by
  obtain ⟨run, hrun, htarget⟩ := List.exists_of_findSome?_eq_some h
  have hlt := lt_target_of_mem_loweringRuns run hrun
  unfold LoweringRun.target? at htarget
  split at htarget
  · obtain rfl := Option.some.inj htarget
    omega
  · cases htarget

theorem isUpper_of_mem_lowerChar (h : d ∈ lowerChar c) : d.isUpper = false := by
  unfold lowerChar at h
  split at h
  · rw [List.mem_singleton.1 h]
    exact isUpper_toLower c
  · next hascii =>
    split at h
    · have hdotted : d = 'i' ∨ d = '\u0307' := by
        simpa using h
      rcases hdotted with rfl | rfl <;> decide
    · split at h
      · next hcode =>
        rw [List.mem_singleton.1 h]
        exact isUpper_charOfCode (lt_of_findSome?_target? hcode)
      · -- A character that lowers to nothing else stays, and stands behind all of ASCII.
        rw [List.mem_singleton.1 h]
        exact isUpper_of_lt (Nat.lt_of_lt_of_le (by decide) (Nat.le_of_not_lt hascii))

theorem isUpper_of_mem_lowerAfter (h : d ∈ lowerAfter before cs) : d.isUpper = false := by
  induction cs generalizing before with
  | nil => cases h
  | cons c r ih =>
    rw [lowerAfter_cons] at h
    rcases List.mem_append.1 h with h | h
    · unfold lowerAt at h
      split at h
      · have hsigma : d = 'ς' ∨ d = 'σ' := by
          split at h
          · exact .inl (List.mem_singleton.1 h)
          · exact .inr (List.mem_singleton.1 h)
        rcases hsigma with rfl | rfl <;> decide
      · exact isUpper_of_mem_lowerChar h
    · exact ih h

theorem isLowered_lowercase (s : String) : IsLowered (lowercase s) := by
  intro c hc
  rw [lowercase, String.toList_ofList] at hc
  exact isUpper_of_mem_lowerAfter hc

end Lowered

/-- Small letters and digits of ASCII, and underscores. -/
def isSlugChar (c : Char) : Bool := c.isLower || c.isDigit || c == '_'

section SlugChars

theorem isWordChar_eq (c : Char) : isWordChar c = (c.isUpper || isSlugChar c) := by
  have halpha : c.isAlpha = (c.isUpper || c.isLower) := rfl
  rw [isWordChar, isSlugChar, halpha, Bool.or_assoc, Bool.or_assoc, Bool.or_assoc]

theorem ascii_of_isSlugChar (h : isSlugChar c = true) : c.isUpper = false ∧ c.toNat < 0x80 := by
  simp only [isSlugChar, Bool.or_eq_true, beq_iff_eq] at h
  rcases h with (h | h) | rfl
  · delta Char.isLower at h
    delta Char.isUpper
    grind [UInt32.le_iff_toNat_le, Char.toNat_val]
  · delta Char.isDigit at h
    delta Char.isUpper
    grind [UInt32.le_iff_toNat_le, Char.toNat_val]
  · decide

theorem isSlugChar_of_mem_slugify {t : String} (h : c ∈ (slugify t).toList) :
    isSlugChar c = true := by
  rw [slugify, String.toList_ofList] at h
  rcases of_mem_replaceRuns h with rfl | ⟨hword, hlowered⟩
  · decide
  · rw [Bool.not_eq_false', isWordChar_eq, isLowered_lowercase t c hlowered] at hword
    exact hword

theorem lowerAt_of_isSlugChar (h : isSlugChar c = true) (before after : List Char) :
    lowerAt before after c = [c] := by
  obtain ⟨hupper, hascii⟩ := ascii_of_isSlugChar h
  have hsigma : c ≠ 'Σ' := by
    rintro rfl
    revert hascii
    decide
  rw [lowerAt, if_neg hsigma, lowerChar, if_pos hascii, toLower_of_not_isUpper hupper]

theorem lowerAfter_of_isSlugChar (h : ∀ c ∈ cs, isSlugChar c = true) :
    lowerAfter before cs = cs := by
  induction cs generalizing before with
  | nil => rfl
  | cons c r ih =>
    rw [List.forall_mem_cons] at h
    rw [lowerAfter_cons, lowerAt_of_isSlugChar h.1, ih h.2, List.singleton_append]

theorem slugify_eq_self_iff {t : String} :
    slugify t = t ↔ ∀ c ∈ t.toList, isSlugChar c = true := by
  constructor
  · intro h c hc
    rw [← h] at hc
    exact isSlugChar_of_mem_slugify hc
  · intro h
    have hwords : ∀ c ∈ t.toList, (!isWordChar c) = false := by
      intro c hc
      rw [isWordChar_eq, h c hc, Bool.or_true, Bool.not_true]
    rw [slugify, lowercase, String.toList_ofList, lowerAfter_of_isSlugChar h,
      replaceRuns_of_none hwords, String.ofList_toList]

end SlugChars

/-- A slug is the lowered text with each maximal run of other characters than word characters made
an underscore. It has small letters, digits and underscores only, and is its own slug. -/
theorem slugify_clean (t : String) :
    (∀ c ∈ (slugify t).toList, isSlugChar c = true) ∧
    (slugify t = "" ↔ t = "") ∧
    slugify (slugify t) = slugify t ∧
    (slugify t).toList = (runs (fun c ↦ !isWordChar c) (lowercase t).toList).flatMap fun r ↦
      if r.all (fun c ↦ !isWordChar c) then ['_'] else r := by
  have hclean : ∀ c ∈ (slugify t).toList, isSlugChar c = true := fun c hc ↦
    isSlugChar_of_mem_slugify hc
  refine ⟨hclean, slugify_eq_empty_iff, slugify_eq_self_iff.2 hclean, ?_⟩
  rw [slugify, String.toList_ofList, replaceRuns_eq_runs]

theorem slugify_clean_kelvin :
    'k' ∈ (slugify "4.5 \u212a, İ").toList ∧ isSlugChar 'k' = true ∧
    slugify "4.5 \u212a, İ" = "4_5_k_i_" ∧ slugify "4_5_k_i_" = "4_5_k_i_" := by
  obtain ⟨hclean, -, hagain, -⟩ := slugify_clean "4.5 \u212a, İ"
  have hslug : slugify "4.5 \u212a, İ" = "4_5_k_i_" := by decide +kernel
  have hk : 'k' ∈ (slugify "4.5 \u212a, İ").toList := by
    rw [hslug]
    decide
  exact ⟨hk, hclean 'k' hk, hslug, hslug ▸ hagain⟩

end PageOutline
