import Mathlib
import SearchNotation.Text.Case

/-!
# ASCII letters in both cases

Only a small letter and its capital have that letter for their lower case (`toLower_eq_iff`). A
character by itself becomes that letter too (`lowerChar_toUpper`), and an ASCII text without
capitals is its own lower case (`lowerChars_eq_self`).
-/

set_option autoImplicit false

namespace SearchNotation.Text

/-! ## Letters -/

theorem isLower_iff {c : Char} : c.isLower = true ↔ 97 ≤ c.toNat ∧ c.toNat ≤ 122 := by
  simp [Char.isLower, UInt32.le_iff_toNat_le, ← Char.toNat_val]

theorem isUpper_iff {c : Char} : c.isUpper = true ↔ 65 ≤ c.toNat ∧ c.toNat ≤ 90 := by
  simp [Char.isUpper, UInt32.le_iff_toNat_le, ← Char.toNat_val]

section
variable {letter : Char} (hletter : letter.isLower = true)
include hletter

theorem toLower_of_isLower : letter.toLower = letter :=
  Char.toLower_eq_of_not_isUpper (Char.not_isUpper_of_isLower hletter)

theorem toLower_toUpper : letter.toUpper.toLower = letter := by
  rw [Char.toLower_toUpper_eq_toLower, toLower_of_isLower hletter]

theorem isUpper_toUpper : letter.toUpper.isUpper = true := by
  rw [Char.isUpper_toUpper_eq_isAlpha, Char.isAlpha, hletter, Bool.or_true]

/-- Two characters have one small letter: the letter itself and its capital. -/
theorem toLower_eq_iff {c : Char} : c.toLower = letter ↔ c = letter ∨ c = letter.toUpper := by
  constructor
  · rintro rfl
    by_cases hc : c.isUpper = true
    · right
      rw [Char.toUpper_toLower_eq_toUpper,
        Char.toUpper_eq_of_not_isLower (Char.not_isLower_of_isUpper hc)]
    · exact .inl (Char.toLower_eq_of_not_isUpper hc).symm
  · rintro (rfl | rfl)
    · exact toLower_of_isLower hletter
    · exact toLower_toUpper hletter

theorem upperChar_of_isLower : upperChar letter = [letter.toUpper] := by
  have hrange := isLower_iff.1 hletter
  exact if_pos (by omega)

theorem lowerChar_toUpper : lowerChar letter.toUpper = [letter] := by
  have hrange := isUpper_iff.1 (isUpper_toUpper hletter)
  rw [lowerChar, if_pos (by omega), toLower_toUpper hletter]

end

/-! ## Texts -/

/-- After whatever, an ASCII text without capitals stays as it is. -/
theorem lowerAfter_eq_self {text : List Char}
    (h : ∀ c ∈ text, c.toNat < 0x80 ∧ ¬ c.isUpper = true) (before : List Char) :
    lowerAfter before text = text := by
  induction text generalizing before with
  | nil => rfl
  | cons c rest ih =>
    obtain ⟨⟨hascii, hsmall⟩, hrest⟩ := List.forall_mem_cons.1 h
    have hsigma : c ≠ 'Σ' := by
      rintro rfl
      exact absurd hascii (by decide)
    rw [lowerAfter, if_neg hsigma, lowerChar, if_pos hascii, Char.toLower_eq_of_not_isUpper hsmall,
      ih hrest, List.singleton_append]

theorem lowerChars_eq_self {text : List Char}
    (h : ∀ c ∈ text, c.toNat < 0x80 ∧ ¬ c.isUpper = true) : lowerChars text = text :=
  lowerAfter_eq_self h []

end SearchNotation.Text
