import Mathlib.Data.List.Basic

/-!
# Decimal digits of a number

What a reader of numbers needs to know of the digits that a number is written with: there are some,
a zero comes first only when it stands alone, and no other character than digits is among them.
-/

set_option autoImplicit false

namespace SearchNotation.Decimal

theorem toDigits_head_ne_zero {n : Nat} (h : 0 < n) :
    (Nat.toDigits 10 n).head? ≠ some '0' := by
  induction n using Nat.strongRecOn with
  | ind n ih =>
    by_cases hn : n < 10
    · rw [Nat.toDigits_of_lt_base hn, List.head?_singleton]
      intro hzero
      have hn0 : n = 0 := Nat.digitChar_eq_zero.1 (Option.some.inj hzero)
      omega
    · have hrest := ih (n / 10) (by omega) (by omega)
      have hne : Nat.toDigits 10 (n / 10) ≠ [] := Nat.toDigits_ne_nil
      rwa [Nat.toDigits_of_base_le (by decide) (by omega), List.head?_append_of_ne_nil _ hne]

/-- A number is written with at least one digit, and with a zero in front only if it is zero. -/
theorem toDigits_eq_cons (n : Nat) :
    ∃ c rest, Nat.toDigits 10 n = c :: rest ∧ c.isDigit = true ∧ (c = '0' → rest = []) := by
  cases hdigits : Nat.toDigits 10 n with
  | nil => exact absurd hdigits Nat.toDigits_ne_nil
  | cons c rest =>
    have hc : c ∈ Nat.toDigits 10 n := by
      rw [hdigits]
      exact .head _
    refine ⟨c, rest, rfl, Nat.isDigit_of_mem_toDigits (by decide) (by decide) hc, ?_⟩
    rintro rfl
    rcases Nat.eq_zero_or_pos n with rfl | hn
    · cases hdigits
      rfl
    · have hhead := toDigits_head_ne_zero hn
      rw [hdigits] at hhead
      exact absurd rfl hhead

theorem forall_isDigit_toDigits (n : Nat) : ∀ c ∈ Nat.toDigits 10 n, c.isDigit = true :=
  fun _ h => Nat.isDigit_of_mem_toDigits (by decide) (by decide) h

/-- The digits stand for the number. -/
theorem foldl_toDigits (n : Nat) :
    (Nat.toDigits 10 n).foldl (fun m c => m * 10 + (c.toNat - '0'.toNat)) 0 = n := by
  have hvalue : Nat.ofDigitChars 10 (Nat.toDigits 10 n) 0 = n := Nat.ofDigitChars_ten_toDigits
  rw [Nat.ofDigitChars_eq_foldl] at hvalue
  simpa only [Nat.mul_comm] using hvalue

end SearchNotation.Decimal
