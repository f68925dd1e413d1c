import SearchNotation.Text.Hexadecimal

/-!
# Hexadecimal digits are read back

A digit of either case has the value that it was written for (`hexValue?_digitChar`,
`hexValue?_toUpper_digitChar`), so what has no value is no digit, and numbers with the same digits
are equal (`hexDigits_inj`).
-/

set_option autoImplicit false

namespace SearchNotation.Text

/-! ## One digit -/

theorem hexValue?_of_isDigit {c : Char} (h : c.isDigit = true) :
    hexValue? c = some (c.toNat - '0'.toNat) := by
  rw [hexValue?, if_pos h]

theorem hexValue?_digitChar : ∀ d < 16, hexValue? (Nat.digitChar d) = some d := by decide

theorem hexValue?_toUpper_digitChar :
    ∀ d < 16, hexValue? (Nat.digitChar d).toUpper = some d := by decide

theorem digitChar_ne {d : Nat} {c : Char} (hd : d < 16) (hc : hexValue? c = none) :
    Nat.digitChar d ≠ c := by
  rintro rfl
  rw [hexValue?_digitChar d hd] at hc
  cases hc

/-! ## Numbers -/

theorem exists_of_mem_hexDigits {n : Nat} {c : Char} (h : c ∈ hexDigits n) :
    ∃ d < 16, c = Nat.digitChar d := by
  induction n using Nat.strongRecOn with
  | ind n ih =>
    rw [hexDigits, Nat.toDigits_eq_if (by decide)] at h
    split at h
    · next hn => exact ⟨n, hn, List.mem_singleton.1 h⟩
    · rcases List.mem_append.1 h with h | h
      · exact ih (n / 16) (by omega) h
      · exact ⟨n % 16, by omega, List.mem_singleton.1 h⟩

theorem ne_of_mem_hexDigits {n : Nat} {c e : Char} (hc : hexValue? c = none)
    (he : e ∈ hexDigits n) : e ≠ c := by
  obtain ⟨d, hd, rfl⟩ := exists_of_mem_hexDigits he
  exact digitChar_ne hd hc

theorem hexDigits_inj {m n : Nat} (h : hexDigits m = hexDigits n) : m = n := by
  have hdigit : ∀ a < 16, ∀ b < 16, [Nat.digitChar a] = [Nat.digitChar b] → a = b := by
    intro a ha b hb heq
    have hvalue := congrArg hexValue? (List.singleton_inj.1 heq)
    rwa [hexValue?_digitChar a ha, hexValue?_digitChar b hb, Option.some_inj] at hvalue
  induction m using Nat.strongRecOn generalizing n with
  | ind m ih =>
    have hshort : ∀ k d : Nat,
        Nat.toDigits 16 (k / 16) ++ [Nat.digitChar (k % 16)] ≠ [d.digitChar] := by
      intro k d hk
      have hlength := congrArg List.length hk
      have hpos : 0 < (Nat.toDigits 16 (k / 16)).length := Nat.length_toDigits_pos
      simp only [List.length_append, List.length_singleton] at hlength
      omega
    simp only [hexDigits, @Nat.toDigits_eq_if 16 m (by decide),
      @Nat.toDigits_eq_if 16 n (by decide)] at h
    split at h <;> split at h
    · next hm hn => exact hdigit m hm n hn h
    · exact absurd h.symm (hshort n m)
    · exact absurd h (hshort m n)
    · obtain ⟨hfront, hlast⟩ := List.append_inj' h rfl
      have hdiv : m / 16 = n / 16 := ih (m / 16) (by omega) hfront
      have hmod : m % 16 = n % 16 := hdigit _ (by omega) _ (by omega) hlast
      omega

end SearchNotation.Text
