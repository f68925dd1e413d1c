import Mathlib.Data.List.Basic
import SearchNotation.Json.Writer
import SearchNotation.Proofs.Text.Hexadecimal

/-!
# Compact text is one line

The compact text of a value has no line break (`newline_not_mem_compactChars`): what stands in
strings and in the keys of members is escaped, and numbers are written with a few characters only
(`Number.isNumeral_text`). Nor does it begin like a word that could stand in its place
(`head?_compactChars`).
-/

set_option autoImplicit false

namespace SearchNotation.Json

/-! ## Numbers -/

namespace Number

/-- The characters that numbers are written with. -/
def isSign (c : Char) : Bool := c.isDigit || ['-', '+', '.', 'e'].contains c

/-- A text of such characters only. -/
def IsNumeral (text : String) : Prop := ∀ c ∈ text.toList, isSign c = true

instance (text : String) : Decidable (IsNumeral text) :=
  decidable_of_iff (text.toList.all isSign = true) List.all_eq_true

theorem IsNumeral.append {s t : String} (hs : IsNumeral s) (ht : IsNumeral t) :
    IsNumeral (s ++ t) := by
  intro c hc
  rw [String.toList_append, List.mem_append] at hc
  exact hc.elim (hs c) (ht c)

theorem IsNumeral.take {s : String} (hs : IsNumeral s) (n : Nat) :
    IsNumeral (s.take n).toString := by
  intro c hc
  rw [String.Slice.toString_eq, String.toList_copy_take] at hc
  exact hs c (List.mem_of_mem_take hc)

theorem IsNumeral.drop {s : String} (hs : IsNumeral s) (n : Nat) :
    IsNumeral (s.drop n).toString := by
  intro c hc
  rw [String.Slice.toString_eq, String.toList_copy_drop] at hc
  exact hs c (List.mem_of_mem_drop hc)

theorem isNumeral_toString (n : Nat) : IsNumeral (toString n) := by
  intro c hc
  rw [Nat.toString_eq_ofList_toDigits, String.toList_ofList] at hc
  simp [isSign, Nat.isDigit_of_mem_toDigits (by decide) (by decide) hc]

theorem isNumeral_zeros (n : Nat) : IsNumeral (String.ofList (List.replicate n '0')) := by
  intro c hc
  rw [String.toList_ofList] at hc
  rw [List.eq_of_mem_replicate hc]
  decide

theorem IsNumeral.ite {s t : String} {c : Prop} [Decidable c] (hs : IsNumeral s)
    (ht : IsNumeral t) : IsNumeral (if c then s else t) := by
  split_ifs
  · exact hs
  · exact ht

theorem isNumeral_withPoint {digits : String} (h : IsNumeral digits) (whole : Int) :
    IsNumeral (withPoint digits whole) := by
  have hzero : IsNumeral "0." := by decide
  have hpoint : IsNumeral "." := by decide
  have hend : IsNumeral ".0" := by decide
  exact .ite ((hzero.append (isNumeral_zeros _)).append h)
    (.ite ((h.append (isNumeral_zeros _)).append hend)
      (((h.take _).append hpoint).append (h.drop _)))

theorem isNumeral_withExponent {digits : String} (h : IsNumeral digits) (leading : Int) :
    IsNumeral (withExponent digits leading) := by
  have hpoint : IsNumeral "." := by decide
  have he : IsNumeral "e" := by decide
  have hmantissa : IsNumeral (if (digits.drop 1).toString.isEmpty then digits
      else (digits.take 1).toString ++ "." ++ (digits.drop 1).toString) :=
    .ite h (((h.take 1).append hpoint).append (h.drop 1))
  have hsign : IsNumeral (if leading < 0 then "-" else "+") := .ite (by decide) (by decide)
  exact ((hmantissa.append he).append hsign).append (isNumeral_toString _)

theorem isNumeral_realText (x : Binary64) : IsNumeral (realText x) := by
  have hsign : IsNumeral (if x.negative then "-" else "") := .ite (by decide) (by decide)
  have hdigits := isNumeral_toString x.shortest.digits
  exact .ite (hsign.append (isNumeral_withPoint hdigits _))
    (hsign.append (isNumeral_withExponent hdigits _))

theorem isNumeral_text (n : Number) : IsNumeral n.text := by
  cases n with
  | real x => exact isNumeral_realText x
  | int value =>
    cases value with
    | ofNat n => exact isNumeral_toString n
    | negSucc n => exact (by decide : IsNumeral "-").append (isNumeral_toString (n + 1))

end Number

/-! ## Strings -/

theorem newline_not_mem_escapeChar (c : Char) : '\n' ∉ escapeChar c := by
  have hdigit : ∀ d < 16, hexDigit d ≠ '\n' := fun d hd => Text.digitChar_ne hd (by decide)
  unfold escapeChar
  split_ifs with _ _ hplain _ _ hnewline
  any_goals decide
  · intro hmem
    rw [← List.mem_singleton.1 hmem] at hplain
    exact absurd hplain (by decide)
  · have hhigh := hdigit (c.toNat / 16) (by omega)
    have hlow := hdigit (c.toNat % 16) (by omega)
    simp [hhigh.symm, hlow.symm]

theorem newline_not_mem_quotedChars (text : String) : '\n' ∉ quotedChars text := by
  simp only [quotedChars, List.mem_append, List.mem_cons, List.mem_flatMap, not_or, not_exists,
    not_and]
  exact ⟨⟨by decide, fun c _ => newline_not_mem_escapeChar c⟩, by decide⟩

/-! ## Values -/

theorem newline_not_mem_scalarChars (json : Json) : '\n' ∉ scalarChars json := by
  cases json with
  | bool b => cases b <;> decide
  | number n => exact fun h => absurd (n.isNumeral_text _ h) (by decide)
  | string s => exact newline_not_mem_quotedChars s
  | null => decide
  | array _ => exact List.not_mem_nil
  | object _ => exact List.not_mem_nil

mutual

/-- **Compact text has no line break.** -/
theorem newline_not_mem_compactChars : ∀ json : Json, '\n' ∉ compactChars json
  | .array [] => by decide
  | .array (item :: rest) => by
    simp [compactChars, newline_not_mem_compactChars item, newline_not_mem_compactItems rest]
  | .object [] => by decide
  | .object ((key, value) :: rest) => by
    simp [compactChars, newline_not_mem_quotedChars key, newline_not_mem_compactChars value,
      newline_not_mem_compactMembers rest]
  | .null => newline_not_mem_scalarChars .null
  | .bool b => newline_not_mem_scalarChars (.bool b)
  | .number n => newline_not_mem_scalarChars (.number n)
  | .string s => newline_not_mem_scalarChars (.string s)

theorem newline_not_mem_compactItems : ∀ items : List Json, '\n' ∉ compactItems items
  | [] => by decide
  | item :: rest => by
    simp [compactItems, newline_not_mem_compactChars item, newline_not_mem_compactItems rest]

theorem newline_not_mem_compactMembers : ∀ members : List (String × Json),
    '\n' ∉ compactMembers members
  | [] => by decide
  | (key, value) :: rest => by
    simp [compactMembers, newline_not_mem_quotedChars key, newline_not_mem_compactChars value,
      newline_not_mem_compactMembers rest]

end

theorem head?_scalarChars (json : Json) : (scalarChars json).head? ≠ some 'a' := by
  cases json with
  | bool b => cases b <;> decide
  | number n => exact fun h => absurd (n.isNumeral_text _ (List.mem_of_mem_head? h)) (by decide)
  | string s => simp [scalarChars, quotedChars]
  | null => decide
  | array _ => exact nofun
  | object _ => exact nofun

/-- No value is written like a word with an `a` in front. -/
theorem head?_compactChars (json : Json) : json.compactChars.head? ≠ some 'a' := by
  cases json with
  | array items => cases items <;> simp [compactChars]
  | object members => cases members <;> simp [compactChars]
  | null => exact head?_scalarChars .null
  | bool b => exact head?_scalarChars (.bool b)
  | number n => exact head?_scalarChars (.number n)
  | string s => exact head?_scalarChars (.string s)

end SearchNotation.Json
