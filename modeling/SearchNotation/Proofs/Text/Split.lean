import SearchNotation.Text.Split

/-!
# Splitting text at a character

The parts of a text are the pieces without the mark that give the text when they are joined by it
(`intercalate_splitAt`, `splitAt_intercalate`, `not_mem_of_mem_splitAt`). A text is parted at the
last mark if none is left after it (`splitAtLast?_eq_some_iff`).
-/

set_option autoImplicit false

namespace SearchNotation.Text

/-! ## Parts -/

theorem splitAt_ne_nil (mark : Char) (text : List Char) : splitAt mark text ≠ [] := by
  cases text with
  | nil => simp [splitAt]
  | cons c rest =>
    unfold splitAt
    split
    · simp
    · split <;> simp

variable {mark : Char}

theorem splitAt_mark (rest : List Char) :
    splitAt mark (mark :: rest) = [] :: splitAt mark rest := by
  rw [splitAt, if_pos rfl]

theorem splitAt_cons_of_ne {c : Char} (h : c ≠ mark) {rest part : List Char}
    {parts : List (List Char)} (hr : splitAt mark rest = part :: parts) :
    splitAt mark (c :: rest) = (c :: part) :: parts := by
  rw [splitAt, if_neg h, hr]

theorem splitAt_append_mark (before after : List Char) :
    splitAt mark (before ++ mark :: after) = splitAt mark before ++ splitAt mark after := by
  induction before with
  | nil => simp [splitAt]
  | cons c rest ih =>
    by_cases h : c = mark
    · subst h
      rw [List.cons_append, splitAt_mark, splitAt_mark, ih, List.cons_append]
    · obtain ⟨part, parts, hr⟩ := List.exists_cons_of_ne_nil (splitAt_ne_nil mark rest)
      rw [hr] at ih
      rw [List.cons_append, splitAt_cons_of_ne h ih, splitAt_cons_of_ne h hr]
      rfl

theorem splitAt_of_not_mem {text : List Char} (h : mark ∉ text) : splitAt mark text = [text] := by
  induction text with
  | nil => rfl
  | cons c rest ih =>
    rw [List.mem_cons, not_or] at h
    exact splitAt_cons_of_ne (Ne.symm h.1) (ih h.2)

theorem intercalate_splitAt (text : List Char) :
    [mark].intercalate (splitAt mark text) = text := by
  induction text with
  | nil => rfl
  | cons c rest ih =>
    obtain ⟨part, parts, hr⟩ := List.exists_cons_of_ne_nil (splitAt_ne_nil mark rest)
    rw [hr] at ih
    by_cases h : c = mark
    · subst h
      rw [splitAt_mark, hr, List.intercalate_cons_cons, ih]
      rfl
    · rw [splitAt_cons_of_ne h hr]
      cases parts with
      | nil => simpa using ih
      | cons next parts =>
        rw [List.intercalate_cons_cons] at ih ⊢
        simp [← ih]

theorem splitAt_intercalate {parts : List (List Char)} (hne : parts ≠ [])
    (h : ∀ part ∈ parts, mark ∉ part) : splitAt mark ([mark].intercalate parts) = parts := by
  induction parts with
  | nil => exact absurd rfl hne
  | cons part rest ih =>
    obtain ⟨hpart, hrest⟩ := List.forall_mem_cons.1 h
    cases rest with
    | nil => simpa using splitAt_of_not_mem hpart
    | cons next rest =>
      have htail := ih (List.cons_ne_nil _ _) hrest
      rw [List.intercalate_cons_cons, List.append_assoc, List.singleton_append,
        splitAt_append_mark, splitAt_of_not_mem hpart, htail]
      rfl

theorem not_mem_of_mem_splitAt {text part : List Char} (h : part ∈ splitAt mark text) :
    mark ∉ part := by
  induction text generalizing part with
  | nil =>
    obtain rfl : part = [] := by simpa [splitAt] using h
    exact List.not_mem_nil
  | cons c rest ih =>
    by_cases hc : c = mark
    · subst hc
      rw [splitAt_mark] at h
      rcases List.mem_cons.1 h with rfl | h
      · exact List.not_mem_nil
      · exact ih h
    · obtain ⟨first, others, hr⟩ := List.exists_cons_of_ne_nil (splitAt_ne_nil mark rest)
      rw [splitAt_cons_of_ne hc hr] at h
      rw [hr] at ih
      rcases List.mem_cons.1 h with rfl | h
      · have hfirst := ih (.head _)
        simp [Ne.symm hc, hfirst]
      · exact ih (.tail _ h)

/-! ## The last occurrence -/

theorem splitAtLast?_eq_none_iff {mark : Char} {text : List Char} :
    splitAtLast? mark text = none ↔ mark ∉ text := by
  induction text with
  | nil => simp [splitAtLast?]
  | cons c rest ih =>
    rw [splitAtLast?, List.mem_cons, not_or, ← ih]
    cases splitAtLast? mark rest <;> simp [eq_comm (a := mark)]

theorem splitAtLast?_append {mark : Char} {after : List Char} (h : mark ∉ after)
    (before : List Char) : splitAtLast? mark (before ++ mark :: after) = some (before, after) := by
  induction before with
  | nil => simp [splitAtLast?, splitAtLast?_eq_none_iff.2 h]
  | cons c before ih => simp [splitAtLast?, ih]

/-- **A text is parted at the last mark**: none is left after it. -/
theorem splitAtLast?_eq_some_iff {mark : Char} {text before after : List Char} :
    splitAtLast? mark text = some (before, after) ↔
      text = before ++ mark :: after ∧ mark ∉ after := by
  constructor
  · intro h
    induction text generalizing before with
    | nil => cases h
    | cons c rest ih =>
      rw [splitAtLast?] at h
      split at h
      · next before' after' hrest =>
        cases h
        obtain ⟨rfl, hafter⟩ := ih hrest
        exact ⟨rfl, hafter⟩
      · next hrest =>
        split at h
        · next hc =>
          cases h
          exact ⟨by rw [hc, List.nil_append], splitAtLast?_eq_none_iff.1 hrest⟩
        · cases h
  · rintro ⟨rfl, hafter⟩
    exact splitAtLast?_append hafter before

end SearchNotation.Text
