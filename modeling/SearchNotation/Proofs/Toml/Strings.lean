import SearchNotation.Proofs.Text.Hexadecimal
import SearchNotation.Toml.Text
import SearchNotation.Toml.Writer

/-!
# What is written as a string of TOML is read again

Whatever marks a text is written between, reading gives the text back (`readString?_stringChars`).
Between quotes every character is read from its escape (`ReadsEscapes.escapeChar`); between
apostrophes no character needs one. A string between triple marks ends where the text does, since
in the text and right before the closing three there are at most two marks in a row
(`closing?_append`).
-/

set_option autoImplicit false

namespace SearchNotation.Toml

/-- No mark stands at the front of the text. -/
def NoMark (rest : List Char) : Prop := ∀ c, rest.head? = some c → c ≠ '"' ∧ c ≠ '\''

theorem noMark_cons {c : Char} {rest : List Char} (h : c ≠ '"' ∧ c ≠ '\'') :
    NoMark (c :: rest) := by
  intro d hd
  cases hd
  exact h

/-! ## Characters -/

theorem isPlain_of_not_needsEscape {c : Char} (h : needsEscape c = false) :
    isPlain c = true ∨ c = '\n' := by
  by_cases hbreak : c = '\n'
  · exact .inr hbreak
  · left
    by_cases htab : c = '\t'
    · rw [htab]
      rfl
    · simp only [needsEscape, isPlain, Bool.or_eq_false_iff, Bool.and_eq_false_iff,
        decide_eq_false_iff_not, bne_eq_false_iff_eq, beq_eq_false_iff_ne, Bool.or_eq_true,
        Bool.and_eq_true, decide_eq_true_eq, bne_iff_ne] at h ⊢
      refine .inr ⟨?_, h.2⟩
      rcases h.1 with (hlow | hother) | hother
      · omega
      · exact absurd hother htab
      · exact absurd hother hbreak

/-! ## Escapes -/

/-- A reader that takes escapes for the characters they stand for. -/
structure ReadsEscapes (read : Escape → List Char → Reading (List Char)) : Prop where
  backslash : ∀ rest, read .outside ('\\' :: rest) = read .backslash rest
  short : ∀ {c e : Char} rest, shortEscape? c = some e →
    read .backslash (c :: rest) = prepend e (read .outside rest)
  start : ∀ rest, read .backslash ('u' :: rest) = read (.code 4 0) rest
  digit : ∀ {c : Char} {digit : Nat} left value rest, Text.hexValue? c = some digit →
    read (.code (left + 2) value) (c :: rest) = read (.code (left + 1) (value * 16 + digit)) rest
  last : ∀ {c e : Char} {digit : Nat} value rest, Text.hexValue? c = some digit →
    charOfCode? (value * 16 + digit) = some e →
      read (.code 1 value) (c :: rest) = prepend e (read .outside rest)

theorem charOfCode?_toNat (c : Char) : charOfCode? c.toNat = some c := by
  have hvalid : c.toNat.isValidChar := c.valid
  rw [charOfCode?, if_pos hvalid, Char.ofNat_toNat]

namespace ReadsEscapes

variable {read : Escape → List Char → Reading (List Char)}

theorem code (h : ReadsEscapes read) {c : Char} (hc : c.toNat < 0x100) (rest : List Char) :
    read .outside (['\\', 'u', '0', '0', upperHexDigit (c.toNat / 16),
      upperHexDigit (c.toNat % 16)] ++ rest) = prepend c (read .outside rest) := by
  have hzero : Text.hexValue? '0' = some 0 := by decide
  have hhigh : Text.hexValue? (upperHexDigit (c.toNat / 16)) = some (c.toNat / 16) :=
    Text.hexValue?_toUpper_digitChar _ (by omega)
  have hlow : Text.hexValue? (upperHexDigit (c.toNat % 16)) = some (c.toNat % 16) :=
    Text.hexValue?_toUpper_digitChar _ (by omega)
  have hchar : charOfCode? ((((0 * 16 + 0) * 16 + 0) * 16 + c.toNat / 16) * 16 + c.toNat % 16) =
      some c := by
    have hsum : (((0 * 16 + 0) * 16 + 0) * 16 + c.toNat / 16) * 16 + c.toNat % 16 = c.toNat := by
      omega
    rw [hsum, charOfCode?_toNat]
  simp only [List.cons_append, List.nil_append]
  rw [h.backslash, h.start, h.digit 2 0 _ hzero, h.digit 1 _ _ hzero, h.digit 0 _ _ hhigh,
    h.last _ _ hlow hchar]

/-- **A character is read back from the way it is written**, unless it is a line break that is
written as it is. -/
theorem escapeChar (h : ReadsEscapes read) {long : Bool} {c : Char} (rest : List Char)
    (hplain : needsEscape c = false → c ≠ '\\' → c ≠ '\t' → (c = '\n' → long = true) →
      read .outside (c :: rest) = prepend c (read .outside rest)) :
    read .outside (escapeChar long c ++ rest) = prepend c (read .outside rest) := by
  have hshort : ∀ letter, shortEscape? letter = some c →
      read .outside ('\\' :: letter :: rest) = prepend c (read .outside rest) := by
    intro letter hletter
    rw [h.backslash, h.short rest hletter]
  unfold Toml.escapeChar
  split
  · next heq =>
    subst heq
    exact hshort 'b' rfl
  split
  · next heq =>
    subst heq
    exact hshort 't' rfl
  split
  · next heq =>
    subst heq
    split
    · next hlong => exact hplain (by decide) (by decide) (by decide) fun _ => hlong
    · exact hshort 'n' rfl
  split
  · next heq =>
    subst heq
    exact hshort 'f' rfl
  split
  · next heq =>
    subst heq
    exact hshort 'r' rfl
  split
  · next heq =>
    subst heq
    exact hshort '\\' rfl
  split
  · next hescape =>
    refine h.code ?_ rest
    simp only [needsEscape, Bool.or_eq_true, Bool.and_eq_true, decide_eq_true_eq,
      beq_iff_eq] at hescape
    omega
  · next htab hbreak _ _ hslash hescape =>
    exact hplain (by simpa using hescape) hslash htab fun heq => absurd heq hbreak

end ReadsEscapes

/-! ## Strings on one line -/

theorem readBasic_outside (c : Char) (rest : List Char) : readBasic .outside (c :: rest) =
    if c = '"' then some ([], rest)
    else if c = '\\' then readBasic .backslash rest
    else if isPlain c then prepend c (readBasic .outside rest)
    else none := rfl

theorem readsEscapes_readBasic : ReadsEscapes readBasic where
  backslash rest := by rw [readBasic_outside, if_neg (by decide), if_pos rfl]
  short rest h := by rw [readBasic, h]
  start rest := rfl
  digit left value rest h := by
    simp only [readBasic, h]
    rw [if_pos (by omega)]
    rfl
  last value rest hdigit hchar := by
    simp only [readBasic, hdigit, hchar]
    rfl

theorem readBasic_plain {c : Char} (hquote : c ≠ '"') (hslash : c ≠ '\\')
    (hplain : isPlain c = true) (rest : List Char) :
    readBasic .outside (c :: rest) = prepend c (readBasic .outside rest) := by
  rw [readBasic_outside, if_neg hquote, if_neg hslash, if_pos hplain]

theorem escapeText_of_ne {c : Char} (h : c ≠ '"') (long : Bool) (run : Nat) (text : List Char) :
    escapeText long run (c :: text) = escapeChar long c ++ escapeText long 0 text := by
  rw [escapeText, if_neg h]

theorem readBasic_escapeText (text rest : List Char) :
    readBasic .outside (escapeText false 0 text ++ '"' :: rest) = some (text, rest) := by
  induction text with
  | nil => rfl
  | cons c text ih =>
    by_cases hquote : c = '"'
    · subst hquote
      have htext : escapeText false 0 ('"' :: text) = '\\' :: '"' :: escapeText false 0 text := rfl
      rw [htext, List.cons_append, List.cons_append, readsEscapes_readBasic.backslash,
        readsEscapes_readBasic.short _ rfl, ih]
      rfl
    · rw [escapeText_of_ne hquote, List.append_assoc, readsEscapes_readBasic.escapeChar, ih]
      · rfl
      · intro hescape hslash _ hbreak
        rcases isPlain_of_not_needsEscape hescape with hplain | heq
        · exact readBasic_plain hquote hslash hplain _
        · cases hbreak heq

theorem readLiteral_append {text : List Char} (hplain : ∀ c ∈ text, isPlain c = true)
    (hmark : '\'' ∉ text) (rest : List Char) :
    readLiteral (text ++ '\'' :: rest) = some (text, rest) := by
  induction text with
  | nil => rfl
  | cons c text ih =>
    obtain ⟨hc, htext⟩ := List.forall_mem_cons.1 hplain
    rw [List.mem_cons, not_or] at hmark
    rw [List.cons_append, readLiteral, if_neg (Ne.symm hmark.1), if_pos hc, ih htext hmark.2]
    rfl

/-! ## Closing marks -/

theorem closing?_of_ne {mark c : Char} (h : c ≠ mark) (rest : List Char) :
    closing? mark (c :: rest) = none := by
  unfold closing?
  split
  · next heq =>
    cases heq
    rw [if_neg (fun hmarks => h hmarks.1)]
  · rfl

/-- The closing marks come after a text with at most two marks in front if it has nothing else. -/
theorem closing?_append {mark : Char} (text : List Char) {rest : List Char}
    (hrest : rest.head? ≠ some mark) (hrun : (text.takeWhile (· = mark)).length ≤ 2) :
    closing? mark (text ++ mark :: mark :: mark :: rest) =
      if text.all (· == mark) then some (text, rest) else none := by
  have hnone : rest.takeWhile (· = mark) = [] := by
    cases rest with
    | nil => rfl
    | cons c rest =>
      have hc : c ≠ mark := fun heq => hrest (congrArg some heq)
      rw [List.takeWhile_cons_of_neg (by simpa using hc)]
  match text with
  | [] => simp [closing?, hnone]
  | [a] =>
    by_cases ha : a = mark
    · simp [closing?, hnone, ha]
    · simp [closing?, ha]
  | [a, b] =>
    by_cases hab : a = mark ∧ b = mark
    · simp [closing?, hnone, hab]
    · simp [closing?, hab]
  | a :: b :: c :: text =>
    have hmarks : ¬ (a = mark ∧ b = mark ∧ c = mark) := by
      rintro ⟨rfl, rfl, rfl⟩
      simp at hrun
    have hall : ¬ (a :: b :: c :: text).all (· == mark) = true := by
      simp only [List.all_cons, Bool.and_eq_true, beq_iff_eq]
      exact fun hall => hmarks ⟨hall.1, hall.2.1, hall.2.2.1⟩
    simp only [List.cons_append, closing?, if_neg hmarks, if_neg hall]

/-! ## Strings between triple quotes -/

theorem readLongBasic_of_closing? {text : List Char} {closed : List Char × List Char}
    (h : closing? '"' text = some closed) : readLongBasic .outside text = some closed := by
  cases text with
  | nil => cases h
  | cons c rest =>
    rw [readLongBasic]
    · simp [h]
    · exact nofun
    · exact nofun
    · exact nofun

theorem readLongBasic_outside {c : Char} {rest : List Char} (h : closing? '"' (c :: rest) = none) :
    readLongBasic .outside (c :: rest) =
      if c = '\\' then readLongBasic .backslash rest
      else if isPlain c || c = '\n' || (c = '\r' && rest.head? = some '\n') then
        prepend c (readLongBasic .outside rest)
      else none := by
  rw [readLongBasic]
  · simp [h]
  · exact nofun
  · exact nofun
  · exact nofun

theorem readsEscapes_readLongBasic : ReadsEscapes readLongBasic where
  backslash rest := by rw [readLongBasic_outside (closing?_of_ne (by decide) rest), if_pos rfl]
  short rest h := by rw [readLongBasic, h]
  start rest := rfl
  digit left value rest h := by
    simp only [readLongBasic, h]
    rw [if_pos (by omega)]
    rfl
  last value rest hdigit hchar := by
    simp only [readLongBasic, hdigit, hchar]
    rfl

theorem readLongBasic_plain {c : Char} {rest : List Char}
    (hclosing : closing? '"' (c :: rest) = none) (hslash : c ≠ '\\')
    (hplain : isPlain c = true ∨ c = '\n') :
    readLongBasic .outside (c :: rest) = prepend c (readLongBasic .outside rest) := by
  rw [readLongBasic_outside hclosing, if_neg hslash, if_pos]
  rcases hplain with h | h
  · simp [h]
  · simp [h]

theorem escapeText_quote {run : Nat} (h : run < 2) (text : List Char) :
    escapeText true run ('"' :: text) = '"' :: escapeText true (run + 1) text := by
  simp [escapeText, h]

theorem escapeText_escaped_quote {run : Nat} (h : ¬ run < 2) (text : List Char) :
    escapeText true run ('"' :: text) = '\\' :: '"' :: escapeText true 0 text := by
  simp [escapeText, h]

/-- What a character is written as starts with a quote or a line break only if it is one. -/
theorem escapeChar_eq_cons (long : Bool) (c : Char) :
    ∃ first more, escapeChar long c = first :: more ∧ (first = '"' → c = '"') ∧
      (first = '\n' → c = '\n') ∧ first ≠ '\r' := by
  unfold escapeChar
  repeat' split
  all_goals refine ⟨_, _, rfl, ?_, ?_, ?_⟩
  all_goals simp_all

/-- After some quotes in a row, no more than two are written in all. -/
theorem length_takeWhile_escapeText (text : List Char) (run : Nat) (h : run ≤ 2) :
    run + ((escapeText true run text).takeWhile (· = '"')).length ≤ 2 := by
  induction text generalizing run with
  | nil => exact h
  | cons c text ih =>
    by_cases hquote : c = '"'
    · subst hquote
      by_cases hrun : run < 2
      · have hrest := ih (run + 1) hrun
        rw [escapeText_quote hrun, List.takeWhile_cons_of_pos (by decide), List.length_cons]
        omega
      · rw [escapeText_escaped_quote hrun, List.takeWhile_cons_of_neg (by decide)]
        exact h
    · obtain ⟨first, more, hfirst, hne, -⟩ := escapeChar_eq_cons true c
      have hnone : ¬ first = '"' := fun heq => hquote (hne heq)
      rw [escapeText_of_ne hquote, hfirst, List.cons_append,
        List.takeWhile_cons_of_neg (by simpa using hnone)]
      exact h

/-- What is written with nothing but quotes is the text itself. -/
theorem escapeText_eq_self (text : List Char) {run : Nat}
    (h : ∀ c ∈ escapeText true run text, c = '"') : escapeText true run text = text := by
  induction text generalizing run with
  | nil => rfl
  | cons c text ih =>
    by_cases hquote : c = '"'
    · subst hquote
      by_cases hrun : run < 2
      · rw [escapeText_quote hrun] at h ⊢
        rw [ih (List.forall_mem_cons.1 h).2]
      · rw [escapeText_escaped_quote hrun] at h
        exact absurd (List.forall_mem_cons.1 h).1 (by decide)
    · obtain ⟨first, more, hfirst, hne, -⟩ := escapeChar_eq_cons true c
      rw [escapeText_of_ne hquote, hfirst, List.cons_append] at h
      exact absurd (hne (List.forall_mem_cons.1 h).1) hquote

theorem readLongBasic_escapeText (text : List Char) (run : Nat) (hrun : run ≤ 2)
    {rest : List Char} (hrest : rest.head? ≠ some '"') :
    readLongBasic .outside (escapeText true run text ++ '"' :: '"' :: '"' :: rest) =
      some (text, rest) := by
  induction text generalizing run with
  | nil =>
    have hclosing := closing?_append [] hrest (Nat.zero_le 2)
    exact readLongBasic_of_closing? (hclosing.trans (if_pos rfl))
  | cons c text ih =>
    by_cases hquote : c = '"'
    · subst hquote
      by_cases hshort : run < 2
      · have hlength := length_takeWhile_escapeText ('"' :: text) run hrun
        have hclosing := closing?_append (escapeText true run ('"' :: text)) hrest
          (by omega)
        -- either only quotes are left, and the string ends here, or these are not the closing ones
        by_cases hall : (escapeText true run ('"' :: text)).all (· == '"') = true
        · have hself := escapeText_eq_self ('"' :: text) (by simpa using hall)
          rw [if_pos hall, hself] at hclosing
          rw [hself]
          exact readLongBasic_of_closing? hclosing
        · rw [if_neg hall] at hclosing
          rw [escapeText_quote hshort, List.cons_append] at hclosing ⊢
          rw [readLongBasic_plain hclosing (by decide) (.inl rfl), ih (run + 1) hshort]
          rfl
      · rw [escapeText_escaped_quote hshort, List.cons_append, List.cons_append,
          readsEscapes_readLongBasic.backslash, readsEscapes_readLongBasic.short _ rfl,
          ih 0 (Nat.zero_le 2)]
        rfl
    · rw [escapeText_of_ne hquote, List.append_assoc, readsEscapes_readLongBasic.escapeChar,
        ih 0 (Nat.zero_le 2)]
      · rfl
      · intro hescape hslash _ _
        exact readLongBasic_plain (closing?_of_ne hquote _) hslash
          (isPlain_of_not_needsEscape hescape)

/-! ## Strings between triple apostrophes -/

theorem longestRun_mono {mark : Char} {run run' : Nat} (h : run ≤ run') (text : List Char) :
    longestRun mark run text ≤ longestRun mark run' text := by
  induction text generalizing run run' with
  | nil => exact h
  | cons c text ih =>
    unfold longestRun
    split
    · exact ih (Nat.succ_le_succ h)
    · omega

theorem longestRun_tail_le (mark : Char) (run : Nat) (c : Char) (text : List Char) :
    longestRun mark 0 text ≤ longestRun mark run (c :: text) := by
  rw [longestRun]
  split
  · exact longestRun_mono (Nat.zero_le _) text
  · exact Nat.le_max_right _ _

theorem length_takeWhile_le_longestRun (mark : Char) (run : Nat) (text : List Char) :
    run + (text.takeWhile (· = mark)).length ≤ longestRun mark run text := by
  induction text generalizing run with
  | nil => exact Nat.le_refl run
  | cons c text ih =>
    by_cases hc : c = mark
    · have hrest := ih (run + 1)
      rw [longestRun, if_pos hc, List.takeWhile_cons_of_pos (by simpa using hc), List.length_cons]
      omega
    · rw [longestRun, if_neg hc, List.takeWhile_cons_of_neg (by simpa using hc)]
      exact Nat.le_max_left _ _

theorem not_mem_of_longestRun {mark : Char} {text : List Char} (h : longestRun mark 0 text = 0) :
    mark ∉ text := by
  induction text with
  | nil => exact nofun
  | cons c text ih =>
    have htail := longestRun_tail_le mark 0 c text
    have hhead := length_takeWhile_le_longestRun mark 0 (c :: text)
    rw [List.mem_cons, not_or]
    refine ⟨?_, ih (by omega)⟩
    rintro rfl
    rw [List.takeWhile_cons_of_pos (by simp), List.length_cons] at hhead
    omega

theorem readLongLiteral_append {text rest : List Char}
    (hplain : ∀ c ∈ text, isPlain c = true ∨ c = '\n') (hrun : longestRun '\'' 0 text ≤ 2)
    (hrest : rest.head? ≠ some '\'') :
    readLongLiteral (text ++ '\'' :: '\'' :: '\'' :: rest) = some (text, rest) := by
  have hlength := length_takeWhile_le_longestRun '\'' 0 text
  have hclosing := closing?_append text hrest (by omega)
  induction text with
  | nil =>
    rw [if_pos (by rfl)] at hclosing
    rw [List.nil_append] at hclosing ⊢
    rw [readLongLiteral, hclosing]
  | cons c text ih =>
    obtain ⟨hc, htext⟩ := List.forall_mem_cons.1 hplain
    have htail := longestRun_tail_le '\'' 0 c text
    have hlength' := length_takeWhile_le_longestRun '\'' 0 text
    have hread := ih htext (by omega) hlength' (closing?_append text hrest (by omega))
    rw [List.cons_append] at hclosing ⊢
    rw [readLongLiteral, hclosing]
    by_cases hall : (c :: text).all (· == '\'') = true
    · rw [if_pos hall]
    · rw [if_neg hall, hread]
      rcases hc with h | h
      · simp [h]
      · simp [h]

/-! ## All forms -/

theorem forText_apostrophes {text : List Char} (h : Marks.forText text = .apostrophes) :
    text ≠ [] ∧ (∀ c ∈ text, isPlain c = true) ∧ '\'' ∉ text := by
  simp only [Marks.forText] at h
  split at h
  · cases h
  · next hquotes =>
    split at h
    · next hmarks =>
      simp only [Bool.and_eq_true, Bool.not_eq_true', beq_iff_eq, List.any_eq_false,
        Bool.not_eq_true] at hmarks
      obtain ⟨⟨hescapes, hbreak⟩, hrun⟩ := hmarks
      refine ⟨?_, fun c hc => ?_, not_mem_of_longestRun hrun⟩
      · rintro rfl
        exact hquotes rfl
      · rcases isPlain_of_not_needsEscape (hescapes c hc) with hplain | rfl
        · exact hplain
        · rw [← Bool.not_eq_true, List.contains_iff_mem] at hbreak
          exact absurd hc hbreak
    · split at h
      · cases h
      · split at h
        · cases h
        · split at h <;> cases h

theorem forText_tripleApostrophes {text : List Char}
    (h : Marks.forText text = .tripleApostrophes) :
    (∀ c ∈ text, needsEscape c = false) ∧ longestRun '\'' 0 text ≤ 2 := by
  simp only [Marks.forText] at h
  split at h
  · cases h
  · split at h
    · cases h
    · split at h
      · cases h
      · split at h
        · next hmarks =>
          simp only [Bool.and_eq_true, Bool.not_eq_true', decide_eq_true_eq,
            List.any_eq_false, Bool.not_eq_true] at hmarks
          exact hmarks
        · split at h <;> cases h

theorem readString?_short {text : List Char} (hquotes : ∀ rest, text ≠ '"' :: '"' :: '"' :: rest)
    (happos : ∀ rest, text ≠ '\'' :: '\'' :: '\'' :: rest) :
    readString? text = readShortString? text := by
  unfold readString?
  split
  · exact absurd rfl (hquotes _)
  · exact absurd rfl (happos _)
  · rfl

/-- A line break is put in front of a text that may start with one, so that dropping one leaves the
text. -/
theorem dropLineBreak_start {text inner rest : List Char}
    (h : text.contains '\n' = false → ∀ c, (inner ++ rest).head? = some c → c ≠ '\n' ∧ c ≠ '\r') :
    dropLineBreak ((if text.contains '\n' then ['\n'] else []) ++ inner ++ rest) =
      inner ++ rest := by
  cases hbreak : text.contains '\n' with
  | true => rfl
  | false =>
    have hfirst := h hbreak
    simp only [Bool.false_eq_true, if_false, List.nil_append]
    unfold dropLineBreak
    split
    · next heq => exact absurd rfl (hfirst _ (by rw [heq]; rfl)).1
    · next heq => exact absurd rfl (hfirst _ (by rw [heq]; rfl)).2
    · rfl

theorem escapeText_eq_cons (c : Char) (text : List Char) :
    ∃ first more, escapeText false 0 (c :: text) = first :: more ∧ first ≠ '"' := by
  by_cases hquote : c = '"'
  · subst hquote
    exact ⟨'\\', _, rfl, by decide⟩
  · obtain ⟨first, more, hfirst, hne, -⟩ := escapeChar_eq_cons false c
    refine ⟨first, more ++ escapeText false 0 text, ?_, fun heq => hquote (hne heq)⟩
    rw [escapeText_of_ne hquote, hfirst, List.cons_append]

theorem head?_escapeText {text : List Char} (h : text.contains '\n' = false) (rest : List Char) :
    ∀ c, (escapeText true 0 text ++ '"' :: rest).head? = some c → c ≠ '\n' ∧ c ≠ '\r' := by
  intro c hc
  cases text with
  | nil =>
    cases hc
    decide
  | cons d text =>
    by_cases hquote : d = '"'
    · subst hquote
      cases hc
      decide
    · obtain ⟨first, more, hfirst, -, hbreak, hreturn⟩ := escapeChar_eq_cons true d
      rw [escapeText_of_ne hquote, hfirst, List.cons_append, List.cons_append] at hc
      cases hc
      refine ⟨fun heq => ?_, hreturn⟩
      rw [hbreak heq] at h
      simp at h

theorem head?_unescaped {text : List Char} (h : text.contains '\n' = false)
    (hescapes : ∀ c ∈ text, needsEscape c = false) (rest : List Char) :
    ∀ c, (text ++ '\'' :: rest).head? = some c → c ≠ '\n' ∧ c ≠ '\r' := by
  intro c hc
  cases text with
  | nil =>
    cases hc
    decide
  | cons d text =>
    cases hc
    constructor
    · rintro rfl
      simp at h
    · rintro rfl
      exact absurd (hescapes _ (.head _)) (by decide)

section
variable {text rest : List Char}

theorem readString?_quotes (hmarks : Marks.forText text = .quotes)
    (hquote : rest.head? ≠ some '"') :
    readString? (stringChars text ++ rest) = some (String.ofList text, rest) := by
  have htext : stringChars text ++ rest = '"' :: (escapeText false 0 text ++ '"' :: rest) := by
    simp [stringChars, hmarks, Marks.text, Marks.long]
  have hshort : ∀ more, '"' :: (escapeText false 0 text ++ '"' :: rest) ≠
      '"' :: '"' :: '"' :: more := by
    intro more heq
    obtain ⟨-, heq⟩ := List.cons.inj heq
    cases text with
    | nil => exact hquote (congrArg List.head? (List.cons.inj heq).2)
    | cons c text =>
      obtain ⟨first, tail, hfirst, hne⟩ := escapeText_eq_cons c text
      rw [hfirst, List.cons_append] at heq
      exact hne (List.cons.inj heq).1
  rw [htext, readString?_short hshort nofun]
  show (readBasic .outside _).map _ = _
  rw [readBasic_escapeText]
  rfl

theorem readString?_apostrophes (hmarks : Marks.forText text = .apostrophes) :
    readString? (stringChars text ++ rest) = some (String.ofList text, rest) := by
  obtain ⟨hne, hplain, hmark⟩ := forText_apostrophes hmarks
  have htext : stringChars text ++ rest = '\'' :: (text ++ '\'' :: rest) := by
    simp [stringChars, hmarks, Marks.text, Marks.long]
  have hshort : ∀ more, '\'' :: (text ++ '\'' :: rest) ≠ '\'' :: '\'' :: '\'' :: more := by
    intro more heq
    obtain ⟨-, heq⟩ := List.cons.inj heq
    cases text with
    | nil => exact hne rfl
    | cons c text =>
      obtain ⟨rfl, -⟩ := List.cons.inj heq
      exact hmark (.head _)
  have hother : ∀ more, '\'' :: (text ++ '\'' :: rest) ≠ '"' :: '"' :: '"' :: more :=
    fun _ heq => absurd (List.cons.inj heq).1 (by decide)
  rw [htext, readString?_short hother hshort]
  show (readLiteral _).map _ = _
  rw [readLiteral_append hplain hmark]
  rfl

theorem readString?_tripleQuotes (hmarks : Marks.forText text = .tripleQuotes)
    (hquote : rest.head? ≠ some '"') :
    readString? (stringChars text ++ rest) = some (String.ofList text, rest) := by
  have htext : stringChars text ++ rest = '"' :: '"' :: '"' ::
      ((if text.contains '\n' then ['\n'] else []) ++ escapeText true 0 text ++
        '"' :: '"' :: '"' :: rest) := by
    simp [stringChars, hmarks, Marks.text, Marks.long]
  rw [htext]
  show (readLongBasic .outside (dropLineBreak _)).map _ = _
  rw [dropLineBreak_start fun h => head?_escapeText h _,
    readLongBasic_escapeText text 0 (Nat.zero_le 2) hquote]
  rfl

theorem readString?_tripleApostrophes (hmarks : Marks.forText text = .tripleApostrophes)
    (happos : rest.head? ≠ some '\'') :
    readString? (stringChars text ++ rest) = some (String.ofList text, rest) := by
  obtain ⟨hescapes, hrun⟩ := forText_tripleApostrophes hmarks
  have htext : stringChars text ++ rest = '\'' :: '\'' :: '\'' ::
      ((if text.contains '\n' then ['\n'] else []) ++ text ++ '\'' :: '\'' :: '\'' :: rest) := by
    simp [stringChars, hmarks, Marks.text, Marks.long]
  rw [htext]
  show (readLongLiteral (dropLineBreak _)).map _ = _
  rw [dropLineBreak_start fun h => head?_unescaped h hescapes _,
    readLongLiteral_append (fun c hc => isPlain_of_not_needsEscape (hescapes c hc)) hrun happos]
  rfl

end

/-- **A text is read back from the way it is written**, whatever marks that is between. -/
theorem readString?_stringChars (text : List Char) {rest : List Char} (hrest : NoMark rest) :
    readString? (stringChars text ++ rest) = some (String.ofList text, rest) := by
  have hquote : rest.head? ≠ some '"' := fun h => (hrest _ h).1 rfl
  have happos : rest.head? ≠ some '\'' := fun h => (hrest _ h).2 rfl
  cases hmarks : Marks.forText text with
  | quotes => exact readString?_quotes hmarks hquote
  | apostrophes => exact readString?_apostrophes hmarks
  | tripleQuotes => exact readString?_tripleQuotes hmarks hquote
  | tripleApostrophes => exact readString?_tripleApostrophes hmarks happos

end SearchNotation.Toml
