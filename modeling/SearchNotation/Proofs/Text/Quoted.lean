import Mathlib.Data.List.Basic
import SearchNotation.Proofs.Text.Hexadecimal
import SearchNotation.Text.Quoted

/-!
# Quoted names can be told apart

A quoted name stays on its line (`newline_not_mem_quotedChars`), and whatever follows it, name and
rest can be told apart (`quotedChars_append_inj`): a character stands for itself, or is a backslash
and a letter, or the hexadecimal digits of its code point up to a brace (`QuoteForm`), and no two
characters begin alike (`quoteChar_append_inj`).
-/

set_option autoImplicit false

namespace SearchNotation.Text

/-! ## Runs of characters -/

/-- Where a run of items of one class ends by an item outside the class, the run, the item and the
rest can be told apart. -/
theorem append_cons_inj {α : Type} (p : α → Prop) {xs ys us vs : List α} {c d : α}
    (hxs : ∀ x ∈ xs, p x) (hc : ¬ p c) (hys : ∀ y ∈ ys, p y) (hd : ¬ p d)
    (h : xs ++ c :: us = ys ++ d :: vs) : xs = ys ∧ c = d ∧ us = vs := by
  induction xs generalizing ys with
  | nil =>
    cases ys with
    | nil => exact ⟨rfl, List.cons.inj h⟩
    | cons y ys =>
      have hy : c = y := (List.cons.inj h).1
      exact absurd (hy ▸ hys y (.head _)) hc
  | cons x xs ih =>
    cases ys with
    | nil =>
      have hx : x = d := (List.cons.inj h).1
      exact absurd (hx ▸ hxs x (.head _)) hd
    | cons y ys =>
      obtain ⟨hx, hrest⟩ := List.cons.inj h
      obtain ⟨hrun, hends⟩ := ih (fun x hx => hxs x (.tail _ hx)) (fun y hy => hys y (.tail _ hy))
        hrest
      exact ⟨hx ▸ hrun ▸ rfl, hends⟩

/-! ## Characters -/

/-- The characters that are written as a backslash and a letter, each with its letter. -/
def quoteLetters : List (Char × Char) :=
  [('"', '"'), ('\\', '\\'), ('\n', 'n'), ('\r', 'r'), ('\t', 't'), ('\x00', '0')]

/-- The ways in which a character is written inside a quoted name. -/
inductive QuoteForm (c : Char) : List Char → Prop
  | itself : c ≠ '"' → c ≠ '\\' → c ≠ '\n' → QuoteForm c [c]
  | letter {e : Char} : (c, e) ∈ quoteLetters → QuoteForm c ['\\', e]
  | code : QuoteForm c ('\\' :: 'u' :: '\x7b' :: (hexDigits c.toNat ++ ['\x7d']))

theorem quoteForm_quoteChar (c : Char) : QuoteForm c (quoteChar c) := by
  unfold quoteChar
  split_ifs with hquote hslash hnewline hreturn htab hzero hprintable hhidden
  · exact .letter (by simp [quoteLetters, hquote])
  · exact .letter (by simp [quoteLetters, hslash])
  · exact .letter (by simp [quoteLetters, hnewline])
  · exact .letter (by simp [quoteLetters, hreturn])
  · exact .letter (by simp [quoteLetters, htab])
  · exact .letter (by simp [quoteLetters, hzero])
  · exact .itself hquote hslash hnewline
  · exact .code
  · exact .itself hquote hslash hnewline

namespace QuoteForm

variable {c d : Char} {xs ys : List Char}

theorem ne_nil (h : QuoteForm c xs) : xs ≠ [] := by
  cases h <;> simp

theorem head?_ne (h : QuoteForm c xs) : xs.head? ≠ some '"' := by
  cases h with
  | itself hquote => simpa using hquote
  | letter => simp
  | code => simp

theorem newline_not_mem (h : QuoteForm c xs) : '\n' ∉ xs := by
  cases h with
  | itself _ _ hnewline => simpa using hnewline.symm
  | @letter e he =>
    have hletters : ∀ p ∈ quoteLetters, p.2 ≠ '\n' := by decide
    simpa using (hletters _ he).symm
  | code =>
    intro hmem
    have hdigit : '\n' ∈ hexDigits c.toNat := by simpa using hmem
    exact ne_of_mem_hexDigits (by decide) hdigit rfl

/-- **What a character is written as** can be told from what follows it. -/
theorem append_inj {us vs : List Char} (hc : QuoteForm c xs) (hd : QuoteForm d ys)
    (h : xs ++ us = ys ++ vs) : c = d ∧ us = vs := by
  have hcode : ∀ p ∈ quoteLetters, p.2 ≠ 'u' := by decide
  cases hc with
  | itself _ hcslash =>
    cases hd with
    | itself => exact List.cons.inj h
    | letter => exact absurd (List.cons.inj h).1 hcslash
    | code => exact absurd (List.cons.inj h).1 hcslash
  | letter hce =>
    cases hd with
    | itself _ hdslash => exact absurd (List.cons.inj h).1.symm hdslash
    | letter hde =>
      have hsame : ∀ p ∈ quoteLetters, ∀ q ∈ quoteLetters, p.2 = q.2 → p.1 = q.1 := by decide
      obtain ⟨he, hrest⟩ := List.cons.inj (List.cons.inj h).2
      exact ⟨hsame _ hce _ hde he, hrest⟩
    | code => exact absurd (List.cons.inj (List.cons.inj h).2).1 (hcode _ hce)
  | code =>
    cases hd with
    | itself _ hdslash => exact absurd (List.cons.inj h).1.symm hdslash
    | letter hde => exact absurd (List.cons.inj (List.cons.inj h).2).1.symm (hcode _ hde)
    | code =>
      simp only [List.cons_append, List.append_assoc, List.cons.injEq, true_and,
        List.nil_append] at h
      obtain ⟨hdigits, -, hrest⟩ := append_cons_inj (· ≠ '\x7d')
        (fun _ he => ne_of_mem_hexDigits (by decide) he) (not_not.2 rfl)
        (fun _ he => ne_of_mem_hexDigits (by decide) he) (not_not.2 rfl) h
      exact ⟨Char.toNat_inj.1 (hexDigits_inj hdigits), hrest⟩

end QuoteForm

/-! ## Names -/

theorem newline_not_mem_quotedChars (name : String) : '\n' ∉ quotedChars name := by
  simp only [quotedChars, List.mem_append, List.mem_cons, List.mem_flatMap, not_or, not_exists,
    not_and]
  exact ⟨⟨by decide, fun c _ => (quoteForm_quoteChar c).newline_not_mem⟩, by decide⟩

/-- Names that are escaped alike up to the closing quote are the same. -/
theorem flatMap_quoteChar_inj {cs ds us vs : List Char}
    (h : cs.flatMap quoteChar ++ '"' :: us = ds.flatMap quoteChar ++ '"' :: vs) :
    cs = ds ∧ us = vs := by
  -- no character is written with a quote in front, so both names end together
  have hopen : ∀ {c : Char} {rest us : List Char}, '"' :: us ≠ quoteChar c ++ rest := by
    intro c rest us heq
    have hform := quoteForm_quoteChar c
    refine hform.head?_ne ?_
    rw [← List.head?_append_of_ne_nil _ hform.ne_nil, ← heq, List.head?_cons]
  induction cs generalizing ds with
  | nil =>
    cases ds with
    | nil => exact ⟨rfl, (List.cons.inj h).2⟩
    | cons d ds =>
      rw [List.flatMap_cons, List.append_assoc] at h
      exact absurd h hopen
  | cons c cs ih =>
    cases ds with
    | nil =>
      rw [List.flatMap_cons, List.append_assoc] at h
      exact absurd h.symm hopen
    | cons d ds =>
      rw [List.flatMap_cons, List.flatMap_cons, List.append_assoc, List.append_assoc] at h
      obtain ⟨hc, hrest⟩ := (quoteForm_quoteChar c).append_inj (quoteForm_quoteChar d) h
      obtain ⟨hcs, hends⟩ := ih hrest
      exact ⟨hc ▸ hcs ▸ rfl, hends⟩

/-- **A quoted name can be told from what follows it.** -/
theorem quotedChars_append_inj {s t : String} {us vs : List Char}
    (h : quotedChars s ++ us = quotedChars t ++ vs) : s = t ∧ us = vs := by
  simp only [quotedChars, List.cons_append, List.append_assoc, List.cons.injEq, true_and,
    List.nil_append] at h
  obtain ⟨hname, hrest⟩ := flatMap_quoteChar_inj h
  exact ⟨String.toList_inj.1 hname, hrest⟩

end SearchNotation.Text
