import Mathlib.Data.List.Forall2
import Mathlib.Data.List.TakeWhile
import SearchNotation.Proofs.Text.Case
import SearchNotation.Proofs.Text.Split
import SearchNotation.Request.Sort

/-!
# The grammar of sort keys

`SortKey.Spelled text field order`: a text without a colon is a field, sorted ascending; in any
other text the last colon parts the field from the name of a direction, in any ASCII case. A text
is a sort key if its field is not blank, and the key has the field without the blanks around it
(`parse_eq_ok_iff`); any other text is refused as a whole. `parse_spelled` is the main statement.

Each part of the parser is tied to the property that it decides: `splitAtLast?_eq_some_iff`,
`SortOrder.parse_eq_ok_iff` and `trimChars_eq_iff`.
-/

set_option autoImplicit false

namespace SearchNotation

/-! ## Blanks around a text -/

namespace Text

/-- The text without the blanks at both ends is `part`. -/
structure Trims (text part : List Char) : Prop where
  ends : ∃ left right, text = left ++ part ++ right ∧ (∀ c ∈ left, isBlank c = true) ∧
    ∀ c ∈ right, isBlank c = true
  first : ∀ c ∈ part.head?, isBlank c = false
  last : ∀ c ∈ part.getLast?, isBlank c = false

theorem dropWhile_eq_iff {p : Char → Bool} {text part : List Char} :
    text.dropWhile p = part ↔ ∃ left, text = left ++ part ∧ (∀ c ∈ left, p c = true) ∧
      ∀ c ∈ part.head?, p c = false := by
  constructor
  · rintro rfl
    refine ⟨text.takeWhile p, List.takeWhile_append_dropWhile.symm,
      fun c hc => List.mem_takeWhile_imp hc, fun c hc => ?_⟩
    have hfirst := List.head?_dropWhile_not p text
    rwa [hc] at hfirst
  · rintro ⟨left, rfl, hleft, hfirst⟩
    rw [List.dropWhile_append_of_pos hleft]
    cases part with
    | nil => rfl
    | cons c rest => exact List.dropWhile_cons_of_neg (by simp [hfirst c rfl])

theorem trimEndChars_eq_iff {text part : List Char} :
    trimEndChars text = part ↔ ∃ right, text = part ++ right ∧ (∀ c ∈ right, isBlank c = true) ∧
      ∀ c ∈ part.getLast?, isBlank c = false := by
  rw [trimEndChars, List.reverse_eq_iff, dropWhile_eq_iff, List.head?_reverse]
  constructor
  · rintro ⟨left, htext, hleft, hlast⟩
    refine ⟨left.reverse, ?_, by simpa using hleft, hlast⟩
    simpa using congrArg List.reverse htext
  · rintro ⟨right, rfl, hright, hlast⟩
    exact ⟨right.reverse, List.reverse_append, by simpa using hright, hlast⟩

/-- **The text without the blanks at both ends.** -/
theorem trimChars_eq_iff {text part : List Char} : trimChars text = part ↔ Trims text part := by
  rw [trimChars, trimEndChars_eq_iff]
  constructor
  · rintro ⟨right, hdrop, hright, hlast⟩
    obtain ⟨left, rfl, hleft, hfirst⟩ := dropWhile_eq_iff.1 hdrop
    refine ⟨⟨left, right, (List.append_assoc ..).symm, hleft, hright⟩, ?_, hlast⟩
    intro c hc
    apply hfirst
    rw [List.head?_append, hc]
    rfl
  · rintro ⟨⟨left, right, rfl, hleft, hright⟩, hfirst, hlast⟩
    cases part with
    | nil =>
      refine ⟨[], ?_, nofun, nofun⟩
      rw [List.append_nil, List.append_nil, List.dropWhile_append_of_pos hleft]
      exact dropWhile_eq_iff.2 ⟨right, (List.append_nil _).symm, hright, nofun⟩
    | cons c rest =>
      refine ⟨right, ?_, hright, hlast⟩
      rw [List.append_assoc]
      exact dropWhile_eq_iff.2 ⟨left, rfl, hleft, hfirst⟩

theorem trims_trimChars (text : List Char) : Trims text (trimChars text) := trimChars_eq_iff.1 rfl

/-- A text is trimmed to nothing if it holds nothing but blanks. -/
theorem Trims.eq_nil_iff {text part : List Char} (h : Trims text part) :
    part = [] ↔ ∀ c ∈ text, isBlank c = true := by
  obtain ⟨left, right, rfl, hleft, hright⟩ := h.ends
  constructor
  · rintro rfl c hc
    rw [List.append_nil] at hc
    exact (List.mem_append.1 hc).elim (hleft c) (hright c)
  · intro hall
    cases part with
    | nil => rfl
    | cons c rest =>
      have hblank := hall c (by simp)
      rw [h.first c rfl] at hblank
      cases hblank

end Text

open Text (Trims isBlank)

/-! ## Directions -/

namespace SortOrder

/-- The text is the name of the direction, with any of its letters as a capital. -/
def Names (text : List Char) (order : SortOrder) : Prop :=
  List.Forall₂ (fun c letter => c = letter ∨ c = letter.toUpper) text order.name.toList

theorem isLower_name (order : SortOrder) : ∀ letter ∈ order.name.toList, letter.isLower = true := by
  cases order <;> simp [name]

theorem names_iff {text : List Char} {order : SortOrder} :
    Names text order ↔ text.map Char.toLower = order.name.toList := by
  have hletters := order.isLower_name
  rw [Names]
  generalize order.name.toList = name at hletters
  induction name generalizing text with
  | nil => simp
  | cons letter name ih =>
    obtain ⟨hletter, hname⟩ := List.forall_mem_cons.1 hletters
    cases text with
    | nil => simp
    | cons c text =>
      rw [List.forall₂_cons, List.map_cons, List.cons.injEq]
      exact and_congr (Text.toLower_eq_iff hletter).symm (ih hname)

theorem ofName?_eq_some_iff {name : String} {order : SortOrder} :
    ofName? name = some order ↔ order.name = name := by
  constructor
  · intro h
    simpa using List.find?_some h
  · rintro rfl
    cases order <;> decide

/-- **A direction is read from its name** in any case. -/
theorem parse_eq_ok_iff {text : String} {order : SortOrder} :
    parse text = .ok order ↔ Names text.toList order := by
  have hname : ofName? (String.ofList (text.toList.map Char.toLower)) = some order ↔
      Names text.toList order := by
    rw [ofName?_eq_some_iff, names_iff, ← String.toList_inj, String.toList_ofList, eq_comm]
  rw [← hname, parse]
  split <;> simp_all

theorem names_name (order : SortOrder) : Names order.name.toList order :=
  List.forall₂_same.2 fun _ _ => .inl rfl

end SortOrder

/-! ## Sort keys -/

namespace SortKey

/-- What the text of a sort key consists of: a field, blanks around it included, and a direction. -/
inductive Spelled : List Char → List Char → SortOrder → Prop
  /-- Without a colon all is the field. -/
  | plain {text : List Char} : ':' ∉ text → Spelled text text .asc
  /-- The last colon parts the field from the name of the direction. -/
  | ordered {field name : List Char} {order : SortOrder} : ':' ∉ name →
      SortOrder.Names name order → Spelled (field ++ ':' :: name) field order

theorem spelled_of_no_colon {text field : List Char} {order : SortOrder} (h : ':' ∉ text) :
    Spelled text field order ↔ field = text ∧ order = .asc := by
  constructor
  · intro hspelled
    cases hspelled with
    | plain _ => exact ⟨rfl, rfl⟩
    | ordered _ _ => exact absurd (by simp) h
  · rintro ⟨rfl, rfl⟩
    exact .plain h

theorem spelled_of_last_colon {text field before name : List Char} {order : SortOrder}
    (h : Text.splitAtLast? ':' text = some (before, name)) :
    Spelled text field order ↔ field = before ∧ SortOrder.Names name order := by
  constructor
  · intro hspelled
    cases hspelled with
    | plain hout =>
      rw [Text.splitAtLast?_eq_none_iff.2 hout] at h
      cases h
    | ordered hout hnames =>
      rw [Text.splitAtLast?_append hout] at h
      cases h
      exact ⟨rfl, hnames⟩
  · rintro ⟨rfl, hnames⟩
    obtain ⟨rfl, hout⟩ := Text.splitAtLast?_eq_some_iff.1 h
    exact .ordered hout hnames

theorem key_eq_ok_iff {text : String} {field : List Char} {order : SortOrder} {k : SortKey} :
    parse.key text field order = .ok k ↔ order = k.order ∧ Trims field k.field.toList ∧
      ∃ c ∈ field, isBlank c = false := by
  have hblank : (∃ c ∈ field, isBlank c = false) ↔ Text.trimChars field ≠ [] := by
    rw [Ne, (Text.trims_trimChars field).eq_nil_iff]
    simp
  rw [hblank, ← Text.trimChars_eq_iff, parse.key]
  split
  · next hnil => simp [hnil]
  · next hpart =>
    obtain ⟨name, order'⟩ := k
    rw [Except.ok.injEq, SortKey.mk.injEq, ← String.toList_inj, String.toList_ofList]
    exact ⟨fun ⟨hname, horder⟩ => ⟨horder, hname, hpart⟩,
      fun ⟨horder, hname, _⟩ => ⟨hname, horder⟩⟩

/-- **A text is a sort key** if it spells a field that is not blank, and then that is the field. -/
theorem parse_eq_ok_iff {text : String} {k : SortKey} : parse text = .ok k ↔
    ∃ field, Spelled text.toList field k.order ∧ Trims field k.field.toList ∧
      ∃ c ∈ field, isBlank c = false := by
  unfold parse
  split
  · next hnone =>
    have hout := Text.splitAtLast?_eq_none_iff.1 hnone
    simp only [spelled_of_no_colon hout, and_assoc, exists_eq_left]
    rw [key_eq_ok_iff, eq_comm (a := SortOrder.asc)]
  · next before name hsome =>
    simp only [spelled_of_last_colon hsome, and_assoc, exists_eq_left]
    have hname : ∀ order, SortOrder.parse (String.ofList name) = .ok order ↔
        SortOrder.Names name order := by
      intro order
      rw [SortOrder.parse_eq_ok_iff, String.toList_ofList]
    rw [← hname]
    split
    · next order horder => rw [key_eq_ok_iff, horder, Except.ok.injEq]
    · next horder => simp [horder]

/-- **A text that is no sort key is refused as a whole.** -/
theorem parse_eq_error {text : String} {e : InvalidSort} (h : parse text = .error e) :
    e = ⟨text⟩ := by
  have hkey : ∀ field order, parse.key text field order = .error e → e = ⟨text⟩ := by
    intro field order hfield
    unfold parse.key at hfield
    split at hfield
    · cases hfield
      rfl
    · cases hfield
  unfold parse at h
  split at h
  · exact hkey _ _ h
  · split at h
    · exact hkey _ _ h
    · cases h
      rfl

/-- **What is written with its direction is read back**, colons in the field included. -/
theorem parse_written {k : SortKey} (hne : k.field ≠ "")
    (hfirst : ∀ c ∈ k.field.toList.head?, isBlank c = false)
    (hlast : ∀ c ∈ k.field.toList.getLast?, isBlank c = false) :
    parse (k.field ++ ":" ++ k.order.name) = .ok k := by
  have htext : (k.field ++ ":" ++ k.order.name).toList =
      k.field.toList ++ ':' :: k.order.name.toList := by
    rw [String.toList_append, String.toList_append, List.append_assoc]
    rfl
  have hcolon : ':' ∉ k.order.name.toList := by
    intro h
    have hletter := k.order.isLower_name _ h
    exact absurd hletter (by decide)
  rw [parse_eq_ok_iff, htext]
  refine ⟨k.field.toList, .ordered hcolon k.order.names_name, ?_, ?_⟩
  · exact ⟨⟨[], [], by simp, nofun, nofun⟩, hfirst, hlast⟩
  · cases hchars : k.field.toList with
    | nil => exact absurd (String.toList_eq_nil_iff.1 hchars) hne
    | cons c rest => exact ⟨c, .head _, hfirst c (by rw [hchars]; rfl)⟩

/-- **Sort keys are exactly what their grammar says.** -/
theorem parse_spelled :
    (∀ text, (∃ k, parse text = .ok k) ↔
      ∃ field order, Spelled text.toList field order ∧ ∃ c ∈ field, isBlank c = false) ∧
    (∀ text k, parse text = .ok k ↔ ∃ field, Spelled text.toList field k.order ∧
      Trims field k.field.toList ∧ ∃ c ∈ field, isBlank c = false) ∧
    (∀ text e, parse text = .error e → e = ⟨text⟩) ∧
    ∀ k : SortKey, k.field ≠ "" → (∀ c ∈ k.field.toList.head?, isBlank c = false) →
      (∀ c ∈ k.field.toList.getLast?, isBlank c = false) →
        parse (k.field ++ ":" ++ k.order.name) = .ok k := by
  refine ⟨fun text => ⟨?_, ?_⟩, fun _ _ => parse_eq_ok_iff, fun _ _ => parse_eq_error,
    fun _ => parse_written⟩
  · rintro ⟨k, hk⟩
    obtain ⟨field, hspelled, -, hblank⟩ := parse_eq_ok_iff.1 hk
    exact ⟨field, k.order, hspelled, hblank⟩
  · rintro ⟨field, order, hspelled, hblank⟩
    refine ⟨⟨String.ofList (Text.trimChars field), order⟩, parse_eq_ok_iff.2 ⟨field, hspelled, ?_⟩⟩
    rw [String.toList_ofList]
    exact ⟨Text.trims_trimChars field, hblank⟩

/-- A field that ends like a direction, and blanks around it; a text that ends with a colon. -/
theorem parse_spelled_colons :
    let key : SortKey := ⟨"id:asc", .desc⟩
    (key.field ≠ "" ∧ (∀ c ∈ key.field.toList.head?, isBlank c = false) ∧
      ∀ c ∈ key.field.toList.getLast?, isBlank c = false) ∧
    parse (key.field ++ ":" ++ key.order.name) = .ok key ∧
    parse "\u00A0id:asc :dESC" = .ok key ∧
    (parse "id:asc:" = .error ⟨"id:asc:"⟩ ∧ ¬ ∃ k, parse "id:asc:" = .ok k) := by
  intro key
  obtain ⟨-, hparse, -, hwritten⟩ := parse_spelled
  have hfield : key.field ≠ "" ∧ (∀ c ∈ key.field.toList.head?, isBlank c = false) ∧
      ∀ c ∈ key.field.toList.getLast?, isBlank c = false := by simp [key, isBlank]
  have hnames : SortOrder.Names "dESC".toList .desc := SortOrder.names_iff.2 (by decide)
  have hsplit : Text.splitAtLast? ':' "\u00A0id:asc :dESC".toList =
      some ("\u00A0id:asc ".toList, "dESC".toList) := by decide
  have hspelled : Spelled "\u00A0id:asc :dESC".toList "\u00A0id:asc ".toList .desc :=
    (spelled_of_last_colon hsplit).2 ⟨rfl, hnames⟩
  have htrims : Trims "\u00A0id:asc ".toList key.field.toList :=
    Text.trimChars_eq_iff.1 (by decide)
  have hrefused : parse "id:asc:" = .error ⟨"id:asc:"⟩ := by decide
  refine ⟨hfield, hwritten key hfield.1 hfield.2.1 hfield.2.2,
    (hparse _ key).2 ⟨_, hspelled, htrims, 'i', by decide, by decide⟩, hrefused, ?_⟩
  rintro ⟨k, hk⟩
  rw [hrefused] at hk
  cases hk

end SortKey

end SearchNotation
