import SearchNotation.Proofs.Text.Case
import SearchNotation.Proofs.Text.Split
import SearchNotation.Query.BuilderName

/-!
# Kinds told from the names of their builders

The name of a builder shows the parts of the name of its kind by its capitals: with an underscore
and the small letter in place of each capital (`separated`), what stands before `Query` is the name
of the kind again (`exists_separated`), also if a part is itself `query`. Only `common` is read back
as another name. So two well-formed names (`IsKindName`) have builders of different names, unless
they are `common` and `common_terms` (`builderName_eq_iff`).
-/

set_option autoImplicit false

namespace SearchNotation.QueryKind

/-! ## Well-formed names -/

/-- A small ASCII letter or a digit. -/
def isPartChar (c : Char) : Bool := c.isLower || c.isDigit

/-- A part of a name begins with a small letter and goes on with small letters and digits. -/
def IsPart : List Char → Prop
  | [] => False
  | first :: rest => first.isLower = true ∧ ∀ c ∈ rest, isPartChar c = true

/-- One or more parts, joined by underscores. -/
def IsKindName (name : String) : Prop :=
  ∃ parts : List String, parts ≠ [] ∧ (∀ part ∈ parts, IsPart part.toList) ∧
    name = "_".intercalate parts

instance : DecidablePred IsPart
  | [] => inferInstanceAs (Decidable False)
  | first :: rest =>
    decidable_of_iff ((first.isLower && rest.all isPartChar) = true) (by simp [IsPart])

theorem isPartChar_small {c : Char} (h : isPartChar c = true) :
    c.toNat < 0x80 ∧ ¬ c.isUpper = true := by
  rw [Text.isUpper_iff]
  rcases Bool.or_eq_true_iff.1 h with h | h
  · have hrange := Text.isLower_iff.1 h
    omega
  · have hrange := Char.isDigit_iff_toNat.1 h
    have hnine : '9'.toNat = 57 := rfl
    omega

theorem IsPart.all {part : List Char} (h : IsPart part) : ∀ c ∈ part, isPartChar c = true := by
  cases part with
  | nil => nofun
  | cons first rest => exact List.forall_mem_cons.2 ⟨by rw [isPartChar, h.1, Bool.true_or], h.2⟩

theorem IsPart.underscore_not_mem {part : List Char} (h : IsPart part) : '_' ∉ part := by
  intro hmem
  exact absurd (h.all _ hmem) (by decide)

theorem IsKindName.exists_parts {name : String} (h : IsKindName name) : ∃ part parts,
    (∀ p ∈ part :: parts, IsPart p) ∧ name.toList = ['_'].intercalate (part :: parts) := by
  obtain ⟨parts, hne, hparts, rfl⟩ := h
  obtain ⟨part, parts, rfl⟩ := List.exists_cons_of_ne_nil hne
  refine ⟨part.toList, parts.map String.toList, ?_, String.toList_intercalate⟩
  rw [← List.map_cons]
  exact List.forall_mem_map.2 hparts

/-! ## Reading the parts back -/

/-- The text with an underscore and the small letter in place of each capital. -/
def separated (text : List Char) : List Char :=
  text.flatMap fun c => if c.isUpper then ['_', c.toLower] else [c]

theorem separated_append (xs ys : List Char) :
    separated (xs ++ ys) = separated xs ++ separated ys := List.flatMap_append

theorem separated_small {text : List Char} (h : ∀ c ∈ text, isPartChar c = true) :
    separated text = text := by
  induction text with
  | nil => rfl
  | cons c rest ih =>
    obtain ⟨hc, hrest⟩ := List.forall_mem_cons.1 h
    have hsmall : ¬ c.isUpper = true := (isPartChar_small hc).2
    rw [separated, List.flatMap_cons, if_neg hsmall, ← separated, ih hrest, List.singleton_append]

section
variable {first : Char} {rest : List Char} (h : IsPart (first :: rest))
include h

theorem IsPart.capitalize_eq : capitalize (first :: rest) = first.toUpper :: rest := by
  have hlower := Text.lowerChars_eq_self fun c hc => isPartChar_small (h.all c hc)
  simp only [capitalize, hlower, Text.upperChar_of_isLower h.1, List.singleton_append]

theorem IsPart.separated_capitalize :
    separated (capitalize (first :: rest)) = '_' :: first :: rest := by
  rw [h.capitalize_eq, separated, List.flatMap_cons, if_pos (Text.isUpper_toUpper h.1),
    Text.toLower_toUpper h.1, ← separated, separated_small h.2]
  rfl

end

/-- **Each capital is where a part begins.** -/
theorem separated_capitalized {parts : List (List Char)} (h : ∀ part ∈ parts, IsPart part) :
    separated (parts.flatMap capitalize) = parts.flatMap ('_' :: ·) := by
  induction parts with
  | nil => rfl
  | cons part parts ih =>
    obtain ⟨hpart, hparts⟩ := List.forall_mem_cons.1 h
    cases part with
    | nil => exact hpart.elim
    | cons first rest =>
      rw [List.flatMap_cons, separated_append, hpart.separated_capitalize, ih hparts,
        List.flatMap_cons]

theorem intercalate_underscore (part : List Char) (parts : List (List Char)) :
    ['_'].intercalate (part :: parts) = part ++ parts.flatMap ('_' :: ·) := by
  induction parts generalizing part with
  | nil => simp
  | cons next parts ih =>
    rw [List.intercalate_cons_cons, ih, List.flatMap_cons, List.append_assoc,
      List.singleton_append, List.cons_append]

/-! ## Names of builders -/

/-- The well-formed name that a builder is named after. -/
def namesake (name : String) : String := if name = "common" then "common_terms" else name

/-- The name of a builder is the name of the kind without underscores, with each part but the first
in capitals, and `Query`. -/
theorem toList_builderName {name : String} (hcommon : name ≠ "common") {part : List Char}
    {parts : List (List Char)} (h : ∀ p ∈ part :: parts, IsPart p)
    (hname : name.toList = ['_'].intercalate (part :: parts)) :
    (builderName name).toList = (part ++ parts.flatMap capitalize) ++ "Query".toList := by
  have hsplit : Text.splitAt '_' name.toList = part :: parts := by
    rw [hname]
    exact Text.splitAt_intercalate (List.cons_ne_nil _ _) fun p hp => (h p hp).underscore_not_mem
  obtain ⟨hpart, -⟩ := List.forall_mem_cons.1 h
  cases part with
  | nil => exact hpart.elim
  | cons first rest =>
    rw [builderName, if_neg hcommon, hsplit, List.flatMap_cons, hpart.capitalize_eq,
      String.toList_ofList]
    simp [lowerFirst, Text.lowerChar_toUpper hpart.1]

/-- **The name of a builder, up to `Query`, reads as the name of its kind.** -/
theorem exists_separated {name : String} (h : IsKindName name) :
    ∃ text, (builderName name).toList = text ++ "Query".toList ∧
      separated text = (namesake name).toList := by
  by_cases hcommon : name = "common"
  · subst hcommon
    exact ⟨"commonTerms".toList, by decide, by decide⟩
  obtain ⟨part, parts, hparts, hname⟩ := h.exists_parts
  refine ⟨_, toList_builderName hcommon hparts hname, ?_⟩
  obtain ⟨hpart, hothers⟩ := List.forall_mem_cons.1 hparts
  rw [separated_append, separated_small hpart.all, separated_capitalized hothers,
    ← intercalate_underscore, ← hname, namesake, if_neg hcommon]

/-- Only `common` is not its own namesake. -/
theorem namesake_eq_iff {a b : String} : namesake a = namesake b ↔
    a = b ∨ a = "common" ∧ b = "common_terms" ∨ a = "common_terms" ∧ b = "common" := by
  unfold namesake
  split <;> split <;> simp_all [eq_comm]

/-- **Kinds of different well-formed names have builders of different names**, `common` and
`common_terms` apart. -/
theorem builderName_eq_iff {a b : String} (ha : IsKindName a) (hb : IsKindName b) :
    builderName a = builderName b ↔
      a = b ∨ a = "common" ∧ b = "common_terms" ∨ a = "common_terms" ∧ b = "common" := by
  constructor
  · intro h
    obtain ⟨text, htext, hread⟩ := exists_separated ha
    obtain ⟨text', htext', hread'⟩ := exists_separated hb
    -- `Query` ends both names, so it makes no difference that a part may be `query` as well
    have hsame : text = text' := by
      rw [h, htext'] at htext
      exact (List.append_cancel_right htext).symm
    rw [hsame, hread'] at hread
    exact namesake_eq_iff.1 (String.toList_inj.1 hread.symm)
  · rintro (rfl | ⟨rfl, rfl⟩ | ⟨rfl, rfl⟩)
    · rfl
    · decide
    · decide

/-- Both names of the builder of common terms, and two names that differ by an underscore only. -/
theorem builderName_common_terms :
    IsKindName "common" ∧ IsKindName "common_terms" ∧
    IsKindName "query_query" ∧ IsKindName "queryquery" ∧
    builderName "common" = builderName "common_terms" ∧
    builderName "query_query" ≠ builderName "queryquery" := by
  have hcommon : IsKindName "common" := ⟨["common"], by decide, by decide, rfl⟩
  have hterms : IsKindName "common_terms" := ⟨["common", "terms"], by decide, by decide, rfl⟩
  have htwo : IsKindName "query_query" := ⟨["query", "query"], by decide, by decide, rfl⟩
  have hone : IsKindName "queryquery" := ⟨["queryquery"], by decide, by decide, rfl⟩
  refine ⟨hcommon, hterms, htwo, hone, ?_, ?_⟩
  · exact (builderName_eq_iff hcommon hterms).2 (.inr (.inl ⟨rfl, rfl⟩))
  · rw [Ne, builderName_eq_iff htwo hone]
    decide

/-- A part that begins with a digit has no capital to show where it begins. -/
example : builderName "a_2" = builderName "a2" := by decide

end SearchNotation.QueryKind
