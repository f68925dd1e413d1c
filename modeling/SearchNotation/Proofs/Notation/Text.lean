import SearchNotation.Aggregation.Compile
import SearchNotation.Proofs.Json.RoundTrip
import SearchNotation.Proofs.Notation.Grammar
import SearchNotation.Query.Compile

/-!
# A notation survives a trip through text

The compact text of a notation is never blank (`isBlankText_compact`), it is read as the JSON value
that was written, and that is read as the notation (`read_compact_toJson`). So what a text compiles
to is what the notation in it compiles to.
-/

set_option autoImplicit false

namespace SearchNotation

namespace Text

theorem isBlank_eq_false {c : Char} (hlow : 0x20 < c.toNat) (hhigh : c.toNat < 0x80) :
    isBlank c = false := by
  simp only [isBlank, Bool.or_eq_false_iff, Bool.and_eq_false_iff, decide_eq_false_iff_not,
    beq_eq_false_iff_ne]
  omega

theorem isBlankText_compact {json : Json} (h : json.Canonical) :
    isBlankText json.compact = false := by
  obtain ⟨c, text, htext, hlow, hhigh, -⟩ := Json.compactChars_eq_cons h
  rw [isBlankText, Json.compact, String.toList_ofList, htext, List.all_cons,
    isBlank_eq_false hlow hhigh, Bool.false_and]

end Text

namespace Notation

/-- **A notation is read back from its text**, and both compilers take the text for the notation:
if its numbers are integers, its lists below the root are not empty, and its JSON is nested no
deeper than the reader goes. -/
theorem read_compact_toJson {n : Notation} (hproper : n.Proper) (hjson : n.toJson.Canonical)
    (hdepth : n.toJson.depth ≤ Json.maxDepth) :
    read (some n.toJson.compact) = .ok n ∧
      (∀ table, Query.compileText table (some n.toJson.compact) = Query.compile table n) ∧
      ∀ registry, Aggregation.compileText registry (some n.toJson.compact) =
        Aggregation.compile registry n := by
  have hread : read (some n.toJson.compact) = .ok n := by
    simp only [read, Text.isBlankText_compact hjson, Bool.false_eq_true, if_false,
      Json.read_compact hjson hdepth]
    exact ofJson_toJson hproper
  refine ⟨hread, fun table => ?_, fun registry => ?_⟩
  · rw [Query.compileText, hread]
  · rw [Aggregation.compileText, hread]

/-- The least and the greatest integer, characters with and without short escapes, and a list with
an empty bag. -/
theorem read_compact_toJson_escapes :
    let n : Notation := .map [
      ("ids", .array [.number (.int (-9223372036854775808)),
        .number (.int 18446744073709551615)]),
      ("must", .list [[("title", .scalar (.string "é \"\\\n\u0001"))], []])]
    let text := "\x7b\"ids\":[-9223372036854775808,18446744073709551615]," ++
      "\"must\":[\x7b\"title\":\"é \\\"\\\\\\n\\u0001\"\x7d,\x7b\x7d]\x7d"
    n.toJson.compact = text ∧ read (some text) = .ok n := by
  intro n text
  have hproper : n.Proper := (toJson_of_ofJson (rfl : ofJson n.toJson = .ok n)).2
  have htitle : Json.Canonical (.string "é \"\\\n\u0001") :=
    Json.canonical_of_isScalar trivial nofun
  have hjson : n.toJson.Canonical := by
    refine Json.canonical_object.2 ⟨by decide +kernel, ?_⟩
    refine List.forall_mem_cons.2 ⟨Json.canonical_array.2 ?_, List.forall_mem_singleton.2 ?_⟩
    · refine List.forall_mem_cons.2 ⟨Json.canonical_int (by decide) (by decide), ?_⟩
      exact List.forall_mem_singleton.2 (Json.canonical_int (by decide) (by decide))
    · refine Json.canonical_array.2 (List.forall_mem_cons.2 ⟨?_, List.forall_mem_singleton.2 ?_⟩)
      · exact Json.canonical_object.2 ⟨by decide, List.forall_mem_singleton.2 htitle⟩
      · exact Json.canonical_object.2 ⟨by decide, nofun⟩
  have hdepth : n.toJson.depth ≤ Json.maxDepth := by decide +kernel
  have htext : n.toJson.compact = text := by decide +kernel
  have hread := (read_compact_toJson hproper hjson hdepth).1
  rw [htext] at hread
  exact ⟨htext, hread⟩

end Notation

end SearchNotation
