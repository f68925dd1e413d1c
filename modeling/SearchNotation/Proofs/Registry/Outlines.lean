import SearchNotation.Proofs.Aggregation.Levels
import SearchNotation.Proofs.Aggregation.Outline
import SearchNotation.Proofs.Query.NormalForm
import SearchNotation.Proofs.Query.Outline

/-!
# Outlines of what is compiled

What is compiled with standard kinds has words for the names of its kinds (`IsCompiled.named`), so
its outline says how it is built, whatever stands in fields, names and values
(`outlines_unambiguous`).
-/

set_option autoImplicit false

namespace SearchNotation

open Registry (standardWithout)

/-! ## Queries -/

namespace Query

/-- A query in one that is compiled with standard kinds, some of which are disabled. -/
def IsCompiled (query : Query) : Prop :=
  ∃ (disabledQueries disabledAggregations : List String) (n : Notation) (whole : Query)
    (path : Path),
    (compile (standardWithout disabledQueries disabledAggregations).1.queries n).result =
      .ok whole ∧ whole.at? path = some query

theorem Occurs.at? {whole query part : Query} (h : whole.Occurs query) {path : Path}
    (hpart : query.at? path = some part) : whole.Occurs part := by
  induction path generalizing query with
  | nil =>
    cases hpart
    exact h
  | cons step path ih =>
    obtain ⟨join, i⟩ := step
    cases query with
    | bool clauses =>
      obtain ⟨clause, hc, hpart⟩ := Option.bind_eq_some_iff.1 hpart
      exact ih (h.clause (List.mem_of_getElem? hc)) hpart
    | matchAll => cases hpart
    | leaf l => cases hpart

theorem isWord_standard : ∀ kind ∈ QueryKind.standard, Text.IsWord kind.name := by
  decide

theorem IsCompiled.named {query : Query} (h : query.IsCompiled) : query.Named := by
  obtain ⟨disabledQueries, disabledAggregations, n, whole, path, hcompiled, hquery⟩ := h
  intro path' part hpart
  have hoccurs : whole.Occurs part := (Occurs.at? .self hquery).at? hpart
  cases part with
  | matchAll => trivial
  | bool clauses => trivial
  | leaf l =>
    obtain ⟨key, value, hl⟩ := (compile_stands hcompiled).exists_entry hoccurs
    obtain ⟨kind, hkind, hname⟩ :=
      (canonical_of_resolved? disabledQueries disabledAggregations hl).inUse
    have hstandard := ((Registry.mem_enabledStandard _).1
      ((Registry.lookup?_standardWithout _ _).1 hkind).1).1
    show Text.IsWord l.kind
    exact hname ▸ isWord_standard kind hstandard

end Query

/-! ## Aggregations -/

namespace Aggregation

/-- An aggregation in one that is compiled with standard kinds, some of which are disabled. -/
def IsCompiled (a : Aggregation) : Prop :=
  ∃ (disabledQueries disabledAggregations : List String) (n : Notation)
    (siblings : List Aggregation) (whole : Aggregation) (path : Path),
    (compile (standardWithout disabledQueries disabledAggregations).1 n).result = .ok siblings ∧
      whole ∈ siblings ∧ whole.at? path = some a

theorem isWord_standard : ∀ kind ∈ AggregationKind.standard, Text.IsWord kind.name := by
  decide

/-- Whatever is in an aggregation that is compiled is compiled among siblings of its own. -/
theorem exists_compile_of_at? {registry : Registry} {n : Notation} {siblings : List Aggregation}
    (h : (compile registry n).result = .ok siblings) {a part : Aggregation} (ha : a ∈ siblings)
    {path : Path} (hpart : a.at? path = some part) :
    ∃ m siblings', (compile registry m).result = .ok siblings' ∧ part ∈ siblings' := by
  induction path generalizing n siblings a with
  | nil =>
    cases hpart
    exact ⟨n, siblings, h, ha⟩
  | cons i path ih =>
    obtain ⟨child, hchild, hpart⟩ := Option.bind_eq_some_iff.1 hpart
    obtain ⟨_, _, _, p, -, -, -, hr⟩ := exists_plan_of_mem (compile_eq_ok_iff.1 h).1 ha
    exact ih hr.children (List.mem_of_getElem? hchild) hpart

theorem IsCompiled.named {a : Aggregation} (h : a.IsCompiled) : a.Named := by
  obtain ⟨disabledQueries, disabledAggregations, n, siblings, whole, path, hcompiled, hmem, ha⟩ :=
    h
  intro path' part hpart
  obtain ⟨m, siblings', hcompiled', hmem'⟩ := exists_compile_of_at? hcompiled hmem ha
  obtain ⟨m', siblings'', hcompiled'', hmem''⟩ := exists_compile_of_at? hcompiled' hmem' hpart
  obtain ⟨key, _, kind, p, -, hkind, -, hr⟩ :=
    exists_plan_of_mem (compile_eq_ok_iff.1 hcompiled'').1 hmem''
  rw [Registry.aggregations_lookup?_standardWithout] at hkind
  split at hkind
  · cases hkind
  · rw [hr.kindName]
    exact isWord_standard kind (List.mem_of_find?_eq_some hkind)

end Aggregation

/-! ## Both -/

/-- **Outlines are unambiguous.** The outline of a query has one line for each query in it and one
for each clause list that is not empty, and that of an aggregation one line for each aggregation in
it; queries that have the same outline are built alike and have the same kind, field and JSON text
in each place, and aggregations the same kind, name and body. -/
theorem outlines_unambiguous :
    (∀ query : Query, query.IsCompiled → ∃ places, Text.DrawnAs query.text
      (Query.Place.In query) Query.Place.indent (Query.Place.label query) places) ∧
    (∀ a : Aggregation, a.IsCompiled → ∃ paths, Text.DrawnAs a.text
      (fun path => (a.at? path).isSome = true) (fun path => 2 * path.length) a.label paths) ∧
    (∀ p q : Query, p.IsCompiled → q.IsCompiled → p.text = q.text →
      ∀ path, (p.at? path).map Query.head = (q.at? path).map Query.head) ∧
    (∀ a b : Aggregation, a.IsCompiled → b.IsCompiled → a.text = b.text →
      ∀ path, (a.at? path).map Aggregation.head = (b.at? path).map Aggregation.head) := by
  refine ⟨?_, ?_, ?_, ?_⟩
  · exact fun query h => ⟨_, h.named.drawnAs⟩
  · exact fun a h => ⟨_, h.named.drawnAs⟩
  · exact fun p q hp hq htext => hp.named.head_eq hq.named htext
  · exact fun a b ha hb htext => ha.named.head_eq hb.named htext

/-- The field and the name look like lines of their own. Two spellings of a bound are kept in the
parameters but not in the outline. -/
theorem outlines_unambiguous_two_spellings :
    let query (bound : String) : Query := .bool { must := [
      .leaf ⟨"range", some "a\n  should",
        [("field", .ofString "a\n  should"), (bound, .ofString "3")],
        .range "a\n  should" none (some ⟨.string "3", true⟩) []⟩,
      .leaf ⟨"query_string", none, [("query", .ofString "x")], .queryString "x" []⟩] }
    let aggregation (bound : String) : Aggregation :=
      ⟨"filter", "b {}\n  avg",
        [("range", .nested [("field", .ofString "n"), (bound, .ofString "3")])],
        [⟨"avg", "avg", [("field", .ofString "n")], [], "avg",
          Json.single "field" (.string "n")⟩],
        "filter", Json.single "range" (Json.single "n" (Json.single "lte" (.string "3")))⟩
    ((query "to").IsCompiled ∧ (query "lte").IsCompiled ∧
      (query "to").text = (query "lte").text) ∧
    ((aggregation "to").IsCompiled ∧ (aggregation "lte").IsCompiled ∧
      (aggregation "to").text = (aggregation "lte").text) ∧
    (∃ places, Text.DrawnAs (query "to").text (Query.Place.In (query "to")) Query.Place.indent
      (Query.Place.label (query "to")) places) ∧
    (∃ paths, Text.DrawnAs (aggregation "to").text
      (fun path => ((aggregation "to").at? path).isSome = true) (fun path => 2 * path.length)
      (aggregation "to").label paths) ∧
    (∀ path, ((query "to").at? path).map Query.head = ((query "lte").at? path).map Query.head) ∧
    (∀ path, ((aggregation "to").at? path).map Aggregation.head =
      ((aggregation "lte").at? path).map Aggregation.head) := by
  intro query aggregation
  let entries (bound : String) : Notation := .map [("must", .list [
    [("range", .nested [("field", .ofString "a\n  should"), (bound, .ofString "3")])],
    [("query_string", .ofString "x")]])]
  let entry (bound : String) : Notation := .map [("filter", .nested [
    ("aggregation_key", .ofString "b {}\n  avg"),
    ("range", .nested [("field", .ofString "n"), (bound, .ofString "3")]),
    ("sub", .nested [("avg", .ofString "n")])])]
  have hp : (query "to").IsCompiled := ⟨[], [], entries "to", _, [], rfl, rfl⟩
  have hq : (query "lte").IsCompiled := ⟨[], [], entries "lte", _, [], rfl, rfl⟩
  have ha : (aggregation "to").IsCompiled := ⟨[], [], entry "to", _, _, [], rfl, .head _, rfl⟩
  have hb : (aggregation "lte").IsCompiled := ⟨[], [], entry "lte", _, _, [], rfl, .head _, rfl⟩
  obtain ⟨hquery, haggregation, hqueries, haggregations⟩ := outlines_unambiguous
  exact ⟨⟨hp, hq, rfl⟩, ⟨ha, hb, rfl⟩, hquery _ hp, haggregation _ ha, hqueries _ _ hp hq rfl,
    haggregations _ _ ha hb rfl⟩

end SearchNotation
