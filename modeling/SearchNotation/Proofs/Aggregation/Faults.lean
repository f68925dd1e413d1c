import SearchNotation.Proofs.Aggregation.Parameters
import SearchNotation.Proofs.Query.Faults

/-!
# What is missing is found before anything is built

The parameters of an aggregation that pass the check of its kind have what its constructor looks
for, so the constructor fails for want of something exactly if a query among the parameters does
(`AggregationKind.construct_eq_error_iff`). `missing_found_before_construction` says this of both
families of standard kinds: a kind and its constructor ask for the same arguments.
-/

set_option autoImplicit false

namespace SearchNotation

open Aggregation (checkParams)

namespace AggregationKind

variable {table : QueryTable} {kind : AggregationKind} {params : Bag} {e : CompileError}

theorem filters_required : ∀ kind ∈ standard, kind.name ∈ filterKinds →
    "filters" ∈ kind.required := by
  decide

theorem queriesIn_eq_nil (h : kind.name ∉ "filter" :: filterKinds) :
    kind.queriesIn params = [] := by
  rw [List.mem_cons, not_or] at h
  rw [queriesIn, if_neg h.1, if_neg h.2]

/-! ## Constructors -/

/-- A value that is no map is not missing, so only a query is to blame for what is. -/
theorem namedQueries_eq_error_iff {named : Bag} (hm : e.IsMissing) :
    (namedQueries table named).result = .error e ↔ e.IsFirstOf table (Bag.leadingMaps named) :=
  ⟨fun h => (namedQueries_blame h).resolve_right fun hstray => hstray.2 hm,
    namedQueries_of_isFirstOf⟩

/-- Several queries that are there lack what the first of them lacks that does not compile. -/
theorem buildFilters_eq_error_iff (hname : kind.name ∈ filterKinds)
    (hpresent : params.hasPresent "filters" = true) (hm : e.IsMissing) :
    (buildFilters table params).result = .error e ↔
      e.IsFirstOf table (kind.queriesIn params) := by
  obtain ⟨value, hvalue⟩ := Option.isSome_iff_exists.1 hpresent
  rw [queriesIn, if_neg (ne_filter_of_mem _ hname), if_pos hname, buildFilters, hvalue]
  cases value with
  | nested named =>
    simp only [bind_pure_comp, Logged.result_map_eq_error]
    exact namedQueries_eq_error_iff hm
  | list bags =>
    simp only [bind_pure_comp, Logged.result_map_eq_error]
    exact listedQueries_eq_error_iff
  | _ =>
    refine iff_of_false (fun h => ?_) CompileError.not_isFirstOf_nil
    cases h
    exact hm

/-- Ranges that are there are not missing. -/
theorem buildRanges_ne_error (hpresent : params.hasPresent "ranges" = true) (hm : e.IsMissing) :
    (buildRanges table params).result ≠ .error e := by
  obtain ⟨value, hvalue⟩ := Option.isSome_iff_exists.1 hpresent
  intro h
  rw [buildRanges, hvalue] at h
  cases value with
  | nested range => cases h
  | list bags => cases h
  | _ => cases h; exact hm

/-- **With the parameters that were checked**, a constructor fails for want of something exactly if
the first query among them that does not compile lacks it. -/
theorem construct_eq_error_iff (hk : kind ∈ standard) (hc : checkParams kind params = .ok ())
    (hm : e.IsMissing) : (kind.construct table params).result = .error e ↔
      e.IsFirstOf table (kind.queriesIn params) := by
  have hpresent := hasPresent_of_required (checkParams_eq_ok_iff.1 hc)
  cases constructed_standard kind hk with
  | plain hb hname =>
    have hout : kind.name ∉ "filter" :: filterKinds := fun h =>
      hname (List.mem_append_left rangeKinds h)
    rw [hb, queriesIn_eq_nil hout]
    exact iff_of_false nofun CompileError.not_isFirstOf_nil
  | filter hb hname =>
    rw [hb, queriesIn, if_pos hname, CompileError.isFirstOf_cons, buildFilter,
      Logged.result_map_eq_error]
    simp only [CompileError.not_isFirstOf_nil, and_false, or_false]
  | filters hb hname =>
    rw [hb]
    exact buildFilters_eq_error_iff hname (hpresent _ (filters_required kind hk hname)) hm
  | ranges hb hname hrequired =>
    have hapart : ∀ name ∈ rangeKinds, name ∉ "filter" :: filterKinds := by decide
    rw [hb, queriesIn_eq_nil (hapart _ hname)]
    exact iff_of_false (buildRanges_ne_error (hpresent _ hrequired) hm)
      CompileError.not_isFirstOf_nil

end AggregationKind

/-! ## Both families -/

/-- **What is missing is found before anything is built.** The parameters of a query kind fail in
its constructor for the shape of an argument that is there, never because an argument or a bound is
missing. The parameters of an aggregation that pass its check fail in the constructor because
something is missing exactly if the first query among them that does not compile does. -/
theorem missing_found_before_construction :
    (∀ kind ∈ QueryKind.standard, ∀ value params, kind.params value = .ok params →
      ∀ e, kind.construct params = .error e → ¬ e.IsMissing ∧
        ∃ argument expected found, params.present? argument = some found ∧
          e = .invalidArgument kind.name argument expected found.shape) ∧
    ∀ kind ∈ AggregationKind.standard, ∀ params, checkParams kind params = .ok () →
      ∀ (table : QueryTable) (e : CompileError), e.IsMissing →
        ((kind.construct table params).result = .error e ↔
          e.IsFirstOf table (kind.queriesIn params)) := by
  constructor
  · intro kind hk value params hp e h
    obtain ⟨argument, expected, found, hfound, rfl⟩ := QueryKind.misshapen_of_params hk hp h
    exact ⟨id, argument, expected, found, hfound, rfl⟩
  · intro kind hk params hc table e hm
    exact AggregationKind.construct_eq_error_iff hk hc hm

/-- A range whose only bound is an empty array has a bound, of the wrong shape; the second query of
an adjacency matrix lacks one. -/
theorem missing_found_in_second_query :
    let range : QueryKind := ⟨"range", [], .ternary, "field", false, QueryKind.buildRange⟩
    let bag : Bag := [("field", .ofString "age"), ("from", .scalar .null), ("to", .array [])]
    let misshapen : CompileError := .invalidArgument "range" "to" .scalar .array
    let matrix : AggregationKind :=
      .sameName "adjacency_matrix" ["filters"] [] AggregationKind.buildFilters
    let own : Bag := [("brand", .ofString "x")]
    let boundless : Bag := [("range", .nested [("field", .ofString "age")])]
    let params : Bag := [("filters", .list [own, boundless])]
    let missing : CompileError := .missingRangeBound "age"
    range ∈ QueryKind.standard ∧ range.params (.nested bag) = .ok bag ∧
    range.construct bag = .error misshapen ∧ ¬ misshapen.IsMissing ∧
    matrix ∈ AggregationKind.standard ∧ checkParams matrix params = .ok () ∧ missing.IsMissing ∧
    (matrix.construct Aggregation.filtersOnly.queries params).result = .error missing := by
  intro range bag misshapen matrix own boundless params missing
  have hrange : range ∈ QueryKind.standard := by simp [range, QueryKind.standard]
  have hbag : range.params (.nested bag) = .ok bag := rfl
  have hrefused : range.construct bag = .error misshapen := rfl
  have hmatrix : matrix ∈ AggregationKind.standard := by simp [matrix, AggregationKind.standard]
  have hchecked : checkParams matrix params = .ok () := rfl
  have hfirst : missing.IsFirstOf Aggregation.filtersOnly.queries (matrix.queriesIn params) :=
    ⟨[own], boundless, [], rfl, List.forall_mem_singleton.2 ⟨_, rfl⟩, rfl⟩
  obtain ⟨hqueries, haggregations⟩ := missing_found_before_construction
  exact ⟨hrange, hbag, hrefused, (hqueries range hrange _ bag hbag _ hrefused).1, hmatrix, hchecked,
    trivial, (haggregations matrix hmatrix params hchecked _ missing trivial).2 hfirst⟩

end SearchNotation
