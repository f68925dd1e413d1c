import SearchNotation.Proofs.Aggregation.Constructors
import SearchNotation.Proofs.Registry.Lookup

/-!
# The kind that an error names

What goes wrong with an aggregation goes wrong in its plan, below it, in the check of its
parameters, in a query that it holds or in its constructor. Plan and check name the kind that is
built. A constructor names a kind of its own (`AggregationKind.constructorName`), so where several
kinds share one, the error of a date range is about a range (`kind?_of_compile_eq_error`).
-/

set_option autoImplicit false

namespace SearchNotation

open Aggregation (plan checkParams)

/-- The parameters pass the check, so the constructor is next. -/
def AggregationKind.Reaches (kind : AggregationKind) (value : Value) : Prop :=
  ∃ p, plan kind value = .ok p ∧ checkParams kind p.params = .ok ()

namespace Aggregation

/-- The error is that of the sub-aggregations. -/
def FailsBelow (registry : Registry) (kind : AggregationKind) (value : Value) (e : CompileError) :
    Prop :=
  ∃ p, plan kind value = .ok p ∧ (compile registry p.sub).result = .error e

/-- The error is that of a query among the parameters. -/
def FailsInQuery (registry : Registry) (kind : AggregationKind) (value : Value)
    (e : CompileError) : Prop :=
  ∃ p, plan kind value = .ok p ∧ checkParams kind p.params = .ok () ∧
    e.IsFirstOf registry.queries (kind.queriesIn p.params)

/-! ## Plan and check -/

variable {registry : Registry} {kind : AggregationKind} {value : Value} {e : CompileError}

theorem kind?_of_plan_eq_error (h : plan kind value = .error e) : e.kind? = some kind.name := by
  cases value with
  | scalar s => cases s <;> cases h
  | array items => cases h; rfl
  | list bags => cases h; rfl
  | nested bag =>
    obtain hname | ⟨name, -, h⟩ := Except.bind_eq_error.1 h
    · unfold resultName at hname
      split at hname <;> cases hname
      rfl
    obtain hsub | ⟨sub, -, h⟩ := Except.bind_eq_error.1 h
    · unfold subOf at hsub
      split at hsub
      · cases hsub
      · unfold subNotation at hsub
        split at hsub <;> cases hsub
        rfl
    · cases h

theorem kind?_of_checkParams_eq_error {params : Bag} (h : checkParams kind params = .error e) :
    e.kind? = some kind.name := by
  unfold checkParams at h
  split at h
  · cases h; rfl
  · split at h <;> cases h
    rfl

/-! ## One aggregation -/

/-- **An error names the kind that is built, unless the constructor of another kind reports it.**
Errors of sub-aggregations and of queries among the parameters are their own. -/
theorem kind?_of_compile_eq_error (hk : kind ∈ AggregationKind.standard)
    (hl : registry.aggregations.lookup? kind.name = some kind)
    (h : (compile registry (.map [(kind.name, value)])).result = .error e)
    (hbelow : ¬ FailsBelow registry kind value e) (hquery : ¬ FailsInQuery registry kind value e) :
    (kind.Reaches value → e.kind? = some kind.constructorName) ∧
    (¬ kind.Reaches value → e.kind? = some kind.name) ∧
    (e.kind? = some kind.name ↔ ¬ (kind.Reaches value ∧
      kind.name ∈ ["adjacency_matrix", "date_range", "geo_distance", "ip_range"])) := by
  rw [compile_single hl, Logged.result_map_eq_error] at h
  have hreached (hr : kind.Reaches value) : e.kind? = some kind.constructorName := by
    -- Plan and check are passed, so what is left is the constructor.
    obtain ⟨p, hp, hc⟩ := hr
    obtain h | ⟨p', hp', h⟩ := ofValue_eq_error h
    · cases hp.symm.trans h
    cases hp.symm.trans hp'
    obtain h | h | ⟨-, h⟩ := h
    · exact absurd ⟨p, hp, h⟩ hbelow
    · cases hc.symm.trans h
    · obtain h | h := AggregationKind.construct_blame hk h
      · exact absurd ⟨p, hp, hc, h⟩ hquery
      · exact h
  have hstopped (hr : ¬ kind.Reaches value) : e.kind? = some kind.name := by
    obtain h | ⟨p, hp, h | h | ⟨hc, -⟩⟩ := ofValue_eq_error h
    · exact kind?_of_plan_eq_error h
    · exact absurd ⟨p, hp, h⟩ hbelow
    · exact kind?_of_checkParams_eq_error h
    · exact absurd ⟨p, hp, hc⟩ hr
  refine ⟨hreached, hstopped, ?_⟩
  by_cases hr : kind.Reaches value
  · rw [hreached hr, Option.some_inj, AggregationKind.constructorName_eq_name_iff]
    simp [hr]
  · simp [hstopped hr, hr]

/-- A date range with a flag for its ranges: nothing is below it and it holds no query, but the
error is about a range. -/
theorem kind?_ne_date_range :
    let kind : AggregationKind :=
      .sameName "date_range" ["field", "ranges"] [] AggregationKind.buildRanges
    let value : Value := .nested [("field", .ofString "d"), ("ranges", .scalar (.bool true))]
    kind ∈ AggregationKind.standard ∧
    (compile Registry.standard (.map [("date_range", value)])).result =
      .error (.invalidArgument "range" "ranges" .objectOrList .scalar) ∧
    ¬ FailsBelow Registry.standard kind value
      (.invalidArgument "range" "ranges" .objectOrList .scalar) ∧
    ¬ FailsInQuery Registry.standard kind value
      (.invalidArgument "range" "ranges" .objectOrList .scalar) ∧
    (CompileError.invalidArgument "range" "ranges" .objectOrList .scalar).kind? ≠
      some kind.name := by
  intro kind value
  have hk : kind ∈ AggregationKind.standard := by simp [kind, AggregationKind.standard]
  have hl : Registry.standard.aggregations.lookup? "date_range" = some kind := by
    rw [Registry.standard, Registry.aggregations_lookup?_standardWithout]
    rfl
  have hplan : plan kind value = .ok ⟨"date_range", [("field", .ofString "d"),
      ("ranges", .scalar (.bool true))], .null⟩ := rfl
  refine ⟨hk, ?_, ?_, ?_, by decide⟩
  · rw [compile_single hl]
    rfl
  · rintro ⟨p, hp, h⟩
    cases hplan.symm.trans hp
    cases h
  · rintro ⟨p, hp, -, before, bag, after, hsplit, -⟩
    cases hplan.symm.trans hp
    cases before <;> cases hsplit

/-- Only adjacencies are in use. -/
def adjacenciesOnly : Registry :=
  ⟨.empty, [("adjacency_matrix",
    .sameName "adjacency_matrix" ["filters"] [] AggregationKind.buildFilters)]⟩

/-- Adjacencies with others below: without `filters` the error names the kind, and with a second
filter that is no map it names `filters`. -/
theorem kind?_of_adjacency :
    let kind : AggregationKind :=
      .sameName "adjacency_matrix" ["filters"] [] AggregationKind.buildFilters
    let own : Bag := [("brand", .ofString "x")]
    let below : Bag := [("adjacency_matrix", .nested [("filters", .nested [("a", .nested own)])])]
    let value (name : String) : Value := .nested
      [(name, .nested [("a", .nested own), ("b", .scalar .null)]), ("sub", .nested below)]
    let missing : CompileError := .missingArgument "adjacency_matrix" "filters"
    let misnamed : CompileError := .invalidArgument "filters" "filters.b" .object .null
    kind ∈ AggregationKind.standard ∧
    adjacenciesOnly.aggregations.lookup? kind.name = some kind ∧
    (compile adjacenciesOnly (.map [(kind.name, value "filter")])).result = .error missing ∧
    ¬ FailsBelow adjacenciesOnly kind (value "filter") missing ∧
    ¬ FailsInQuery adjacenciesOnly kind (value "filter") missing ∧
    (compile adjacenciesOnly (.map [(kind.name, value "filters")])).result = .error misnamed ∧
    ¬ FailsBelow adjacenciesOnly kind (value "filters") misnamed ∧
    ¬ FailsInQuery adjacenciesOnly kind (value "filters") misnamed ∧
    missing.kind? = some kind.name ∧ misnamed.kind? = some kind.constructorName ∧
    misnamed.kind? ≠ some kind.name := by
  intro kind own below value missing misnamed
  have hk : kind ∈ AggregationKind.standard := by simp [kind, AggregationKind.standard]
  have hl : adjacenciesOnly.aggregations.lookup? kind.name = some kind := rfl
  let p (name : String) : Plan := ⟨kind.name, [(name, .nested [("a", .nested own),
    ("b", .scalar .null)])], .map below⟩
  have hfilter : plan kind (value "filter") = .ok (p "filter") := rfl
  have hfilters : plan kind (value "filters") = .ok (p "filters") := rfl
  have hsub (e : CompileError) : (compile adjacenciesOnly (.map below)).result ≠ .error e := by
    intro h
    cases h
  have hmissing : (compile adjacenciesOnly (.map [(kind.name, value "filter")])).result =
      .error missing := rfl
  have hmisnamed : (compile adjacenciesOnly (.map [(kind.name, value "filters")])).result =
      .error misnamed := rfl
  have hbelow : ¬ FailsBelow adjacenciesOnly kind (value "filter") missing := by
    rintro ⟨p', hp, h⟩
    cases hfilter.symm.trans hp
    exact hsub _ h
  have hbelow' : ¬ FailsBelow adjacenciesOnly kind (value "filters") misnamed := by
    rintro ⟨p', hp, h⟩
    cases hfilters.symm.trans hp
    exact hsub _ h
  have hquery : ¬ FailsInQuery adjacenciesOnly kind (value "filter") missing := by
    rintro ⟨p', hp, hc, -⟩
    cases hfilter.symm.trans hp
    cases hc
  have hquery' : ¬ FailsInQuery adjacenciesOnly kind (value "filters") misnamed := by
    rintro ⟨p', hp, -, before, bag, after, hsplit, -, h⟩
    cases hfilters.symm.trans hp
    -- The only query that is reached compiles.
    have hqueries : kind.queriesIn (p "filters").params = [own] := rfl
    have hbag : bag ∈ [own] := by
      rw [← hqueries, hsplit]
      simp
    cases List.mem_singleton.1 hbag
    cases h
  have hstopped : ¬ kind.Reaches (value "filter") := by
    rintro ⟨p', hp, hc⟩
    cases hfilter.symm.trans hp
    cases hc
  have hblame := kind?_of_compile_eq_error hk hl hmissing hbelow hquery
  have hblame' := kind?_of_compile_eq_error hk hl hmisnamed hbelow' hquery'
  refine ⟨hk, hl, hmissing, hbelow, hquery, hmisnamed, hbelow', hquery', hblame.2.1 hstopped,
    hblame'.1 ⟨p "filters", hfilters, rfl⟩, ?_⟩
  rw [Ne, hblame'.2.2, not_not]
  exact ⟨⟨p "filters", hfilters, rfl⟩, .head _⟩

end Aggregation

end SearchNotation
