import SearchNotation.Proofs.Aggregation.Embedded
import SearchNotation.Proofs.Query.Faults

/-!
# The constructors of the standard aggregations

The standard kinds share four constructors (`Constructed`): most send their parameters as they are,
`filter` holds a query, `filterKinds` several queries, and `rangeKinds` ranges. A constructor fails
in a query that it comes to (`queriesIn`) or with an error that names a kind, and that kind is its
own (`constructorName`), whichever of the kinds that share it is built (`construct_blame`).
-/

set_option autoImplicit false

namespace SearchNotation

/-- The kind that an error names. -/
def CompileError.kind? : CompileError → Option String
  | .missingArgument kind _ | .invalidArgument kind _ _ _ => some kind
  | .missingRangeBound _ | .duplicateName _ | .unreadable _ => none

/-- The maps of named values up to the first value that is no map. -/
def Bag.leadingMaps : Bag → List Bag
  | (_, .nested bag) :: rest => bag :: leadingMaps rest
  | _ => []

namespace AggregationKind

/-! ## Kinds by their constructor -/

/-- The kinds that hold several queries. -/
def filterKinds : List String := ["filters", "adjacency_matrix"]

/-- The kinds that hold ranges. -/
def rangeKinds : List String := ["range", "date_range", "ip_range", "geo_distance"]

theorem ne_filter_of_mem : ∀ name ∈ filterKinds, name ≠ "filter" := by decide

/-- How the body of a kind is built. -/
inductive Constructed (kind : AggregationKind) : Prop
  | plain (h : kind.construct = buildPlain)
      (hname : kind.name ∉ "filter" :: (filterKinds ++ rangeKinds))
  | filter (h : kind.construct = buildFilter) (hname : kind.name = "filter")
  | filters (h : kind.construct = buildFilters) (hname : kind.name ∈ filterKinds)
  | ranges (h : kind.construct = buildRanges) (hname : kind.name ∈ rangeKinds)
      (hrequired : "ranges" ∈ kind.required)

theorem constructed_standard : ∀ kind ∈ standard, kind.Constructed := by
  simp only [standard, List.forall_mem_cons]
  and_intros
  all_goals first
    | exact .plain rfl (by decide)
    | exact .ranges rfl (by decide) (by decide)
    | exact .filters rfl (by decide)
    | exact .filter rfl rfl
    | exact nofun

/-- The queries among the parameters that a constructor comes to. -/
def queriesIn (kind : AggregationKind) (params : Bag) : List Bag :=
  if kind.name = "filter" then [params]
  else if kind.name ∈ filterKinds then
    match params.present? "filters" with
    | some (.nested named) => Bag.leadingMaps named
    | some (.list bags) => bags
    | _ => []
  else []

/-- The kind that the constructor of a kind names. -/
def constructorName (kind : AggregationKind) : String :=
  if kind.name ∈ rangeKinds then "range"
  else if kind.name ∈ filterKinds then "filters"
  else kind.name

/-! ## Errors -/

section
variable {table : QueryTable} {kind : AggregationKind} {params : Bag} {e : CompileError}

theorem namedQueries_of_isFirstOf {named : Bag} (h : e.IsFirstOf table (Bag.leadingMaps named)) :
    (namedQueries table named).result = .error e := by
  induction named with
  | nil => exact absurd h CompileError.not_isFirstOf_nil
  | cons entry rest ih =>
    obtain ⟨name, value⟩ := entry
    cases value with
    | nested bag =>
      rw [Bag.leadingMaps, CompileError.isFirstOf_cons] at h
      rw [namedQueries, Logged.result_bind_eq_error]
      obtain h | ⟨⟨query, hquery⟩, hrest⟩ := h
      · exact .inl h
      · exact .inr ⟨query, hquery, Logged.result_bind_eq_error.2 (.inl (ih hrest))⟩
    | _ => exact absurd h CompileError.not_isFirstOf_nil

/-- Named queries fail as the first query that does, or at a value that is no map. -/
theorem namedQueries_blame {named : Bag} (h : (namedQueries table named).result = .error e) :
    e.IsFirstOf table (Bag.leadingMaps named) ∨ e.kind? = some "filters" ∧ ¬ e.IsMissing := by
  induction named with
  | nil => cases h
  | cons entry rest ih =>
    obtain ⟨name, value⟩ := entry
    cases value with
    | nested bag =>
      rw [Bag.leadingMaps, CompileError.isFirstOf_cons]
      obtain h | ⟨query, hquery, h⟩ := Logged.result_bind_eq_error.1 h
      · exact .inl (.inl h)
      obtain h | ⟨others, -, h⟩ := Logged.result_bind_eq_error.1 h
      · exact (ih h).imp_left fun hrest => .inr ⟨⟨query, hquery⟩, hrest⟩
      · cases h
    | _ => cases h; exact .inr ⟨rfl, id⟩

theorem listedQueries_eq_error_iff {bags : List Bag} :
    (listedQueries table bags).result = .error e ↔ e.IsFirstOf table bags := by
  rw [listedQueries_eq, Logged.result_map_eq_error, CompileError.isFirstOf_iff]

theorem buildFilters_blame (hname : kind.name ∈ filterKinds)
    (h : (buildFilters table params).result = .error e) :
    e.IsFirstOf table (kind.queriesIn params) ∨ e.kind? = some "filters" := by
  rw [queriesIn, if_neg (ne_filter_of_mem _ hname), if_pos hname]
  unfold buildFilters at h
  split at h
  · next named hnamed =>
    rw [hnamed]
    obtain h | ⟨_, -, h⟩ := Logged.result_bind_eq_error.1 h
    · exact (namedQueries_blame (Logged.result_map_eq_error.1 h)).imp_right And.left
    · cases h
  · next bags hlisted =>
    rw [hlisted]
    obtain h | ⟨_, -, h⟩ := Logged.result_bind_eq_error.1 h
    · exact .inl (listedQueries_eq_error_iff.1 (Logged.result_map_eq_error.1 h))
    · cases h
  · cases h; exact .inr rfl
  · cases h; exact .inr rfl

theorem buildRanges_blame (h : (buildRanges table params).result = .error e) :
    e.kind? = some "range" := by
  unfold buildRanges at h
  split at h <;> cases h <;> rfl

/-- **A constructor fails in a query or names its kind**, which several kinds may share. -/
theorem construct_blame (hk : kind ∈ standard)
    (h : (kind.construct table params).result = .error e) :
    e.IsFirstOf table (kind.queriesIn params) ∨ e.kind? = some kind.constructorName := by
  cases constructed_standard kind hk with
  | plain hb =>
    rw [hb] at h
    cases h
  | filter hb hname =>
    rw [hb] at h
    rw [queriesIn, if_pos hname]
    exact .inl ⟨[], params, [], rfl, nofun, Logged.result_map_eq_error.1 h⟩
  | filters hb hname =>
    rw [hb] at h
    have hapart : ∀ name ∈ filterKinds, name ∉ rangeKinds := by decide
    have hout := hapart kind.name hname
    rw [constructorName, if_neg hout, if_pos hname]
    exact buildFilters_blame hname h
  | ranges hb hname =>
    rw [hb] at h
    rw [constructorName, if_pos hname]
    exact .inr (buildRanges_blame h)

/-- The kinds whose constructor names another kind. -/
theorem constructorName_eq_name_iff : kind.constructorName = kind.name ↔
    kind.name ∉ ["adjacency_matrix", "date_range", "geo_distance", "ip_range"] := by
  unfold constructorName
  generalize kind.name = name
  simp only [rangeKinds, filterKinds, List.mem_cons, List.not_mem_nil, or_false]
  grind

end

end AggregationKind

end SearchNotation
