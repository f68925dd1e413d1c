import SearchNotation.Aggregation.Kind
import SearchNotation.Query.Compile

/-!
# The standard aggregation kinds

Most kinds send their parameters as they are. `filter`, `filters` and `adjacency_matrix` hold
queries, which are compiled; the kinds of ranges always send a list of them.
-/

set_option autoImplicit false

namespace SearchNotation

namespace AggregationKind

/-! ## Constructors -/

/-- The parameters as they are. -/
def buildPlain (_ : QueryTable) (bag : Bag) : Logged Json := pure bag.toJson

/-- The parameters are a query. -/
def buildFilter (table : QueryTable) (bag : Bag) : Logged Json :=
  Query.toJson <$> Query.compileMap table bag

/-- The queries of a map of maps, by name. -/
def namedQueries (table : QueryTable) : Bag → Logged (Dict Json)
  | [] => pure []
  | (name, .nested bag) :: rest => do
    let query ← Query.compileMap table bag
    let others ← namedQueries table rest
    return (name, query.toJson) :: others
  | (name, value) :: _ =>
    Logged.fail (.invalidArgument "filters" ("filters." ++ name) .object value.shape)

/-- The queries of a list of maps. -/
def listedQueries (table : QueryTable) : List Bag → Logged (List Json)
  | [] => pure []
  | bag :: rest => do
    let query ← Query.compileMap table bag
    let others ← listedQueries table rest
    return query.toJson :: others

/-- Under `filters` stand queries by name or in a list. -/
def buildFilters (table : QueryTable) (bag : Bag) : Logged Json := do
  let queries ← match bag.present? "filters" with
    | some (.nested named) => Json.object <$> namedQueries table named
    | some (.list bags) => Json.array <$> listedQueries table bags
    | some other => Logged.fail (.invalidArgument "filters" "filters" .objectOrList other.shape)
    | none => Logged.fail (.missingArgument "filters" "filters")
  return .object (Dict.insert (Bag.toMembers (Dict.without bag ["filters"])) "filters" queries)

/-- Under `ranges` stands one range or a list of them. -/
def buildRanges (_ : QueryTable) (bag : Bag) : Logged Json := do
  let ranges ← match bag.present? "ranges" with
    | some (.nested range) => pure [Bag.toJson range]
    | some (.list bags) => pure (bags.map Bag.toJson)
    | some other => Logged.fail (.invalidArgument "range" "ranges" .objectOrList other.shape)
    | none => Logged.fail (.missingArgument "range" "ranges")
  let others := Bag.toMembers (Dict.without bag ["ranges"])
  return .object (Dict.insert others "ranges" (.array ranges))

/-! ## The list -/

/-- A kind that the engine knows under the same name. -/
def sameName (name : String) (required oneOf : List String)
    (construct : QueryTable → Bag → Logged Json) : AggregationKind :=
  ⟨name, name, required, oneOf, construct⟩

/-- The parameters of which a metric needs one. -/
def metricSources : List String := ["field", "script"]

/-- A kind that computes something from a field or a script. -/
def metric (name : String) : AggregationKind := sameName name [] metricSources buildPlain

/-- A kind that sends its parameters as they are, if the required ones are there. -/
def plain (name : String) (required : List String) : AggregationKind :=
  sameName name required [] buildPlain

/-- The kinds that are known. -/
def standard : List AggregationKind := [
  sameName "adjacency_matrix" ["filters"] [] buildFilters,
  metric "avg",
  metric "cardinality",
  ⟨"count", "value_count", [], metricSources, buildPlain⟩,
  sameName "date_histogram" ["field"] ["interval", "calendar_interval", "fixed_interval"]
    buildPlain,
  sameName "date_range" ["field", "ranges"] [] buildRanges,
  metric "diversified_sampler",
  metric "extended_stats",
  sameName "filter" [] [] buildFilter,
  sameName "filters" ["filters"] [] buildFilters,
  plain "geo_bounds" ["field"],
  plain "geo_centroid" ["field"],
  sameName "geo_distance" ["field", "origin", "ranges"] [] buildRanges,
  plain "geohash_grid" ["field"],
  plain "global" [],
  plain "histogram" ["field", "interval"],
  sameName "ip_range" ["field", "ranges"] [] buildRanges,
  metric "max",
  metric "min",
  plain "missing" ["field"],
  plain "nested" ["path"],
  metric "percentiles",
  plain "percentile_ranks" ["field", "values"],
  sameName "range" ["field", "ranges"] [] buildRanges,
  plain "reverse_nested" [],
  plain "sampler" [],
  plain "scripted_metric" ["map_script"],
  plain "significant_terms" ["field"],
  plain "significant_text" ["field"],
  metric "stats",
  metric "sum",
  metric "terms",
  plain "top_hits" [],
  plain "weighted_avg" ["value", "weight"]]

/-- The standard kind with a name. -/
def standard? (name : String) : Option AggregationKind := standard.find? (·.name = name)

end AggregationKind

end SearchNotation
