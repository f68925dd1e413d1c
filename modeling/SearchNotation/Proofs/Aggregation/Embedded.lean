import SearchNotation.Aggregation.Standard
import SearchNotation.Proofs.Aggregation.Levels
import SearchNotation.Proofs.Notation.Bag

/-!
# Queries in aggregations

`filter` holds a query, and `filters` and `adjacency_matrix` hold several, by name or in a list
(`Embedded`). What they hold is compiled by the query compiler and by nothing else: a `filter` is
the query of its map, with the same events and the same error (`compile_filter`), and the others
are the queries of all their maps, one after the other (`buildFilters_eq`, `compile_filters`): the
maps compile together, or the first that fails gives the error.
-/

set_option autoImplicit false

namespace SearchNotation

open Aggregation (subKey nameKey)

/-- No key of the bag is reserved. -/
def Bag.Unreserved (bag : Bag) : Prop :=
  Dict.get? bag subKey = none ∧ Dict.get? bag nameKey = none

/-- The kinds that hold queries are the standard ones. -/
def Registry.StandardFilters (registry : Registry) : Prop :=
  ∀ name ∈ ["filter", "filters", "adjacency_matrix"],
    registry.aggregations.lookup? name = AggregationKind.standard? name

/-! ## Queries by name or in a list -/

/-- The maps of several queries as a caller writes them. -/
inductive Embedded where
  | named (bags : Dict Bag)
  | listed (bags : List Bag)

namespace Embedded

def toValue : Embedded → Value
  | .named bags => .nested (Dict.mapValues .nested bags)
  | .listed bags => .list bags

/-- The maps in the order of their names or of the list. -/
def bags : Embedded → List Bag
  | .named bags => bags.map (·.2)
  | .listed bags => bags

/-- Queries under the same names or in a list. -/
def toJson (queries : List Query) : Embedded → Json
  | .named bags => .object ((Dict.keys bags).zip (queries.map Query.toJson))
  | .listed _ => .array (queries.map Query.toJson)

/-- Parameters as the engine takes them, with queries for what is under `filters`. -/
def body (embedded : Embedded) (params : Bag) (queries : List Query) : Json :=
  .object (params.map fun e =>
    (e.1, if e.1 = "filters" then embedded.toJson queries else e.2.toJson))

end Embedded

/-- The queries of maps. -/
def Query.AreOf (table : QueryTable) (bags : List Bag) (queries : List Query) : Prop :=
  List.Forall₂ (fun bag query => (Query.compile table (.map bag)).result = .ok query) bags queries

/-- The first of the maps that does not compile fails with the error. -/
def CompileError.IsFirstOf (table : QueryTable) (bags : List Bag) (e : CompileError) : Prop :=
  ∃ before bag after, bags = before ++ bag :: after ∧
    (∀ b ∈ before, ∃ query, (Query.compile table (.map b)).result = .ok query) ∧
    (Query.compile table (.map bag)).result = .error e

theorem CompileError.isFirstOf_iff {table : QueryTable} {bags : List Bag} {e : CompileError} :
    e.IsFirstOf table bags ↔ (bags.mapM (Query.compileMap table)).result = .error e :=
  Logged.result_mapM_eq_error.symm

theorem CompileError.not_isFirstOf_nil {table : QueryTable} {e : CompileError} :
    ¬ e.IsFirstOf table [] := by
  rw [isFirstOf_iff]
  nofun

theorem CompileError.isFirstOf_cons {table : QueryTable} {bag : Bag} {rest : List Bag}
    {e : CompileError} : e.IsFirstOf table (bag :: rest) ↔
      (Query.compileMap table bag).result = .error e ∨
        (∃ query, (Query.compileMap table bag).result = .ok query) ∧ e.IsFirstOf table rest := by
  rw [isFirstOf_iff, isFirstOf_iff, List.mapM_cons, Logged.result_bind_eq_error]
  refine or_congr_right ?_
  simp only [bind_pure_comp, Logged.result_map_eq_error, exists_and_right]

/-! ## The constructor of several queries -/

namespace AggregationKind

variable {table : QueryTable}

theorem namedQueries_mapValues (named : Dict Bag) :
    namedQueries table (Dict.mapValues .nested named) =
      (fun queries => (Dict.keys named).zip (queries.map Query.toJson)) <$>
        (named.map (·.2)).mapM (Query.compileMap table) := by
  induction named with
  | nil => rfl
  | cons e rest ih =>
    obtain ⟨name, bag⟩ := e
    change namedQueries table ((name, .nested bag) :: Dict.mapValues .nested rest) = _
    rw [namedQueries, ih, List.map_cons, List.mapM_cons]
    simp only [map_eq_pure_bind, bind_assoc, pure_bind]
    rfl

theorem listedQueries_eq (bags : List Bag) : listedQueries table bags =
    (fun queries => queries.map Query.toJson) <$> bags.mapM (Query.compileMap table) := by
  induction bags with
  | nil => rfl
  | cons bag rest ih =>
    rw [listedQueries, ih, List.mapM_cons]
    simp only [map_eq_pure_bind, bind_assoc, pure_bind, List.map_cons]

section
variable {params : Bag} {embedded : Embedded}
  (h : Dict.get? params "filters" = some embedded.toValue)
include h

theorem present?_filters : params.present? "filters" = some embedded.toValue := by
  rw [Bag.present?, h]
  cases embedded <;> rfl

/-- **Several queries are those of their maps**, one after the other; the other parameters stay. -/
theorem buildFilters_eq (hs : Dict.Sorted params) : buildFilters table params =
    embedded.body params <$> embedded.bags.mapM (Query.compileMap table) := by
  have hbody (queries : List Query) : Json.object (Dict.insert
      (Bag.toMembers (Dict.without params ["filters"])) "filters" (embedded.toJson queries)) =
        embedded.body params queries := by
    rw [Bag.toMembers_eq, Dict.insert_without_eq_map hs h, Embedded.body]
  rw [buildFilters, present?_filters h]
  cases embedded with
  | named bags =>
    simp only [Embedded.toValue, namedQueries_mapValues, map_eq_pure_bind, bind_assoc, pure_bind,
      ← hbody]
    rfl
  | listed bags =>
    simp only [Embedded.toValue, listedQueries_eq, map_eq_pure_bind, bind_assoc, pure_bind,
      ← hbody]
    rfl

end

end AggregationKind

/-! ## One aggregation -/

namespace Aggregation

variable {registry : Registry} {kind : AggregationKind} {params : Bag}

theorem compile_single {key : String} (hk : registry.aggregations.lookup? key = some kind)
    (value : Value) : compile registry (.map [(key, value)]) =
      (fun a => [a]) <$> ofValue registry kind value := by
  change (ofEntries registry [(key, value)] >>= fun siblings =>
    Logged.ofExcept (distinct siblings)) = _
  rw [ofEntries_known hk, ofEntries]
  simp only [map_eq_pure_bind, bind_assoc, pure_bind]
  rfl

theorem plan_of_unreserved (h : params.Unreserved) :
    plan kind (.nested params) = .ok ⟨kind.name, params, .null⟩ := by
  have hname : resultName kind params = .ok kind.name := by
    rw [resultName, Bag.present?, h.2]
    rfl
  have hsub : subOf kind params = .ok .null := by
    rw [subOf, h.1]
  have hparams : Dict.without params [subKey, nameKey] = params :=
    Dict.without_eq_self (List.forall_mem_cons.2 ⟨h.1, List.forall_mem_singleton.2 h.2⟩)
  rw [plan_nested hname hsub, hparams]

/-- Without reserved keys, an entry is its kind's body for its parameters. -/
theorem ofValue_of_unreserved (h : params.Unreserved) (hc : checkParams kind params = .ok ()) :
    ofValue registry kind (.nested params) =
      (fun body => ⟨kind.name, kind.name, params, [], kind.engineName, body⟩) <$>
        kind.construct registry.queries params := by
  rw [ofValue_eq, plan_of_unreserved h, map_eq_pure_bind]
  change build registry kind kind.name params [] = _
  rw [build, hc]
  rfl

section
variable (hR : registry.StandardFilters)
include hR

/-- **A filter is its query**, with the same events and the same error. -/
theorem compile_filter {bag : Bag} (h : bag.Unreserved) :
    compile registry (.map [("filter", .nested bag)]) =
      (fun query => [⟨"filter", "filter", bag, [], "filter", query.toJson⟩]) <$>
        Query.compile registry.queries (.map bag) := by
  have hk : registry.aggregations.lookup? "filter" =
      some (.sameName "filter" [] [] AggregationKind.buildFilter) := hR _ (by decide)
  rw [compile_single hk, ofValue_of_unreserved h rfl]
  simp only [AggregationKind.sameName, AggregationKind.buildFilter, Functor.map_map]
  rfl

/-- **Filters are the queries of their maps**, one after the other. -/
theorem compile_filters {name : String} (hn : name ∈ ["filters", "adjacency_matrix"])
    {embedded : Embedded} (hs : Dict.Sorted params) (h : params.Unreserved)
    (hf : Dict.get? params "filters" = some embedded.toValue) :
    compile registry (.map [(name, .nested params)]) =
      (fun queries => [⟨name, name, params, [], name, embedded.body params queries⟩]) <$>
        embedded.bags.mapM (Query.compileMap registry.queries) := by
  have hk : registry.aggregations.lookup? name =
      some (.sameName name ["filters"] [] AggregationKind.buildFilters) := by
    rw [hR name (.tail _ hn)]
    rcases List.mem_cons.1 hn with rfl | hn
    · rfl
    · rw [List.mem_singleton.1 hn]
      rfl
  have hc : checkParams (.sameName name ["filters"] [] AggregationKind.buildFilters) params =
      .ok () := by
    simp [checkParams, AggregationKind.sameName, Bag.hasPresent,
      AggregationKind.present?_filters hf]
  rw [compile_single hk, ofValue_of_unreserved h hc]
  simp only [AggregationKind.sameName, AggregationKind.buildFilters_eq hf hs, Functor.map_map]

/-- **Queries in aggregations mean what the query compiler says.** A filter is the query of its map.
Several filters compile exactly if every map does, to an aggregation with the query of each map in
its place and all other parameters unchanged, and otherwise fail as the first map that fails. -/
theorem compile_embedded :
    (∀ bag : Bag, bag.Unreserved →
      compile registry (.map [("filter", .nested bag)]) =
        (fun query => [⟨"filter", "filter", bag, [], "filter", query.toJson⟩]) <$>
          Query.compile registry.queries (.map bag)) ∧
    ∀ name ∈ ["filters", "adjacency_matrix"], ∀ (params : Bag) (embedded : Embedded),
      Dict.Sorted params → params.Unreserved →
      Dict.get? params "filters" = some embedded.toValue →
      (∀ siblings, (compile registry (.map [(name, .nested params)])).result = .ok siblings ↔
        ∃ queries, Query.AreOf registry.queries embedded.bags queries ∧
          siblings = [⟨name, name, params, [], name, embedded.body params queries⟩]) ∧
      ∀ e, (compile registry (.map [(name, .nested params)])).result = .error e ↔
        e.IsFirstOf registry.queries embedded.bags := by
  refine ⟨fun bag h => compile_filter hR h, fun name hn params embedded hs h hf => ?_⟩
  rw [compile_filters hR hn hs h hf]
  constructor
  · intro siblings
    rw [Logged.result_map_eq_ok]
    simp only [Logged.result_mapM_eq_ok, eq_comm (b := siblings)]
    rfl
  · intro e
    rw [Logged.result_map_eq_error, Logged.result_mapM_eq_error]
    rfl

end

/-- The kinds that hold queries, and two kinds of queries. -/
def filtersOnly : Registry :=
  ⟨⟨[("range", ⟨"range", [], .ternary, "field", false, QueryKind.buildRange⟩),
      ("term", .binary .term [])], [], []⟩,
    [("adjacency_matrix",
        .sameName "adjacency_matrix" ["filters"] [] AggregationKind.buildFilters),
      ("filter", .sameName "filter" [] [] AggregationKind.buildFilter),
      ("filters", .sameName "filters" ["filters"] [] AggregationKind.buildFilters)]⟩

/-- A query, two queries by name beside another parameter, and a list of which the second and the
third map do not compile. -/
theorem compile_embedded_adults :
    let own : Bag := [("brand", .ofString "x")]
    let adults : Bag := [("age", .nested [("gte", .ofString "18")])]
    let boundless : Bag := [("range", .nested [("field", .ofString "age")])]
    let ownJson : Json := .object [("term", .object [("brand", .object [("value", .string "x")])])]
    let adultsJson : Json := .object [("range", .object [("age", .object [("gte", .string "18")])])]
    let named : Embedded := .named [("adults", adults), ("own", own)]
    let listed : Embedded := .listed [own, boundless, [("term", .scalar .null)]]
    let params (embedded : Embedded) : Bag :=
      [("filters", embedded.toValue), ("other_bucket", .scalar (.bool true))]
    filtersOnly.StandardFilters ∧ Bag.Unreserved own ∧ (∀ embedded,
      Dict.Sorted (params embedded) ∧ Bag.Unreserved (params embedded) ∧
        Dict.get? (params embedded) "filters" = some embedded.toValue) ∧
    (compile filtersOnly (.map [("filter", .nested own)])).result =
      .ok [⟨"filter", "filter", own, [], "filter", ownJson⟩] ∧
    (compile filtersOnly (.map [("filters", .nested (params named))])).result =
      .ok [⟨"filters", "filters", params named, [], "filters", .object
        [("filters", .object [("adults", adultsJson), ("own", ownJson)]),
          ("other_bucket", .bool true)]⟩] ∧
    (compile filtersOnly (.map [("adjacency_matrix", .nested (params listed))])).result =
      .error (.missingRangeBound "age") := by
  intro own adults boundless ownJson adultsJson named listed params
  have hR : filtersOnly.StandardFilters := by
    intro name hn
    simp only [List.mem_cons, List.not_mem_nil, or_false] at hn
    rcases hn with rfl | rfl | rfl <;> rfl
  have hown : Bag.Unreserved own := ⟨rfl, rfl⟩
  have hparams (embedded : Embedded) : Dict.Sorted (params embedded) ∧
      Bag.Unreserved (params embedded) ∧
        Dict.get? (params embedded) "filters" = some embedded.toValue := by
    have hlt : "filters" < "other_bucket" := by decide
    have hlast : Dict.Sorted [("other_bucket", Value.scalar (.bool true))] :=
      Dict.sorted_cons.2 ⟨nofun, Dict.sorted_nil⟩
    exact ⟨Dict.sorted_cons.2 ⟨List.forall_mem_singleton.2 hlt, hlast⟩, ⟨rfl, rfl⟩, rfl⟩
  obtain ⟨hfilter, hfilters⟩ := compile_embedded hR
  obtain ⟨hs, hu, hf⟩ := hparams named
  obtain ⟨hs', hu', hf'⟩ := hparams listed
  have hnamed := (hfilters "filters" (.head _) (params named) named hs hu hf).1
  have hlisted := (hfilters "adjacency_matrix" (.tail _ (.head _)) (params listed) listed hs' hu'
    hf').2
  refine ⟨hR, hown, hparams, ?_, (hnamed _).2 ⟨_, .cons rfl (.cons rfl .nil), rfl⟩, ?_⟩
  · rw [hfilter own hown]
    rfl
  · exact (hlisted _).2 ⟨[own], boundless, _, rfl, List.forall_mem_singleton.2 ⟨_, rfl⟩, rfl⟩

end Aggregation

end SearchNotation
