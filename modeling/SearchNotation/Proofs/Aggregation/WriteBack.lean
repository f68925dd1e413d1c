import SearchNotation.Proofs.Aggregation.Levels
import SearchNotation.Proofs.Registry.Lookup

/-!
# Writing aggregations back

`Aggregation.toBag` writes an aggregation as explicit notation: one entry under the name of its
kind, which holds the parameters, the name of the result and, if there are any, the maps of the
sub-aggregations. Compiling what was written gives the same aggregations, wherever kinds are found
under their own names (`compile_toNotation_of_named`), as they are in every registry that is built.

A plan has no reserved key among its parameters (`without_params`), so the keys that are written
beside them are those that are read again: the plan of what was written is the aggregation's own
(`plan_writtenBag`). The induction goes over the levels of the notation that was compiled.
-/

set_option autoImplicit false

namespace SearchNotation

namespace Aggregation

/-! ## The notation of a tree -/

/-- The keys that are not parameters. -/
def reserved : List String := [subKey, nameKey]

/-- Parameters with a name for the result and, if there are any, maps of sub-aggregations. -/
def writtenBag (params : Bag) (name : String) (below : List Bag) : Bag :=
  let named := Dict.insert params nameKey (.ofString name)
  if below.isEmpty then named else Dict.insert named subKey (.list below)

mutual

/-- The map that an aggregation is written as. -/
def toBag : Aggregation → Bag
  | ⟨kind, name, params, children, _, _⟩ =>
    [(kind, .nested (writtenBag params name (toBags children)))]
  termination_by structural aggregation => aggregation

/-- The maps of siblings. -/
def toBags : List Aggregation → List Bag
  | [] => []
  | aggregation :: rest => toBag aggregation :: toBags rest
  termination_by structural aggregations => aggregations

end

theorem toBag_eq (a : Aggregation) :
    a.toBag = [(a.kind, .nested (writtenBag a.params a.name (toBags a.children)))] := by
  obtain ⟨kind, name, params, children, engineName, body⟩ := a
  rw [toBag]

/-- The notation of siblings. -/
def toNotation (siblings : List Aggregation) : Notation := .list (toBags siblings)

/-! ## Reserved keys -/

/-- A plan has no reserved key among its parameters. -/
theorem without_params {kind : AggregationKind} {value : Value} {p : Plan}
    (h : plan kind value = .ok p) : Dict.without p.params reserved = p.params := by
  cases value with
  | scalar s => cases s <;> cases h <;> rfl
  | array items => cases h
  | list bags => cases h
  | nested bag =>
    obtain ⟨name, -, h⟩ := Except.bind_eq_ok.1 h
    obtain ⟨sub, -, h⟩ := Except.bind_eq_ok.1 h
    cases h
    exact Dict.without_without bag

section
variable {params : Bag} (name : String) (below : List Bag)

theorem without_writtenBag :
    Dict.without (writtenBag params name below) reserved = Dict.without params reserved := by
  have hname : nameKey ∈ reserved := by decide
  have hsub : subKey ∈ reserved := by decide
  unfold writtenBag
  split
  · rw [Dict.without_insert _ hname]
  · rw [Dict.without_insert _ hsub, Dict.without_insert _ hname]

theorem get?_writtenBag_nameKey :
    Dict.get? (writtenBag params name below) nameKey = some (.ofString name) := by
  have hne : subKey ≠ nameKey := by decide
  unfold writtenBag
  split
  · rw [Dict.get?_insert_self]
  · rw [Dict.get?_insert_of_ne _ _ hne, Dict.get?_insert_self]

theorem get?_writtenBag_subKey (h : Dict.get? params subKey = none) :
    Dict.get? (writtenBag params name below) subKey =
      if below.isEmpty then none else some (.list below) := by
  have hne : nameKey ≠ subKey := by decide
  unfold writtenBag
  split
  · rw [Dict.get?_insert_of_ne _ _ hne, h]
  · rw [Dict.get?_insert_self]

/-- **The plan of what was written**: the name, the parameters and the maps that it was written
from. -/
theorem plan_writtenBag (kind : AggregationKind) (h : Dict.without params reserved = params) :
    plan kind (.nested (writtenBag params name below)) =
      .ok ⟨name, params, if below.isEmpty then .null else .list below⟩ := by
  have hname : resultName kind (writtenBag params name below) = .ok name := by
    rw [resultName, Bag.present?, get?_writtenBag_nameKey]
    rfl
  have hfree : Dict.get? params subKey = none := by
    rw [← h]
    exact Dict.get?_without (by decide)
  have hsub : subOf kind (writtenBag params name below) =
      .ok (if below.isEmpty then .null else .list below) := by
    rw [subOf, get?_writtenBag_subKey name below hfree]
    cases below <;> rfl
  have hparams : Dict.without (writtenBag params name below) [subKey, nameKey] = params :=
    (without_writtenBag name below).trans h
  rw [plan_nested hname hsub, hparams]

end

/-! ## Compiling it again -/

section
variable {registry : Registry}

/-- Siblings are compiled again one by one. -/
theorem ofEntries_toBags {siblings : List Aggregation}
    (h : ∀ a ∈ siblings, (ofEntries registry a.toBag).result = .ok [a]) :
    (ofEntries registry (toNotation siblings).entries).result = .ok siblings := by
  change (ofEntries registry (toBags siblings).flatten).result = .ok siblings
  induction siblings with
  | nil => rfl
  | cons a rest ih =>
    obtain ⟨ha, hrest⟩ := List.forall_mem_cons.1 h
    rw [toBags, List.flatten_cons, ofEntries_append]
    refine Logged.result_bind_eq_ok.2 ⟨[a], ha, ?_⟩
    exact Logged.result_bind_eq_ok.2 ⟨rest, ih hrest, rfl⟩

/-- What realizes a plan is compiled again if its sub-aggregations are. -/
theorem Realizes.ofEntries_toBag {kind : AggregationKind} {value : Value} {p : Plan}
    {a : Aggregation} (hk : registry.aggregations.lookup? a.kind = some kind)
    (hp : plan kind value = .ok p) (hr : Realizes registry kind p a)
    (hbelow : (compile registry (toNotation a.children)).result = .ok a.children) :
    (ofEntries registry a.toBag).result = .ok [a] := by
  have hfree : Dict.without a.params reserved = a.params := by
    rw [hr.params]
    exact without_params hp
  have hchildren : (compile registry (if (toBags a.children).isEmpty then .null
      else .list (toBags a.children))).result = .ok a.children := by
    cases hc : a.children with
    | nil => rfl
    | cons child others =>
      rw [hc] at hbelow
      exact hbelow
  have hagain : Realizes registry kind ⟨a.name, a.params,
      if (toBags a.children).isEmpty then .null else .list (toBags a.children)⟩ a :=
    { kindName := hr.kindName
      name := rfl
      params := rfl
      children := hchildren
      engineName := hr.engineName
      checked := hr.params ▸ hr.checked
      body := hr.params ▸ hr.body }
  have hvalue : (ofValue registry kind
      (.nested (writtenBag a.params a.name (toBags a.children)))).result = .ok a :=
    ofValue_eq_ok_iff.2 ⟨_, plan_writtenBag a.name _ kind hfree, hagain⟩
  rw [toBag_eq]
  refine ofEntries_eq_ok_iff.2 ?_
  rw [known_of_lookup? hk]
  exact .cons hvalue .nil

/-- **Where kinds are found under their own names**, what compiles is written back and compiled
again without a difference. -/
theorem compile_toNotation_of_named (hT : registry.aggregations.Named) (n : Notation) :
    ∀ {roots : List Aggregation}, (compile registry n).result = .ok roots →
      (compile registry (toNotation roots)).result = .ok roots := by
  induction n using levelInduction with
  | step n ih =>
  intro roots h
  obtain ⟨ho, hnames⟩ := compile_eq_ok_iff.1 h
  refine compile_eq_ok_iff.2 ⟨ofEntries_toBags fun a ha => ?_, hnames⟩
  obtain ⟨key, value, kind, p, he, hk, hp, hr⟩ := exists_plan_of_mem ho ha
  have hkind : a.kind = key := hr.kindName.trans (hT hk)
  exact hr.ofEntries_toBag (hkind ▸ hk) hp (ih (key, value) he kind p hp hr.children)

end

/-! ## Standard kinds -/

/-- **Aggregations over standard kinds are written back and compiled again without a difference**:
the same kinds, names, parameters, children, engine's names and bodies in the same order. -/
theorem compile_toNotation_standardWithout (disabledQueries disabledAggregations : List String)
    {n : Notation} {roots : List Aggregation}
    (h : (compile (Registry.standardWithout disabledQueries disabledAggregations).1 n).result =
      .ok roots) :
    (compile (Registry.standardWithout disabledQueries disabledAggregations).1
      (toNotation roots)).result = .ok roots :=
  compile_toNotation_of_named (AggregationTable.named_build _) n h

/-- Sub-aggregations in a list, of which one has a name of its own and an embedded query and one is
disabled, beside an aggregation without parameters. -/
def brandsNotation : Notation :=
  .list [
    [("terms", .nested [("aggregation_key", .ofString "brands"), ("field", .ofString "brand"),
      ("sub", .list [[("avg", .ofString "price"), ("max", .ofString "price")],
        [("filter", .nested [("age", .nested [("gte", .ofString "18")]),
          ("aggregation_key", .ofString "adults"),
          ("sub", .nested [("avg", .ofString "price")])])]])])],
    [("global", .scalar .null)]]

/-- What it compiles to. -/
def brands : List Aggregation :=
  let average : Aggregation := ⟨"avg", "avg", [("field", .ofString "price")], [], "avg",
    .object [("field", .string "price")]⟩
  let adults : Aggregation := ⟨"filter", "adults", [("age", .nested [("gte", .ofString "18")])],
    [average], "filter",
    .object [("range", .object [("age", .object [("gte", .string "18")])])]⟩
  [⟨"terms", "brands", [("field", .ofString "brand")], [average, adults], "terms",
      .object [("field", .string "brand")]⟩,
    ⟨"global", "global", [], [], "global", .object []⟩]

theorem compile_toNotation_brands :
    (compile (Registry.standardWithout ["term"] ["max"]).1 brandsNotation).result = .ok brands ∧
    (compile (Registry.standardWithout ["term"] ["max"]).1 (toNotation brands)).result =
      .ok brands := by
  have h : (compile (Registry.standardWithout ["term"] ["max"]).1 brandsNotation).result =
      .ok brands := rfl
  exact ⟨h, compile_toNotation_standardWithout ["term"] ["max"] h⟩

end Aggregation

end SearchNotation
