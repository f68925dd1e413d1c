import SearchNotation.Aggregation.Standard
import SearchNotation.Query.BuilderName
import SearchNotation.Registry.Basic

/-!
# Building registries

A registry is built from candidates in their order, less the disabled ones. The first candidate
that claims a name keeps it; a name that is claimed again, an empty name and a disabled name that
no candidate has are warned about and otherwise passed over.
-/

set_option autoImplicit false

namespace SearchNotation

/-- The two families of kinds. -/
inductive Family where
  | query
  | aggregation
  deriving DecidableEq, Repr

/-- The name of a family. -/
def Family.name : Family → String
  | .query => "query"
  | .aggregation => "aggregation"

/-- Something that is wrong with a candidate or a disabled name. -/
inductive RegistryWarning where
  | emptyName (family : Family)
  | duplicateKind (family : Family) (name : String)
  | unknownDisabledKind (family : Family) (name : String)
  deriving DecidableEq, Repr

namespace RegistryWarning

/-- The family that a warning is about. -/
def family : RegistryWarning → Family
  | .emptyName f | .duplicateKind f _ | .unknownDisabledKind f _ => f

/-- The name that a warning is about. -/
def name? : RegistryWarning → Option String
  | .emptyName _ => none
  | .duplicateKind _ name | .unknownDisabledKind _ name => some name

/-- The message of a warning. -/
def message : RegistryWarning → String
  | .emptyName f => s!"skipped {f.name} kind with an empty name"
  | .duplicateKind f name => s!"{f.name} kind '{name}' is registered more than once"
  | .unknownDisabledKind f name => s!"cannot disable unknown {f.name} kind '{name}'"

end RegistryWarning

/-! ## Registering one candidate -/

namespace QueryTable

/-- Registers other names of a kind, except those that are in use. -/
def registerOtherNames (table : QueryTable) (name : String) :
    List String → QueryTable × List RegistryWarning
  | [] => (table, [])
  | other :: rest =>
    if (table.lookup? other).isSome then
      let (table, warnings) := registerOtherNames table name rest
      (table, .duplicateKind .query other :: warnings)
    else
      registerOtherNames { table with aliases := Dict.insert table.aliases other name } name rest

/-- Registers a kind with its other names and its builder. -/
def register (table : QueryTable) (kind : QueryKind) : QueryTable × List RegistryWarning :=
  if kind.name = "" then (table, [.emptyName .query])
  else if (table.lookup? kind.name).isSome then (table, [.duplicateKind .query kind.name])
  else
    let table : QueryTable :=
      { table with
        kinds := Dict.insert table.kinds kind.name kind
        builders := Dict.insert table.builders (QueryKind.builderName kind.name) kind.name }
    table.registerOtherNames kind.name kind.aliases

/-- Registers kinds in their order. -/
def registerAll (table : QueryTable) : List QueryKind → QueryTable × List RegistryWarning
  | [] => (table, [])
  | kind :: rest =>
    let (table, warnings) := table.register kind
    let (table, others) := table.registerAll rest
    (table, warnings ++ others)

end QueryTable

namespace AggregationTable

/-- Registers a kind. -/
def register (table : AggregationTable) (kind : AggregationKind) :
    AggregationTable × List RegistryWarning :=
  if kind.name = "" then (table, [.emptyName .aggregation])
  else if (table.lookup? kind.name).isSome then
    (table, [.duplicateKind .aggregation kind.name])
  else (Dict.insert table kind.name kind, [])

/-- Registers kinds in their order. -/
def registerAll (table : AggregationTable) :
    List AggregationKind → AggregationTable × List RegistryWarning
  | [] => (table, [])
  | kind :: rest =>
    let (table, warnings) := table.register kind
    let (table, others) := AggregationTable.registerAll table rest
    (table, warnings ++ others)

end AggregationTable

/-! ## Building -/

/-- Candidates for a registry, in their order, and names to leave out. -/
structure RegistryBuilder where
  queryKinds : List QueryKind := []
  aggregationKinds : List AggregationKind := []
  disabledQueries : List String := []
  disabledAggregations : List String := []

namespace RegistryBuilder

/-- All standard kinds are candidates. -/
def standard : RegistryBuilder :=
  { queryKinds := QueryKind.standard, aggregationKinds := AggregationKind.standard }

/-- Adds a candidate. -/
def addQuery (builder : RegistryBuilder) (kind : QueryKind) : RegistryBuilder :=
  { builder with queryKinds := builder.queryKinds ++ [kind] }

/-- Adds a candidate. -/
def addAggregation (builder : RegistryBuilder) (kind : AggregationKind) : RegistryBuilder :=
  { builder with aggregationKinds := builder.aggregationKinds ++ [kind] }

/-- Leaves out the query kinds with a name or other name. -/
def disableQuery (builder : RegistryBuilder) (name : String) : RegistryBuilder :=
  { builder with disabledQueries := builder.disabledQueries ++ [name] }

/-- Leaves out the aggregation kinds with a name. -/
def disableAggregation (builder : RegistryBuilder) (name : String) : RegistryBuilder :=
  { builder with disabledAggregations := builder.disabledAggregations ++ [name] }

/-- Whether a query kind has a name among its names. -/
def claims (kind : QueryKind) (name : String) : Bool :=
  kind.name = name || kind.aliases.contains name

/-- The query candidates that are not disabled. -/
def enabledQueries (builder : RegistryBuilder) : List QueryKind :=
  builder.queryKinds.filter fun kind => !builder.disabledQueries.any (claims kind)

/-- The aggregation candidates that are not disabled. -/
def enabledAggregations (builder : RegistryBuilder) : List AggregationKind :=
  builder.aggregationKinds.filter fun kind => !builder.disabledAggregations.contains kind.name

/-- The warnings about disabled names that no candidate has. -/
def unknownDisabled (builder : RegistryBuilder) : List RegistryWarning :=
  let queries := builder.disabledQueries.filter fun name =>
    !builder.queryKinds.any fun kind => claims kind name
  let aggregations := builder.disabledAggregations.filter fun name =>
    !builder.aggregationKinds.any fun kind => kind.name = name
  queries.map (.unknownDisabledKind .query) ++ aggregations.map (.unknownDisabledKind .aggregation)

/-- The registry of the candidates, and what is wrong with them. -/
def build (builder : RegistryBuilder) : Registry × List RegistryWarning :=
  let (queries, queryWarnings) := QueryTable.empty.registerAll builder.enabledQueries
  let (aggregations, aggregationWarnings) :=
    AggregationTable.registerAll [] builder.enabledAggregations
  (⟨queries, aggregations⟩, builder.unknownDisabled ++ queryWarnings ++ aggregationWarnings)

end RegistryBuilder

namespace Registry

/-- The standard kinds less the disabled ones, and what is wrong with the disabled names. -/
def standardWithout (disabledQueries disabledAggregations : List String) :
    Registry × List RegistryWarning :=
  { RegistryBuilder.standard with disabledQueries, disabledAggregations }.build

/-- All standard kinds. -/
def standard : Registry := (standardWithout [] []).1

end Registry

end SearchNotation
