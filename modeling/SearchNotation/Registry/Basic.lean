import SearchNotation.Aggregation.Kind
import SearchNotation.Query.Kind

/-!
# Registries

A registry holds the kinds of both families that are in use.
-/

set_option autoImplicit false

namespace SearchNotation

/-- The kinds in use. -/
structure Registry where
  queries : QueryTable
  aggregations : AggregationTable

namespace Registry

/-- A registry without kinds. -/
def empty : Registry := ⟨.empty, []⟩

/-- Whether no kind of either family is in use. -/
def isEmpty (registry : Registry) : Bool :=
  registry.queries.kinds.isEmpty && registry.aggregations.isEmpty

end Registry

end SearchNotation
