import SearchNotation.Compile.Logged
import SearchNotation.Query.Kind

/-!
# Aggregation kinds

An aggregation kind says which parameters an aggregation needs and what the engine is sent for it.
-/

set_option autoImplicit false

namespace SearchNotation

/-- A kind of aggregation. -/
structure AggregationKind where
  name : String
  /-- The engine's name of the kind. -/
  engineName : String
  /-- The parameters that must all be present. -/
  required : List String
  /-- The parameters of which one must be present, if there are any. -/
  oneOf : List String
  /-- Builds the body; embedded queries are compiled with the query kinds in use. -/
  construct : QueryTable → Bag → Logged Json

/-- The aggregation kinds in use, by name. -/
abbrev AggregationTable := Dict AggregationKind

namespace AggregationTable

/-- The kind with a name. -/
def lookup? (table : AggregationTable) (name : String) : Option AggregationKind :=
  Dict.get? table name

/-- The kinds in the order of their names. -/
def toKinds (table : AggregationTable) : List AggregationKind := table.map (·.2)

end AggregationTable

end SearchNotation
