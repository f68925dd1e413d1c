import SearchNotation.Json.Writer
import SearchNotation.Registry.Builder
import SearchNotation.Terminal.Table

/-!
# Lists of kinds

The kinds of a registry, as tables in boxes or as JSON with the members in the order of the
columns.
-/

set_option autoImplicit false

namespace SearchNotation.Listing

/-- Names in a cell, with a hyphen for none. -/
def cellOf (names : List String) : String := if names.isEmpty then "-" else ", ".intercalate names

/-! ## Tables -/

/-- The table of query kinds. -/
def queryTable (registry : Registry) : TextTable :=
  { titles := ["Kind", "Aliases", "Arity", "Argument", "Builder"]
    rows := registry.queries.toList.map fun kind =>
      [kind.name, cellOf kind.aliases, kind.arity.name, kind.argument,
        QueryKind.builderName kind.name] }

/-- What an aggregation kind requires: all of some parameters and one of others. -/
def requirement (kind : AggregationKind) : String :=
  if kind.oneOf.isEmpty then cellOf kind.required
  else ", ".intercalate (kind.required ++ [" or ".intercalate kind.oneOf])

/-- The table of aggregation kinds. -/
def aggregationTable (registry : Registry) : TextTable :=
  { titles := ["Kind", "Engine name", "Requires"]
    rows := registry.aggregations.toKinds.map fun kind =>
      [kind.name, kind.engineName, requirement kind] }

/-- The table of a family under its title. -/
def familyText (registry : Registry) : Family → String
  | .query => "Query kinds\n" ++ (queryTable registry).text
  | .aggregation => "Aggregation kinds\n" ++ (aggregationTable registry).text

/-- The families that are listed. -/
def families : Option Family → List Family
  | none => [.query, .aggregation]
  | some family => [family]

/-- The tables of the listed families, with a blank line between them. -/
def text (registry : Registry) (family : Option Family) : String :=
  "\n".intercalate ((families family).map (familyText registry))

/-! ## JSON -/

/-- A query kind. -/
def queryKindJson (kind : QueryKind) : Json :=
  .object [("name", .string kind.name), ("aliases", Json.ofStrings kind.aliases),
    ("arity", .string kind.arity.name), ("argument", .string kind.argument),
    ("accepts_array", .bool kind.acceptsArray),
    ("builder", .string (QueryKind.builderName kind.name))]

/-- An aggregation kind. -/
def aggregationKindJson (kind : AggregationKind) : Json :=
  .object [("name", .string kind.name), ("engine_name", .string kind.engineName),
    ("required", Json.ofStrings kind.required), ("one_of", Json.ofStrings kind.oneOf)]

/-- The kinds of a family under its key. -/
def familyJson (registry : Registry) : Family → String × Json
  | .query => ("queries", .array (registry.queries.toList.map queryKindJson))
  | .aggregation =>
    ("aggregations", .array (registry.aggregations.toKinds.map aggregationKindJson))

/-- The kinds of the listed families. -/
def json (registry : Registry) (family : Option Family) : Json :=
  .object ((families family).map (familyJson registry))

end SearchNotation.Listing
