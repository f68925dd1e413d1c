import SearchNotation.Aggregation.Tree
import SearchNotation.Query.Tree
import SearchNotation.Request.Sort

/-!
# Search requests

A request asks one index for the documents of a query, with a page size, an offset or a scroll
cursor, sort keys, a selection of source fields and aggregations. Each setter changes one of these
and leaves the others alone; sort keys and source fields add up.

A scroll is kept alive for whole seconds, so a request for less than one second clears it. While
there is a scroll the offset is not sent.
-/

set_option autoImplicit false

namespace SearchNotation

/-- A search in one index. -/
structure Request where
  index : String
  query : Query
  aggregations : List Aggregation
  /-- The page size. -/
  size : Nat
  /-- The number of documents to pass over. -/
  offset : Nat
  /-- For how many nanoseconds a scroll cursor is kept alive, at least a second's. -/
  keepAlive : Option Nat
  /-- The sort keys, the most significant first. -/
  sort : List SortKey
  /-- The source fields to return, if there are any. -/
  includes : List String
  /-- The source fields to leave out, where none are listed to return. -/
  excludes : List String

namespace Request

/-- The page size where none is set. -/
def defaultSize : Nat := 10

/-- The milliseconds of a second. -/
def second : Nat := 1000

/-- The nanoseconds of a millisecond. -/
def millisecond : Nat := 1000000

/-- A request for the first page. -/
def new (index : String) (query : Query) : Request :=
  { index, query, aggregations := [], size := defaultSize, offset := 0, keepAlive := none,
    sort := [], includes := [], excludes := [] }

/-! ## Setters -/

/-- Sets the aggregations. -/
def setAggregations (r : Request) (aggregations : List Aggregation) : Request :=
  { r with aggregations }

/-- Sets the page size. -/
def setSize (r : Request) (size : Nat) : Request := { r with size }

/-- Sets the offset. -/
def setOffset (r : Request) (offset : Nat) : Request := { r with offset }

/-- Asks for a scroll cursor for some nanoseconds, or for none if they are less than a second. -/
def setKeepAlive (r : Request) (nanoseconds : Nat) : Request :=
  { r with keepAlive := if second * millisecond ≤ nanoseconds then some nanoseconds else none }

/-- Asks for a scroll cursor for some milliseconds. -/
def setScroll (r : Request) (milliseconds : Nat) : Request :=
  r.setKeepAlive (milliseconds * millisecond)

/-- Adds a sort key. -/
def addSort (r : Request) (key : SortKey) : Request := { r with sort := r.sort ++ [key] }

/-- Adds a sort key whose direction is the sign of a number. -/
def addSortSign (r : Request) (field : String) (sign : Int) : Request :=
  r.addSort ⟨field, .ofSign sign⟩

/-- Adds source fields to return. -/
def addIncludes (r : Request) (fields : List String) : Request :=
  { r with includes := r.includes ++ fields }

/-- Adds source fields to leave out. -/
def addExcludes (r : Request) (fields : List String) : Request :=
  { r with excludes := r.excludes ++ fields }

/-! ## What is sent -/

/-- How long the scroll is kept alive, in the engine's units of time. -/
def scrollParam (r : Request) : Option String :=
  r.keepAlive.map fun nanoseconds => s!"{nanoseconds / (second * millisecond)}s"

/-- The selection of source fields, if there is one. -/
def source? (r : Request) : Option Json :=
  if !r.includes.isEmpty then some (Json.single "includes" (Json.ofStrings r.includes))
  else if !r.excludes.isEmpty then some (Json.single "excludes" (Json.ofStrings r.excludes))
  else none

/-- The members of the body. -/
def members (r : Request) : List (String × Json) :=
  [("query", r.query.toJson), ("size", Json.ofNat r.size)]
    ++ (if r.keepAlive.isNone then [("from", Json.ofNat r.offset)] else [])
    ++ (if r.sort.isEmpty then [] else [("sort", .array (r.sort.map SortKey.toJson))])
    ++ r.source?.toList.map (("_source", ·))
    ++ (if r.aggregations.isEmpty then []
        else [("aggs", Aggregation.siblingsToJson r.aggregations)])

/-- The body. -/
def toBody (r : Request) : Json := .object (Dict.ofList r.members)

/-! ## Comparison of settings -/

/-- What one aggregation of a request consists of, but for the signs of zeros. -/
structure AggregationSetting where
  depth : Nat
  kind : String
  name : String
  params : Json
  engineName : String
  body : Json
  deriving DecidableEq

/-- The aggregations of a request, parents first, but for the signs of zeros. -/
def aggregationSettings (r : Request) : List AggregationSetting :=
  (Aggregation.outlines 0 r.aggregations).map fun (depth, a) =>
    { depth, kind := a.kind, name := a.name, engineName := a.engineName
      params := a.params.toJson.mapNumbers .withoutZeroSign
      body := a.body.mapNumbers .withoutZeroSign }

/-- Whether two requests for one query differ in nothing else. -/
def sameSettings (r s : Request) : Bool :=
  r.index = s.index && r.aggregationSettings = s.aggregationSettings && r.size = s.size
    && r.offset = s.offset && r.keepAlive = s.keepAlive && r.sort = s.sort
    && r.includes = s.includes && r.excludes = s.excludes

end Request

end SearchNotation
